import ClusterConfig.Kubeconfig
import ClusterConfig.Proofs.Encodings

/-!
# What checked documents hold

A kubeconfig document that was loaded is sound: it is a mapping, and each of its sections is a list
or absent. In a sound document every part can be looked up. Only a number that is too long for a
text can still stand in the way of a snapshot.

Main definitions:

- `Kubeconfig.IsSound`: a mapping whose sections are lists or absent.

Main results:

- Theorem `load_of_isPlain`: a file with a plain text holds the document of the text.
- Theorem `isSound_of_document`: documents of files are sound.
- Theorem `eq_longNumber_of_snapshot`: a sound document has a snapshot unless a number is too long.
-/

namespace ClusterConfig.Kubeconfig

/-- The value of a snapshot with its notes is that of the snapshot, in the wording of files. -/
theorem value_snapshotNoted (given : String) (doc : Value) :
    (snapshotNoted given doc).value = (snapshot doc).2.mapError .access :=
  rfl

/-- A kubeconfig file is parsed by what its path leads to. -/
theorem parse_congr {files files' : Files} {path : Path} (h : files path = files' path)
    (reader : Yaml.Reader) (given : String) :
    parse files reader given path = parse files' reader given path := by
  unfold parse load readText Files.readMarkedText
  rw [Files.readWith_congr h]

/-- A document that is loaded is parsed to its snapshot. -/
theorem parse_of_load {files : Files} {reader : Yaml.Reader} {path : Path} {doc : Value}
    (given : String) (h : (load files reader path).1 = .ok doc) :
    (parse files reader given path).1 = snapshotNoted given doc := by
  unfold parse
  dsimp only
  rw [h]

/-- A kubeconfig file with a plain text holds the document of the text. -/
theorem load_of_isPlain {files : Files} {path : Path} {text : String}
    (hgood : path.hasBadName = false) (hfile : files path = .file text.toUTF8)
    (hplain : Text.IsPlain text) (reader : Yaml.Reader) :
    load files reader path = (document path (reader.load text).1, (reader.load text).2) := by
  have hbytes : files.readBytes path = .ok text.toUTF8 := by
    rw [Files.readBytes, hgood, hfile]
    rfl
  have hread : readText files path = .ok text := by
    rw [readText, Files.readMarkedText, Files.readWith, hbytes]
    dsimp only
    rw [Text.decodeMarked?_toUTF8 hplain]
  rw [load, hread]

/-- A document is sound if it is a mapping whose sections are lists or absent. -/
def IsSound (doc : Value) : Prop :=
  ∃ members, doc.members? = some members ∧
    ∀ name ∈ sections, isSection (Value.member members name) = true

/-- A sound document is a mapping. -/
theorem IsSound.isSome_members? {doc : Value} (h : IsSound doc) : doc.members?.isSome = true := by
  obtain ⟨members, hmembers, -⟩ := h
  rw [hmembers]
  rfl

/-- Documents that pass the check are sound. -/
theorem isSound_of_check {path : String} {doc doc' : Value} (h : check path doc = .ok doc') :
    IsSound doc' := by
  unfold check at h
  split at h
  · cases h
    refine ⟨[], rfl, ?_⟩
    intro name _
    rfl
  · split at h
    · cases h
    · rename_i members hmembers
      split at h
      · cases h
      · rename_i hfind
        cases h
        refine ⟨members, hmembers, ?_⟩
        intro name hname
        simpa using List.find?_eq_none.mp hfind name hname

/-- A text that a reader cannot read gives no document. -/
theorem document_error_ne_ok (path : Path) (fault : Yaml.Fault) (doc : Value) :
    document path (.error fault) ≠ .ok doc := by
  unfold document
  dsimp only
  split
  · simp
  · simp

/-- Documents of files are sound. -/
theorem isSound_of_document {path : Path} {outcome : Except Yaml.Fault Value} {doc : Value}
    (h : document path outcome = .ok doc) : IsSound doc := by
  cases outcome with
  | error fault => exact absurd h (document_error_ne_ok path fault doc)
  | ok read =>
    unfold document at h
    dsimp only at h
    split at h
    · rename_i hcheck
      cases h
      exact isSound_of_check hcheck
    · cases h

/-- A section that counts as true is a list. -/
theorem exists_items_of_isSection {v : Value} (h : isSection v = true) (htrue : v.isTrue = true) :
    ∃ items, v.items? = some items := by
  refine Option.isSome_iff_exists.mp ?_
  cases v with
  | null => cases htrue
  | _ => exact h

/-- What can be gone through as a list has its items as elements. -/
theorem elements?_of_items? {v : Value} {items : List Value} (h : v.items? = some items) :
    v.elements? = some items := by
  unfold Value.items? at h
  unfold Value.elements?
  split at h
  · rename_i hopened
    rw [hopened]
    exact h
  · cases h

/-- A section that is a list or absent has entries, maybe none. -/
theorem exists_entries {doc : Value} (hsound : IsSound doc) {sectionName : String}
    (hmem : sectionName ∈ sections) : ∃ items, entries doc sectionName = .ok items := by
  obtain ⟨members, hmembers, hsections⟩ := hsound
  unfold entries get
  rw [hmembers]
  dsimp only
  split
  · rename_i htrue
    obtain ⟨items, hitems⟩ := exists_items_of_isSection (hsections sectionName hmem) htrue
    rw [elements?_of_items? hitems]
    exact ⟨items, rfl⟩
  · exact ⟨[], rfl⟩

/-- The body of an entry is a mapping. -/
theorem isSome_members?_body (bodyKey : String) (entry : Value) :
    (body bodyKey entry).members?.isSome = true := by
  unfold body
  split
  · exact isSome_members?_asMapping _
  · rfl

/-- The entry that a value names in a sound document can be looked up, and its body is a mapping. -/
theorem exists_referredEntry {doc : Value} (hsound : IsSound doc) {sectionName : String}
    (hmem : sectionName ∈ sections) (name : Value) (bodyKey : String) :
    ∃ found, referredEntry doc sectionName name bodyKey = .ok found ∧
      ∀ body, found = some body → body.members?.isSome = true := by
  unfold referredEntry
  split
  · obtain ⟨items, hitems⟩ := exists_entries hsound hmem
    refine ⟨(items.find? (hasName name)).map (body bodyKey), ?_, ?_⟩
    · rw [namedEntry, hitems]
      rfl
    · intro found hfound
      obtain ⟨entry, -, rfl⟩ := Option.map_eq_some_iff.mp hfound
      exact isSome_members?_body bodyKey entry
  · refine ⟨none, rfl, ?_⟩
    intro body hbody
    cases hbody

/-- A mapping has something under every key, if only null. -/
theorem exists_get {mapping : Value} (h : mapping.members?.isSome = true) (key : String) :
    ∃ v, get mapping key = .ok v := by
  obtain ⟨members, hmembers⟩ := Option.isSome_iff_exists.mp h
  refine ⟨Value.member members key, ?_⟩
  rw [get, hmembers]

/-- A body fails to describe something only through a number that is too long. -/
theorem eq_longNumber_of_describe {α : Type} {keys : List String} {of : Value → Value → α}
    {name : Value} {found : Option Value} {fault : AccessFault}
    (h : describe keys of name found = .error fault) : fault = .longNumber := by
  unfold describe at h
  split at h
  · cases h
  · split at h
    · cases h
    · exact (Except.error.inj h).symm

/-- What a context names in a sound document is described, unless a number is too long. -/
theorem eq_longNumber_of_named {α : Type} {doc context : Value} (hsound : IsSound doc)
    (hcontext : context.members?.isSome = true) {sectionName : String}
    (hmem : sectionName ∈ sections) {key bodyKey : String} {keys : List String}
    {of : Value → Value → α} {fault : AccessFault}
    (h : (do
      let name ← get context key
      let found ← referredEntry doc sectionName name bodyKey
      describe keys of name found) = .error fault) : fault = .longNumber := by
  obtain ⟨name, hname⟩ := exists_get hcontext key
  obtain ⟨found, hfound, -⟩ := exists_referredEntry hsound hmem name bodyKey
  rw [hname] at h
  change (referredEntry doc sectionName name bodyKey >>= describe keys of name) = _ at h
  rw [hfound] at h
  exact eq_longNumber_of_describe h

/-- The name of the current context of a sound document is known, unless it is a number that is too
long. -/
theorem eq_longNumber_of_contextName {doc : Value} (hsound : IsSound doc) {fault : AccessFault}
    (h : contextName doc = .error fault) : fault = .longNumber := by
  obtain ⟨name, hname⟩ := exists_get hsound.isSome_members? "current-context"
  unfold contextName at h
  rw [hname] at h
  change (if name.isTrue then if name.isWritable then _ else _ else _) = _ at h
  split at h
  · split at h
    · cases h
    · exact (Except.error.inj h).symm
  · cases h

/-- A context of a sound document has a snapshot, unless a number is too long. -/
theorem eq_longNumber_of_snapshotOf {doc context : Value} (hsound : IsSound doc)
    (hcontext : context.members?.isSome = true) {name : Option String} {fault : AccessFault}
    (h : snapshotOf doc name context = .error fault) : fault = .longNumber := by
  unfold snapshotOf at h
  split at h
  · exact (Except.error.inj h).symm
  · cases hcluster : clusterFor doc context with
    | error clusterFault =>
      rw [hcluster] at h
      cases h
      exact eq_longNumber_of_named hsound hcontext (by decide) hcluster
    | ok cluster =>
      rw [hcluster] at h
      cases huser : userFor doc context with
      | error userFault =>
        rw [huser] at h
        cases h
        exact eq_longNumber_of_named hsound hcontext (by decide) huser
      | ok user =>
        rw [huser] at h
        cases h

/-- A sound document has a snapshot unless a number is too long. -/
theorem eq_longNumber_of_snapshot {doc : Value} (hsound : IsSound doc) {fault : AccessFault}
    (h : (snapshot doc).2 = .error fault) : fault = .longNumber := by
  have hcontexts : "contexts" ∈ sections := by
    decide
  obtain ⟨name, hname⟩ := exists_get hsound.isSome_members? "current-context"
  obtain ⟨found, hfound, hbody⟩ := exists_referredEntry hsound hcontexts name "context"
  have hcurrent : currentContext doc = .ok found := by
    rw [currentContext, hname]
    exact hfound
  unfold snapshot at h
  rw [hcurrent] at h
  cases hcontext : contextName doc with
  | error contextFault =>
    rw [hcontext] at h
    obtain rfl : contextFault = fault := by
      cases found <;> exact Except.error.inj h
    exact eq_longNumber_of_contextName hsound hcontext
  | ok contextName =>
    rw [hcontext] at h
    cases found with
    | none => cases h
    | some context => exact eq_longNumber_of_snapshotOf hsound (hbody context rfl) h

end ClusterConfig.Kubeconfig
