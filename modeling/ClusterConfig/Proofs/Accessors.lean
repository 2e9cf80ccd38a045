import ClusterConfig.Proofs.Referents

/-!
# What the check of a document is enough for

The parts of a document are looked up without any checks of their own. The check that a document
passes when it is loaded is enough for all of them: as long as no number in it is too long for a
text, nothing that is looked up in a loaded document fails, whatever else it holds and wherever.

Main definitions:

- `Kubeconfig.Unsearchable`: the entries of a section cannot be gone through.
- `Kubeconfig.IsAccessible`: nothing that is looked up in a document fails.

Main results:

- Theorem `isWritable_under`: what a value has under a key can be written if the value can.
- Theorem `isAccessible_of_isSound`: nothing that is looked up in a sound document fails.
- Theorem `parse_as_load`: a file is parsed just where it is loaded, and fails as the loading does.
-/

namespace ClusterConfig

/-! ## Parts of values that can be written -/

namespace Value

variable {mark : Nat} {w : Value}

mutual

/-- A value that can be written can be with another one in the places of a mark. -/
theorem isWritable_fill (hw : w.isWritable = true) :
    ∀ v : Value, v.isWritable = true → (fill mark w v).isWritable = true
  | again m => by
    intro _
    unfold fill
    split
    · exact hw
    · rfl
  | knot m v => by
    intro h
    unfold fill
    split
    · exact h
    · rw [isWritable] at h ⊢
      exact isWritable_fill hw v h
  | list xs | tuple xs | set xs => by
    rw [fill, isWritable, isWritable]
    exact areWritable_fillItems hw xs
  | map ms | record ms => by
    rw [fill, isWritable, isWritable]
    exact areWritableMembers_fillMembers hw ms
  | null | bool _ | int _ | float _ | text _ | date _ | moment _ | bytes _ | undefined _ => by
    simp only [fill, imp_self]

theorem areWritable_fillItems (hw : w.isWritable = true) :
    ∀ xs : List Value, areWritable xs = true → areWritable (fillItems mark w xs) = true
  | [] => fun _ => rfl
  | x :: xs => by
    intro h
    rw [areWritable, Bool.and_eq_true] at h
    rw [fillItems, areWritable, isWritable_fill hw x h.1, areWritable_fillItems hw xs h.2]
    rfl

theorem areWritableMembers_fillMembers (hw : w.isWritable = true) :
    ∀ ms : List (Value × Value), areWritableMembers ms = true →
      areWritableMembers (fillMembers mark w ms) = true
  | [] => fun _ => rfl
  | (k, v) :: ms => by
    intro h
    rw [areWritableMembers, Bool.and_eq_true, Bool.and_eq_true] at h
    rw [fillMembers, areWritableMembers, isWritable_fill hw k h.1.1, isWritable_fill hw v h.1.2,
      areWritableMembers_fillMembers hw ms h.2]
    rfl

end

/-- A collection that holds itself can be unfolded to one that can be written. -/
theorem isWritable_opened {v : Value} (h : v.isWritable = true) : v.opened.isWritable = true := by
  unfold opened
  split
  · rename_i mark body
    exact isWritable_fill h body (by simpa only [isWritable] using h)
  · exact h

theorem areWritable_iff {xs : List Value} :
    areWritable xs = true ↔ ∀ x ∈ xs, x.isWritable = true := by
  induction xs with
  | nil => simp [areWritable]
  | cons x xs ih => simp [areWritable, ih]

theorem areWritableMembers_iff {ms : List (Value × Value)} :
    areWritableMembers ms = true ↔
      ∀ m ∈ ms, m.1.isWritable = true ∧ m.2.isWritable = true := by
  induction ms with
  | nil => simp [areWritableMembers]
  | cons m ms ih => simp [areWritableMembers, ih]

/-- The items of a list that can be written can be written. -/
theorem isWritable_of_mem_items {v : Value} (h : v.isWritable = true) {items : List Value}
    (hitems : v.items? = some items) : ∀ item ∈ items, item.isWritable = true := by
  have hopened := isWritable_opened h
  unfold items? at hitems
  split at hitems
  · rename_i xs hlist
    rw [hlist] at hopened
    rw [← Option.some.inj hitems]
    exact areWritable_iff.mp hopened
  · cases hitems

/-- The members of a mapping that can be written can be written. -/
theorem isWritable_of_mem_members {v : Value} (h : v.isWritable = true)
    {members : List (Value × Value)} (hmembers : v.members? = some members) :
    ∀ m ∈ members, m.2.isWritable = true := by
  have hopened := isWritable_opened h
  unfold members? at hmembers
  split at hmembers
  all_goals
    rename_i hmap
  · rw [hmap] at hopened
    rw [← Option.some.inj hmembers]
    exact fun m hm => (areWritableMembers_iff.mp hopened m hm).2
  · rw [hmap] at hopened
    rw [← Option.some.inj hmembers]
    exact fun m hm => (areWritableMembers_iff.mp hopened m hm).2
  · cases hmembers

/-- What a list of members has under a key is the value of one of them, or null. -/
theorem member_cases (members : List (Value × Value)) (key : String) :
    member members key = null ∨ ∃ m ∈ members, member members key = m.2 := by
  unfold member lookup
  cases hfind : members.find? fun m => sameInside (text key) m.1 with
  | none => exact .inl rfl
  | some m => exact .inr ⟨m, List.mem_of_find?_eq_some hfind, rfl⟩

end Value

namespace Kubeconfig

/-- What a value has under a key can be written if the value can. -/
theorem isWritable_under {v : Value} (h : v.isWritable = true) (key : String) :
    (under v key).isWritable = true := by
  unfold under
  cases hmembers : v.members? with
  | none => rfl
  | some members =>
    rcases Value.member_cases members key with hnull | ⟨m, hm, hmember⟩
    · rw [Option.getD_some, hnull]
      rfl
    · rw [Option.getD_some, hmember]
      exact Value.isWritable_of_mem_members h hmembers m hm

/-- The items of a section can be written if the document can. -/
theorem isWritable_of_mem_itemsOf {doc : Value} (h : doc.isWritable = true) {sectionName : String} :
    ∀ item ∈ itemsOf doc sectionName, item.isWritable = true := by
  unfold itemsOf
  cases hitems : (under doc sectionName).items? with
  | none => simp
  | some items => exact Value.isWritable_of_mem_items (isWritable_under h sectionName) hitems

/-- What a value refers to in a document can be written if the document can. -/
theorem Refers.isWritable {doc name entry : Value} {sectionName : String}
    (h : Refers doc sectionName name entry) (hdoc : doc.isWritable = true) :
    entry.isWritable = true := by
  obtain ⟨-, before, after, hitems, -, -⟩ := h
  have hmem : entry ∈ itemsOf doc sectionName := by
    simp [hitems]
  exact isWritable_of_mem_itemsOf hdoc entry hmem

/-! ## Documents that can be written -/

variable {doc context : Value}

/-- All that a context refers to can be written if the document and the context can. -/
theorem contextHasTexts_of_isWritable (hdoc : doc.isWritable = true)
    (hcontext : context.isWritable = true) : ContextHasTexts doc context := by
  have hnamed : ∀ sectionName bodyKey keys key,
      NamedHasTexts doc sectionName bodyKey keys (under context key) := by
    intro sectionName bodyKey keys key named hrefers
    refine ⟨isWritable_under hcontext key, ?_⟩
    intro part _
    exact isWritable_under (isWritable_under (hrefers.isWritable hdoc) bodyKey) part
  exact ⟨isWritable_under hcontext "namespace", hnamed _ _ _ _, hnamed _ _ _ _⟩

/-- All that a snapshot has to say can be written if the document can. -/
theorem hasTexts_of_isWritable (hdoc : doc.isWritable = true) : HasTexts doc := by
  refine ⟨fun _ => isWritable_under hdoc "current-context", ?_⟩
  intro entry hentry
  exact contextHasTexts_of_isWritable hdoc
    (isWritable_under (hentry.isWritable hdoc) "context")

/-- A value can serve as a context if it is a mapping that can be written. -/
structure IsContext (context : Value) : Prop where
  isSome_members? : context.members?.isSome = true
  isWritable : context.isWritable = true

/-- The body of an entry can serve as a context if the entry can be written. -/
theorem isContext_body {entry : Value} (h : entry.isWritable = true) :
    IsContext (body "context" entry) := by
  refine ⟨isSome_members?_body "context" entry, ?_⟩
  unfold body
  cases hmembers : entry.members? with
  | none => rfl
  | some members =>
    have hmember : Value.member members "context" = under entry "context" := by
      unfold under
      rw [hmembers]
      rfl
    dsimp only
    unfold asMapping
    split
    · rw [hmember]
      exact isWritable_under h "context"
    · rfl

/-- Nothing that is looked up in a document fails: neither the current context nor any other, nor
the cluster or the user of a context, be it one of the document or not. -/
structure IsAccessible (doc : Value) : Prop where
  currentContext : ∃ found, currentContext doc = .ok found ∧
    ∀ context, found = some context → IsContext context
  namedEntry : ∀ name, ∃ found, namedEntry doc "contexts" name "context" = .ok found ∧
    ∀ context, found = some context → IsContext context
  clusterFor : ∀ context, IsContext context → ∃ cluster, clusterFor doc context = .ok cluster
  userFor : ∀ context, IsContext context → ∃ user, userFor doc context = .ok user

/-- Nothing that is looked up in a sound document fails if the document can be written. -/
theorem isAccessible_of_isSound (hsound : IsSound doc) (hdoc : doc.isWritable = true) :
    IsAccessible doc where
  currentContext := by
    refine ⟨_, currentContext_of_isSound hsound, ?_⟩
    intro context hfound
    obtain ⟨entry, hentry, rfl⟩ := Option.map_eq_some_iff.mp hfound
    exact isContext_body ((referent?_eq_some_iff.mp hentry).isWritable hdoc)
  namedEntry name := by
    refine ⟨((itemsOf doc "contexts").find? (hasName name)).map (body "context"), ?_, ?_⟩
    · rw [Kubeconfig.namedEntry, entries_of_isSound hsound (by decide)]
      rfl
    · intro context hfound
      obtain ⟨entry, hentry, rfl⟩ := Option.map_eq_some_iff.mp hfound
      exact isContext_body
        (isWritable_of_mem_itemsOf hdoc entry (List.mem_of_find?_eq_some hentry))
  clusterFor context hcontext :=
    ⟨_, (okJustIf_clusterFor hsound hcontext.isSome_members?).1
      (contextHasTexts_of_isWritable hdoc hcontext.isWritable).cluster⟩
  userFor context hcontext :=
    ⟨_, (okJustIf_userFor hsound hcontext.isSome_members?).1
      (contextHasTexts_of_isWritable hdoc hcontext.isWritable).user⟩

/-! ## Documents that were not checked -/

/-- The entries of a section of a document that was not checked cannot be gone through: the document
is no mapping, or the section counts as true and cannot be taken apart. -/
inductive Unsearchable (doc : Value) (sectionName : String) : AccessFault → Prop where
  | notMapping (h : doc.members? = none) : Unsearchable doc sectionName .notMapping
  | notIterable (hdoc : doc.members?.isSome = true) (htrue : (under doc sectionName).isTrue = true)
      (h : (under doc sectionName).elements? = none) : Unsearchable doc sectionName .notIterable

/-- Where the entries of a section cannot be gone through, they are not given. -/
theorem entries_eq_error_iff {sectionName : String} {fault : AccessFault} :
    entries doc sectionName = .error fault ↔ Unsearchable doc sectionName fault := by
  unfold entries
  cases hmembers : doc.members? with
  | none =>
    have hget : get doc sectionName = .error .notMapping := by
      rw [get, hmembers]
    rw [hget]
    constructor
    · intro h
      obtain rfl := Except.error.inj h
      exact .notMapping hmembers
    · rintro (⟨-⟩ | ⟨hdoc, -, -⟩)
      · rfl
      · rw [hmembers] at hdoc
        cases hdoc
  | some members =>
    have hdoc : doc.members?.isSome = true := by
      rw [hmembers]
      rfl
    rw [get_of_isSome_members? hdoc]
    dsimp only
    constructor
    · intro h
      split at h
      · split at h
        · cases h
        · rename_i htrue _ helements
          obtain rfl := Except.error.inj h
          exact .notIterable hdoc htrue helements
      · cases h
    · rintro (⟨hnone⟩ | ⟨-, htrue, helements⟩)
      · rw [hmembers] at hnone
        cases hnone
      · rw [if_pos htrue, helements]

/-- A reference into a section that cannot be gone through fails. -/
theorem referredEntry_of_unsearchable {sectionName : String} {fault : AccessFault}
    (h : Unsearchable doc sectionName fault) {name : Value} (htrue : name.isTrue = true)
    (bodyKey : String) : referredEntry doc sectionName name bodyKey = .error fault := by
  rw [referredEntry, if_pos htrue, namedEntry, entries_eq_error_iff.mpr h]
  rfl

/-- What is looked up in a document that was not checked fails where a reference leads to a section
that cannot be gone through. -/
structure FailsUnchecked (doc : Value) : Prop where
  notMapping : doc.members? = none → currentContext doc = .error .notMapping
  currentContext : ∀ fault, Unsearchable doc "contexts" fault → (current doc).isTrue = true →
    Kubeconfig.currentContext doc = .error fault
  clusterFor : ∀ fault, Unsearchable doc "clusters" fault → ∀ context,
    (under context "cluster").isTrue = true → clusterFor doc context = .error fault
  userFor : ∀ fault, Unsearchable doc "users" fault → ∀ context,
    (under context "user").isTrue = true → userFor doc context = .error fault

/-- Nothing has anything under a key but mappings. -/
theorem isSome_members?_of_isTrue_under {v : Value} {key : String}
    (h : (under v key).isTrue = true) : v.members?.isSome = true := by
  cases hmembers : v.members? with
  | none =>
    rw [under_of_members?_eq_none hmembers] at h
    cases h
  | some members => rfl

theorem failsUnchecked (doc : Value) : FailsUnchecked doc where
  notMapping h := by
    unfold Kubeconfig.currentContext get
    rw [h]
  currentContext fault h htrue := by
    unfold Kubeconfig.currentContext
    rw [get_of_isSome_members? (isSome_members?_of_isTrue_under htrue)]
    exact referredEntry_of_unsearchable h htrue "context"
  clusterFor fault h context htrue := by
    unfold Kubeconfig.clusterFor
    rw [get_of_isSome_members? (isSome_members?_of_isTrue_under htrue)]
    change (referredEntry doc "clusters" _ "cluster").bind _ = _
    rw [referredEntry_of_unsearchable h htrue]
    rfl
  userFor fault h context htrue := by
    unfold Kubeconfig.userFor
    rw [get_of_isSome_members? (isSome_members?_of_isTrue_under htrue)]
    change (referredEntry doc "users" _ "user").bind _ = _
    rw [referredEntry_of_unsearchable h htrue]
    rfl

/-! ## Loading and parsing -/

variable {files : Files} {reader : Yaml.Reader} {path : Path}

/-- A text that cannot be read is reported under the path of its file. -/
theorem path_of_readText {fault : KubeconfigFault}
    (h : readText files path = .error (.unusable fault)) : fault.path = path.toText := by
  unfold readText at h
  split at h
  · cases h
  · cases h
  · cases h
    rfl

/-- A document that is not sound is reported under the path of its file. -/
theorem path_of_check {given : String} {doc : Value} {fault : KubeconfigFault}
    (h : check given doc = .error fault) : fault.path = given := by
  unfold check at h
  split at h
  · cases h
  · split at h
    · cases h
      rfl
    · split at h
      · cases h
        rfl
      · cases h

/-- A file of no use is reported under its path. -/
theorem path_of_load {fault : KubeconfigFault}
    (h : (load files reader path).1 = .error (.unusable fault)) : fault.path = path.toText := by
  unfold load at h
  split at h
  · rename_i other hread
    obtain rfl := Except.error.inj h
    exact path_of_readText hread
  · dsimp only at h
    unfold document at h
    split at h
    · split at h
      · cases h
        rfl
      · cases h
    · split at h
      · cases h
      · rename_i hcheck
        cases h
        exact path_of_check hcheck

/-- A file that is loaded is parsed to what its document means, if that can be written. -/
theorem value_parse_of_isWritable {doc : Value} (hload : (load files reader path).1 = .ok doc)
    (hdoc : doc.isWritable = true) (given : String) :
    (parse files reader given path).1.value = .ok (meant doc) := by
  have htexts := hasTexts_of_isWritable hdoc
  rw [value_parse_eq_ok_iff hload]
  exact (snapshot_of_isSound (isSound_of_load hload)).2.1 htexts

/-- A file that is not loaded is not parsed either. -/
theorem value_parse_of_load_error {fault : LoadFault}
    (hload : (load files reader path).1 = .error fault) (given : String) :
    (parse files reader given path).1.value = .error fault := by
  rw [parse_of_load_error given hload]
  rfl

/-- If no number of a document is too long for a text, a file is not parsed just where it is not
loaded, and for the same reason. -/
theorem value_parse_eq_error_iff
    (hwritable : ∀ doc, (load files reader path).1 = .ok doc → doc.isWritable = true)
    (given : String) (fault : LoadFault) :
    (parse files reader given path).1.value = .error fault ↔
      (load files reader path).1 = .error fault := by
  cases hload : (load files reader path).1 with
  | ok doc =>
    rw [value_parse_of_isWritable hload (hwritable doc hload) given]
    exact iff_of_false (by simp) (by simp)
  | error other =>
    rw [value_parse_of_load_error hload given, Except.error.injEq, Except.error.injEq]

/-- The check of a document is enough for all that comes after it: if no number of a document is too
long for a text, a file is parsed just where it is loaded, to the snapshot that its document stands
for, and fails as the loading does, under the path of the file. Nothing that is looked up in its
document fails, while in a document that was not checked it may. -/
theorem parse_as_load
    (hwritable : ∀ doc, (load files reader path).1 = .ok doc → doc.isWritable = true) :
    (∀ given, (∃ s, (parse files reader given path).1.value = .ok s) ↔
        ∃ doc, (load files reader path).1 = .ok doc) ∧
      (∀ given fault, (parse files reader given path).1.value = .error fault ↔
        (load files reader path).1 = .error fault) ∧
      (∀ given fault, (parse files reader given path).1.value = .error (.unusable fault) →
        fault.path = path.toText) ∧
      (∀ doc, (load files reader path).1 = .ok doc →
        IsAccessible doc ∧ ∀ given s, (parse files reader given path).1.value = .ok s →
          StandsFor doc s) ∧
      ∀ unchecked, FailsUnchecked unchecked := by
  have herror := value_parse_eq_error_iff hwritable
  refine ⟨?_, herror, ?_, ?_, failsUnchecked⟩
  · intro given
    constructor
    · rintro ⟨s, hs⟩
      cases hload : (load files reader path).1 with
      | ok doc => exact ⟨doc, rfl⟩
      | error fault => cases hs.symm.trans (value_parse_of_load_error hload given)
    · rintro ⟨doc, hload⟩
      exact ⟨meant doc, value_parse_of_isWritable hload (hwritable doc hload) given⟩
  · intro given fault hparse
    exact path_of_load ((herror given _).mp hparse)
  · intro doc hload
    have hdoc := hwritable doc hload
    refine ⟨isAccessible_of_isSound (isSound_of_load hload) hdoc, ?_⟩
    intro given s hs
    rw [value_parse_of_isWritable hload hdoc given] at hs
    exact standsFor_iff.mpr (Except.ok.inj hs).symm

/-! ## Three documents -/

/-- A document that holds something unlikely wherever it can. -/
def unlikely : String :=
  "current-context: 1\n" ++
    "contexts: [5, \x7bname: 1, context: \x7bnamespace: [a], user: [u]\x7d\x7d]\n" ++
      "users: [\x7bname: [u], user: 3\x7d]"

/-- A document of unlikely parts has a snapshot, a text that is no document fails under the normal
text of its path, and a document that was not checked can lack what is looked for. -/
theorem parse_as_load_samples :
    (∃ doc, (load (Resolve.worldHolding unlikely).files .fresh (.ofText "config")).1 = .ok doc ∧
        IsAccessible doc ∧
        StandsFor doc ⟨some "1", some "['a']", none,
          some ⟨"['u']", none, none, none, none, none, none, none⟩⟩) ∧
      (∃ fault, (parse (Resolve.worldHolding "[").files .fresh ".//config"
          (.ofText ".//config")).1.value = .error (.unusable fault) ∧ fault.path = "config") ∧
      clusterFor (.map [(.text "clusters", .int 5)]) (.map [(.text "cluster", .text "k")]) =
        .error .notIterable := by
  refine ⟨?_, ?_⟩
  · obtain ⟨doc, hload, hboth⟩ := @Resolve.exists_load_worldHolding unlikely
      (fun doc => doc.isWritable && (snapshot doc).2.toOption.any
        (· = ⟨some "1", some "['a']", none,
          some ⟨"['u']", none, none, none, none, none, none, none⟩⟩)) (by decide +kernel)
    rw [Bool.and_eq_true] at hboth
    obtain ⟨hdoc, hsnapshot⟩ := hboth
    obtain ⟨s, hs, hsame⟩ := Resolve.exists_ok_of_any hsnapshot
    have hwritable : ∀ other,
        (load (Resolve.worldHolding unlikely).files .fresh (.ofText "config")).1 = .ok other →
          other.isWritable = true := by
      intro other hother
      obtain rfl := Except.ok.inj (hload.symm.trans hother)
      exact hdoc
    obtain ⟨-, -, -, hloaded, -⟩ := parse_as_load hwritable
    obtain ⟨haccessible, hstands⟩ := hloaded doc hload
    rw [← of_decide_eq_true hsame]
    exact ⟨doc, hload, haccessible,
      hstands "config" s ((value_parse_eq_ok_iff hload "config" s).mpr hs)⟩
  · have hload : (load (Resolve.worldHolding "[").files .fresh (.ofText ".//config")).1 =
        .error (.unusable (.invalid "config" .badStructure)) :=
      rfl
    have hwritable : ∀ doc,
        (load (Resolve.worldHolding "[").files .fresh (.ofText ".//config")).1 = .ok doc →
          doc.isWritable = true := by
      intro doc hdoc
      cases hload.symm.trans hdoc
    obtain ⟨-, herror, hpath, -, hunchecked⟩ := parse_as_load hwritable
    have hparse := (herror ".//config" _).mpr hload
    refine ⟨⟨_, hparse, hpath ".//config" _ hparse⟩, ?_⟩
    have hsection : under (.map [(.text "clusters", .int 5)]) "clusters" = .int 5 := by
      rw [under_map_cons, if_pos rfl]
    have hnamed : under (.map [(.text "cluster", .text "k")]) "cluster" = .text "k" := by
      rw [under_map_cons, if_pos rfl]
    refine (hunchecked _).clusterFor _ (.notIterable rfl ?_ ?_) _ ?_
    · rw [hsection]
      rfl
    · rw [hsection]
      rfl
    · rw [hnamed]
      rfl

end Kubeconfig

end ClusterConfig
