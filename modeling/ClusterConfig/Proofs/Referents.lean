import ClusterConfig.Proofs.Likeness
import ClusterConfig.Proofs.LongNumbers
import ClusterConfig.Proofs.UnusableFiles

/-!
# What the current context of a document refers to

A document refers from its current context to a context, and from there to a cluster and a user.
Each time the first item of a section that has the name is meant, and nothing else of the section
counts. The snapshot of a document says just what these three items hold. It is there unless
something that it has to say is a number that is too long for a text.

Main definitions:

- `Kubeconfig.under`, `Kubeconfig.itemsOf`: what a value has under a key, the items of a section.
- `Kubeconfig.Refers`, `Kubeconfig.Dangles`: the entry that a value refers to, and a value that
  refers to none.
- `Kubeconfig.StandsFor`: what a snapshot of a document has to say.
- `Kubeconfig.HasTexts`: all that a snapshot has to say can be written.
- `Kubeconfig.SameReferents`: documents that refer to the same entries.

Main results:

- Theorem `snapshot_of_isSound`: the snapshot of a sound document.
- Theorem `parse_dereferences`: a file is parsed to the snapshot that its document stands for.
-/

namespace ClusterConfig.Kubeconfig

/-! ## Parts of values -/

/-- What a value has under a key. Only a mapping has anything. -/
def under (v : Value) (key : String) : Value :=
  Value.member (v.members?.getD []) key

/-- A value under a key of a mapping is what is got from there. -/
theorem get_of_isSome_members? {mapping : Value} (h : mapping.members?.isSome = true)
    (key : String) : get mapping key = .ok (under mapping key) := by
  obtain ⟨members, hmembers⟩ := Option.isSome_iff_exists.mp h
  unfold get under
  rw [hmembers]
  rfl

/-- What is no mapping has nothing under a key. -/
theorem under_of_members?_eq_none {v : Value} (h : v.members? = none) (key : String) :
    under v key = .null := by
  unfold under
  rw [h]
  rfl

/-- The first member under a key counts. -/
theorem under_map_cons (name : String) (v : Value) (members : List (Value × Value)) (key : String) :
    under (.map ((.text name, v) :: members)) key =
      if key = name then v else under (.map members) key := by
  by_cases hkey : key = name
  · simp [under, Value.member, Value.lookup, Value.sameInside, Value.sameIn, hkey]
  · simp [under, Value.member, Value.lookup, Value.sameInside, Value.sameIn, hkey]

/-- The body of an entry has what the entry's value under the key of the body has. -/
@[simp]
theorem under_body (bodyKey : String) (entry : Value) (key : String) :
    under (body bodyKey entry) key = under (under entry bodyKey) key := by
  unfold body
  cases hentry : entry.members? with
  | none =>
    have hnull : under entry bodyKey = .null := under_of_members?_eq_none hentry bodyKey
    rw [hnull]
    rfl
  | some members =>
    have hmember : under entry bodyKey = Value.member members bodyKey := by
      unfold under
      rw [hentry]
      rfl
    rw [hmember]
    dsimp only
    unfold asMapping
    split
    · rfl
    · rename_i hnone
      rw [Option.not_isSome_iff_eq_none] at hnone
      rw [under_of_members?_eq_none hnone]
      rfl

/-- A text in a value is the text of what is under the key. -/
theorem textIn_eq (v : Value) (key : String) : textIn v key = (under v key).asText? := by
  unfold textIn get under
  cases v.members? <;> rfl

/-- A truth value in a value is the one that is spelled under the key. -/
theorem flagIn_eq (v : Value) (key : String) : flagIn v key = (under v key).asFlag? := by
  unfold flagIn get under
  cases v.members? <;> rfl

/-- A value can be written under some keys if what it has under each of them can be. -/
theorem isWritableUnder_iff (v : Value) (keys : List String) :
    isWritableUnder v keys = true ↔ ∀ key ∈ keys, (under v key).isWritable = true := by
  unfold isWritableUnder get under
  rw [List.all_eq_true]
  cases v.members? <;> simp [Value.isWritable]

/-- A cluster is described by what its body has under keys. -/
theorem clusterOf_body (name entry : Value) :
    clusterOf name (body "cluster" entry) = clusterOf name (under entry "cluster") := by
  unfold clusterOf
  simp only [textIn_eq, flagIn_eq, under_body]

/-- A user is described by what its body has under keys. -/
theorem userOf_body (name entry : Value) :
    userOf name (body "user" entry) = userOf name (under entry "user") := by
  unfold userOf
  simp only [textIn_eq, under_body]

/-! ## References -/

/-- The items of a section: none if it is no list. -/
def itemsOf (doc : Value) (sectionName : String) : List Value :=
  (under doc sectionName).items?.getD []

/-- A list that counts as false has no items. -/
theorem items?_of_isTrue_eq_false {v : Value} (h : v.isTrue = false) : v.items?.getD [] = [] := by
  cases v with
  | list items =>
    cases items with
    | nil => rfl
    | cons item items => cases h
  | knot mark body =>
    -- the list may hold itself, but only if it has an item to do so
    cases body with
    | list items =>
      cases items with
      | nil => rfl
      | cons item items => cases h
    | knot inner body =>
      have hopened : ∃ rest, (Value.knot mark (.knot inner body)).opened = .knot inner rest := by
        by_cases hmark : inner = mark
        · exact ⟨body, by simp [Value.opened, Value.fill, hmark]⟩
        · exact ⟨Value.fill mark (.knot mark (.knot inner body)) body,
            by simp [Value.opened, Value.fill, hmark]⟩
      obtain ⟨rest, hrest⟩ := hopened
      unfold Value.items?
      rw [hrest]
      rfl
    | again inner => cases h
    | _ => rfl
  | _ => rfl

/-- The entries of a section of a sound document are its items. -/
theorem entries_of_isSound {doc : Value} (hsound : IsSound doc) {sectionName : String}
    (hmem : sectionName ∈ sections) : entries doc sectionName = .ok (itemsOf doc sectionName) := by
  obtain ⟨members, hmembers, hsections⟩ := hsound
  have hsection := hsections sectionName hmem
  unfold entries get itemsOf under
  rw [hmembers]
  dsimp only [Option.getD_some]
  generalize Value.member members sectionName = v at hsection
  cases htrue : v.isTrue with
  | false =>
    rw [items?_of_isTrue_eq_false htrue]
    rfl
  | true =>
    obtain ⟨items, hitems⟩ := exists_items_of_isSection hsection htrue
    rw [hitems, elements?_of_items? hitems]
    rfl

/-- An entry is the first item of a section that has a name. -/
def IsFirst (doc : Value) (sectionName : String) (name entry : Value) : Prop :=
  ∃ before after, itemsOf doc sectionName = before ++ entry :: after ∧
    hasName name entry = true ∧ ∀ item ∈ before, hasName name item = false

/-- A value refers to the first entry of a section that has it as its name. What counts as false
refers to nothing. -/
def Refers (doc : Value) (sectionName : String) (name entry : Value) : Prop :=
  name.isTrue = true ∧ IsFirst doc sectionName name entry

/-- A value dangles if no entry of a section has it as its name. What counts as false dangles
anyway. -/
def Dangles (doc : Value) (sectionName : String) (name : Value) : Prop :=
  name.isTrue = true → ∀ item ∈ itemsOf doc sectionName, hasName name item = false

/-- The entry that a value refers to, if there is one. -/
def referent? (doc : Value) (sectionName : String) (name : Value) : Option Value :=
  if name.isTrue then (itemsOf doc sectionName).find? (hasName name) else none

theorem referent?_eq_some_iff {doc name entry : Value} {sectionName : String} :
    referent? doc sectionName name = some entry ↔ Refers doc sectionName name entry := by
  unfold referent? Refers IsFirst
  split
  · rename_i htrue
    rw [List.find?_eq_some_iff_append]
    constructor
    · rintro ⟨hname, before, after, hitems, hbefore⟩
      exact ⟨htrue, before, after, hitems, hname, by simpa using hbefore⟩
    · rintro ⟨-, before, after, hitems, hname, hbefore⟩
      exact ⟨hname, before, after, hitems, by simpa using hbefore⟩
  · rename_i hfalse
    simp [hfalse]

theorem referent?_eq_none_iff {doc name : Value} {sectionName : String} :
    referent? doc sectionName name = none ↔ Dangles doc sectionName name := by
  unfold referent? Dangles
  split
  · rename_i htrue
    simp [htrue]
  · rename_i hfalse
    simp [hfalse]

/-- A value refers to one entry at most. -/
theorem Refers.unique {doc name entry other : Value} {sectionName : String}
    (h : Refers doc sectionName name entry) (h' : Refers doc sectionName name other) :
    entry = other := by
  rw [← referent?_eq_some_iff] at h h'
  exact Option.some.inj (h.symm.trans h')

/-- A value that dangles refers to no entry. -/
theorem Dangles.not_refers {doc name : Value} {sectionName : String}
    (h : Dangles doc sectionName name) (entry : Value) : ¬Refers doc sectionName name entry := by
  rw [← referent?_eq_some_iff, referent?_eq_none_iff.mpr h]
  simp

/-- What a value refers to in a sound document is looked up. -/
theorem referredEntry_of_isSound {doc : Value} (hsound : IsSound doc) {sectionName : String}
    (hmem : sectionName ∈ sections) (name : Value) (bodyKey : String) :
    referredEntry doc sectionName name bodyKey =
      .ok ((referent? doc sectionName name).map (body bodyKey)) := by
  unfold referredEntry referent?
  split
  · rw [namedEntry, entries_of_isSound hsound hmem]
    rfl
  · rfl

/-- What is found for a reference is what is known of the entry that it refers to, and nothing if it
dangles. -/
structure IsReferent {α : Type} (doc : Value) (sectionName bodyKey : String)
    (of : Value → Value → α) (name : Value) (found : Option α) : Prop where
  eq_none_iff : found = none ↔ Dangles doc sectionName name
  eq_some : ∀ entry, Refers doc sectionName name entry →
    found = some (of name (under entry bodyKey))

/-- What a reference is known to refer to. -/
def described {α : Type} (doc : Value) (sectionName bodyKey : String) (of : Value → Value → α)
    (name : Value) : Option α :=
  (referent? doc sectionName name).map fun entry => of name (under entry bodyKey)

theorem isReferent_iff {α : Type} {doc : Value} {sectionName bodyKey : String}
    {of : Value → Value → α} {name : Value} {found : Option α} :
    IsReferent doc sectionName bodyKey of name found ↔
      found = described doc sectionName bodyKey of name := by
  unfold described
  cases hreferent : referent? doc sectionName name with
  | none =>
    have hdangles := referent?_eq_none_iff.mp hreferent
    constructor
    · intro h
      exact h.eq_none_iff.mpr hdangles
    · rintro rfl
      refine ⟨iff_of_true rfl hdangles, ?_⟩
      intro entry hentry
      exact absurd hentry (hdangles.not_refers entry)
  | some entry =>
    have hentry := referent?_eq_some_iff.mp hreferent
    constructor
    · intro h
      exact h.eq_some entry hentry
    · rintro rfl
      refine ⟨iff_of_false (by simp) ?_, ?_⟩
      · intro hdangles
        exact hdangles.not_refers entry hentry
      · intro other hother
        rw [hentry.unique hother]
        rfl

/-! ## Snapshots -/

/-- What a document names as its current context. -/
def current (doc : Value) : Value :=
  under doc "current-context"

/-- What a snapshot of a document has to say: the name of the current context unless it counts as
false, and of the context that it refers to the namespace, the cluster and the user. -/
structure StandsFor (doc : Value) (s : Snapshot) : Prop where
  contextName : s.contextName = if (current doc).isTrue then (current doc).asText? else none
  of_dangles : Dangles doc "contexts" (current doc) →
    s.namespaceName = none ∧ s.cluster = none ∧ s.user = none
  of_refers : ∀ entry, Refers doc "contexts" (current doc) entry →
    s.namespaceName = textIn (under entry "context") "namespace" ∧
      IsReferent doc "clusters" "cluster" clusterOf (under (under entry "context") "cluster")
        s.cluster ∧
      IsReferent doc "users" "user" userOf (under (under entry "context") "user") s.user

/-- A name and all that a body has under some keys can be written. -/
def AreTexts (keys : List String) (name body : Value) : Prop :=
  name.isWritable = true ∧ ∀ key ∈ keys, (under body key).isWritable = true

/-- What a name refers to can be written, as far as it is described under some keys. -/
def NamedHasTexts (doc : Value) (sectionName bodyKey : String) (keys : List String) (name : Value) :
    Prop :=
  ∀ named, Refers doc sectionName name named → AreTexts keys name (under named bodyKey)

/-- All that the body of a context says or refers to can be written. -/
structure ContextHasTexts (doc context : Value) : Prop where
  namespaceName : (under context "namespace").isWritable = true
  cluster : NamedHasTexts doc "clusters" "cluster" clusterKeys (under context "cluster")
  user : NamedHasTexts doc "users" "user" userKeys (under context "user")

/-- All that the snapshot of a document has to say can be written. -/
structure HasTexts (doc : Value) : Prop where
  contextName : (current doc).isTrue = true → (current doc).isWritable = true
  context : ∀ entry, Refers doc "contexts" (current doc) entry →
    ContextHasTexts doc (under entry "context")

/-- The text of what a document names as its current context; what counts as false has none. -/
def currentName (doc : Value) : Option String :=
  if (current doc).isTrue then (current doc).asText? else none

attribute [ext] Snapshot

/-- The one snapshot that says what the body of a context has to say. -/
def meantBy (doc : Value) (name : Option String) (context : Value) : Snapshot where
  contextName := name
  namespaceName := textIn context "namespace"
  cluster := described doc "clusters" "cluster" clusterOf (under context "cluster")
  user := described doc "users" "user" userOf (under context "user")

/-- The one snapshot that says what a document has to say. -/
def meant (doc : Value) : Snapshot :=
  match referent? doc "contexts" (current doc) with
  | none => ⟨currentName doc, none, none, none⟩
  | some entry => meantBy doc (currentName doc) (under entry "context")

theorem standsFor_iff {doc : Value} {s : Snapshot} : StandsFor doc s ↔ s = meant doc := by
  unfold meant
  cases hreferent : referent? doc "contexts" (current doc) with
  | none =>
    have hdangles := referent?_eq_none_iff.mp hreferent
    constructor
    · intro h
      obtain ⟨hnamespace, hcluster, huser⟩ := h.of_dangles hdangles
      exact Snapshot.ext h.contextName hnamespace hcluster huser
    · rintro rfl
      refine ⟨rfl, fun _ => ⟨rfl, rfl, rfl⟩, ?_⟩
      intro entry hentry
      exact absurd hentry (hdangles.not_refers entry)
  | some entry =>
    have hentry := referent?_eq_some_iff.mp hreferent
    constructor
    · intro h
      obtain ⟨hnamespace, hcluster, huser⟩ := h.of_refers entry hentry
      rw [isReferent_iff] at hcluster huser
      exact Snapshot.ext h.contextName hnamespace hcluster huser
    · rintro rfl
      refine ⟨rfl, ?_, ?_⟩
      · intro hdangles
        exact absurd hentry (hdangles.not_refers entry)
      · intro other hother
        obtain rfl := hentry.unique hother
        exact ⟨rfl, isReferent_iff.mpr rfl, isReferent_iff.mpr rfl⟩

/-! ## Snapshots that can be written -/

/-- An outcome is a result if a condition holds, and the failure at a number that is too long if
not. -/
def OkJustIf {α : Type} (p : Prop) (a : α) (x : Except AccessFault α) : Prop :=
  (p → x = .ok a) ∧ (¬p → x = .error .longNumber)

namespace OkJustIf

variable {α β : Type} {p q : Prop} {a : α} {x : Except AccessFault α}

theorem ite (a : α) (c : Prop) [Decidable c] (hc : c ↔ p) :
    OkJustIf p a (if c then .ok a else .error .longNumber) := by
  constructor
  · intro hp
    rw [if_pos (hc.mpr hp)]
  · intro hp
    rw [if_neg (fun h => hp (hc.mp h))]

theorem bind (h : OkJustIf p a x) {b : β} {f : α → Except AccessFault β}
    (hf : OkJustIf q b (f a)) : OkJustIf (p ∧ q) b (x.bind f) := by
  constructor
  · rintro ⟨hp, hq⟩
    rw [h.1 hp]
    exact hf.1 hq
  · intro hpq
    by_cases hp : p
    · rw [h.1 hp]
      exact hf.2 (fun hq => hpq ⟨hp, hq⟩)
    · rw [h.2 hp]
      rfl

theorem map (h : OkJustIf p a x) (f : α → β) : OkJustIf p (f a) (x.map f) := by
  constructor
  · intro hp
    rw [h.1 hp]
    rfl
  · intro hp
    rw [h.2 hp]
    rfl

theorem congr (h : OkJustIf p a x) (hpq : p ↔ q) : OkJustIf q a x := by
  rwa [← hpq]

end OkJustIf

variable {doc : Value}

/-- The name of the current context is known if it can be written. -/
theorem okJustIf_contextName (hsound : IsSound doc) :
    OkJustIf ((current doc).isTrue = true → (current doc).isWritable = true) (currentName doc)
      (contextName doc) := by
  have hcontext : contextName doc = if (current doc).isTrue then
      if (current doc).isWritable then .ok (current doc).asText? else .error .longNumber
      else .ok none := by
    unfold contextName
    rw [get_of_isSome_members? hsound.isSome_members?]
    rfl
  rw [hcontext]
  unfold currentName
  split
  · rename_i htrue
    exact .ite _ _ (by simp [htrue])
  · rename_i hfalse
    exact ⟨fun _ => rfl, fun h => absurd (fun htrue => absurd htrue hfalse) h⟩

/-- What a name refers to is described if it can be written. -/
theorem okJustIf_describe {α : Type} {keys : List String} {of : Value → Value → α}
    {bodyKey : String}
    (hof : ∀ name entry, of name (body bodyKey entry) = of name (under entry bodyKey))
    (sectionName : String) (name : Value) :
    OkJustIf (NamedHasTexts doc sectionName bodyKey keys name)
      (described doc sectionName bodyKey of name)
      (describe keys of name ((referent? doc sectionName name).map (body bodyKey))) := by
  unfold described NamedHasTexts
  cases hreferent : referent? doc sectionName name with
  | none =>
    refine ⟨fun _ => rfl, fun h => absurd ?_ h⟩
    intro named hnamed
    exact absurd hnamed ((referent?_eq_none_iff.mp hreferent).not_refers named)
  | some named =>
    have hnamed := referent?_eq_some_iff.mp hreferent
    have htexts : (name.isWritable && isWritableUnder (body bodyKey named) keys) = true ↔
        ∀ other, Refers doc sectionName name other → AreTexts keys name (under other bodyKey) := by
      rw [Bool.and_eq_true, isWritableUnder_iff]
      simp only [under_body]
      constructor
      · intro h other hother
        rwa [← hnamed.unique hother]
      · intro h
        exact h named hnamed
    have hdescribe := OkJustIf.ite (some (of name (body bodyKey named))) _ htexts
    rw [hof] at hdescribe
    unfold describe
    dsimp only [Option.map_some]
    rwa [hof]

/-- The cluster that a context names is described if it can be written. -/
theorem okJustIf_clusterFor (hsound : IsSound doc) {context : Value}
    (hcontext : context.members?.isSome = true) :
    OkJustIf (NamedHasTexts doc "clusters" "cluster" clusterKeys (under context "cluster"))
      (described doc "clusters" "cluster" clusterOf (under context "cluster"))
      (clusterFor doc context) := by
  unfold clusterFor
  rw [get_of_isSome_members? hcontext]
  change OkJustIf _ _ ((referredEntry doc "clusters" _ "cluster").bind _)
  rw [referredEntry_of_isSound hsound (by decide)]
  exact okJustIf_describe clusterOf_body "clusters" _

/-- The user that a context names is described if it can be written. -/
theorem okJustIf_userFor (hsound : IsSound doc) {context : Value}
    (hcontext : context.members?.isSome = true) :
    OkJustIf (NamedHasTexts doc "users" "user" userKeys (under context "user"))
      (described doc "users" "user" userOf (under context "user")) (userFor doc context) := by
  unfold userFor
  rw [get_of_isSome_members? hcontext]
  change OkJustIf _ _ ((referredEntry doc "users" _ "user").bind _)
  rw [referredEntry_of_isSound hsound (by decide)]
  exact okJustIf_describe userOf_body "users" _

/-- A context is known with all that it names if it can be written. -/
theorem okJustIf_snapshotOf (hsound : IsSound doc) (name : Option String) {context : Value}
    (hcontext : context.members?.isSome = true) :
    OkJustIf (ContextHasTexts doc context) (meantBy doc name context)
      (snapshotOf doc name context) := by
  have hnamespace : isWritableUnder context ["namespace"] = true ↔
      (under context "namespace").isWritable = true := by
    rw [isWritableUnder_iff]
    simp
  have hnamed : OkJustIf _ (meantBy doc name context)
      ((clusterFor doc context).bind fun cluster =>
        (userFor doc context).map fun user =>
          (⟨name, textIn context "namespace", cluster, user⟩ : Snapshot)) :=
    (okJustIf_clusterFor hsound hcontext).bind ((okJustIf_userFor hsound hcontext).map _)
  rw [snapshotOf_eq]
  constructor
  · intro htexts
    rw [if_pos (hnamespace.mpr htexts.namespaceName)]
    exact hnamed.1 ⟨htexts.cluster, htexts.user⟩
  · intro hnot
    split
    · rename_i hwritable
      exact hnamed.2 (fun h => hnot ⟨hnamespace.mp hwritable, h.1, h.2⟩)
    · rfl

/-- The body of an entry means what the entry's value under the key of the body means. -/
theorem meantBy_body (doc : Value) (name : Option String) (entry : Value) :
    meantBy doc name (body "context" entry) = meantBy doc name (under entry "context") := by
  unfold meantBy
  simp only [textIn_eq, under_body]

theorem contextHasTexts_body_iff {entry : Value} :
    ContextHasTexts doc (body "context" entry) ↔ ContextHasTexts doc (under entry "context") := by
  constructor
  · rintro ⟨hnamespace, hcluster, huser⟩
    rw [under_body] at hnamespace hcluster huser
    exact ⟨hnamespace, hcluster, huser⟩
  · rintro ⟨hnamespace, hcluster, huser⟩
    rw [← under_body] at hnamespace hcluster huser
    exact ⟨hnamespace, hcluster, huser⟩

/-- The current context of a sound document is found just where it refers to an entry. -/
theorem currentContext_of_isSound (hsound : IsSound doc) :
    currentContext doc = .ok ((referent? doc "contexts" (current doc)).map (body "context")) := by
  unfold currentContext
  rw [get_of_isSome_members? hsound.isSome_members?]
  exact referredEntry_of_isSound hsound (by decide) _ _

/-- The snapshot of a sound document is the one that is meant if it can be written. -/
theorem snapshot_of_isSound (hsound : IsSound doc) :
    (snapshot doc).1 = (referent? doc "contexts" (current doc)).isSome ∧
      OkJustIf (HasTexts doc) (meant doc) (snapshot doc).2 := by
  have hname := okJustIf_contextName hsound
  unfold snapshot meant
  rw [currentContext_of_isSound hsound]
  cases hreferent : referent? doc "contexts" (current doc) with
  | none =>
    have hunnamed := hname.map fun name => (⟨name, none, none, none⟩ : Snapshot)
    refine ⟨rfl, hunnamed.congr ⟨fun hcurrent => ⟨hcurrent, ?_⟩, HasTexts.contextName⟩⟩
    intro entry hentry
    exact absurd hentry ((referent?_eq_none_iff.mp hreferent).not_refers entry)
  | some entry =>
    have hentry := referent?_eq_some_iff.mp hreferent
    have hbody := okJustIf_snapshotOf hsound (currentName doc)
      (isSome_members?_body "context" entry)
    rw [meantBy_body] at hbody
    refine ⟨rfl, (hname.bind (hbody.congr contextHasTexts_body_iff)).congr ?_⟩
    constructor
    · rintro ⟨hcurrent, hcontext⟩
      refine ⟨hcurrent, ?_⟩
      intro other hother
      rwa [← hentry.unique hother]
    · intro h
      exact ⟨h.contextName, h.context entry hentry⟩

/-! ## Documents that refer to the same entries -/

/-- Two documents refer to the same entries if they name the same current context, and if that is
the same entry, and the cluster and the user that it names are. -/
structure SameReferents (doc doc' : Value) : Prop where
  current : current doc = current doc'
  contexts : ∀ entry, Refers doc "contexts" (Kubeconfig.current doc) entry ↔
    Refers doc' "contexts" (Kubeconfig.current doc) entry
  clusters : ∀ entry, Refers doc "contexts" (Kubeconfig.current doc) entry →
    ∀ named, Refers doc "clusters" (under (under entry "context") "cluster") named ↔
      Refers doc' "clusters" (under (under entry "context") "cluster") named
  users : ∀ entry, Refers doc "contexts" (Kubeconfig.current doc) entry →
    ∀ named, Refers doc "users" (under (under entry "context") "user") named ↔
      Refers doc' "users" (under (under entry "context") "user") named

variable {doc' : Value}

/-- What refers to the same entries in two documents is looked up with the same result. -/
theorem referent?_congr {sectionName : String} {name : Value}
    (h : ∀ entry, Refers doc sectionName name entry ↔ Refers doc' sectionName name entry) :
    referent? doc sectionName name = referent? doc' sectionName name := by
  refine Option.ext ?_
  intro entry
  rw [referent?_eq_some_iff, referent?_eq_some_iff]
  exact h entry

/-- Documents that refer to the same entries mean the same. -/
theorem SameReferents.meant_eq (h : SameReferents doc doc') : meant doc = meant doc' := by
  have hcontexts := referent?_congr h.contexts
  unfold meant currentName
  rw [← h.current, ← hcontexts]
  cases hreferent : referent? doc "contexts" (Kubeconfig.current doc) with
  | none => rfl
  | some entry =>
    have hentry := referent?_eq_some_iff.mp hreferent
    dsimp only
    unfold meantBy described
    rw [referent?_congr (h.clusters entry hentry), referent?_congr (h.users entry hentry)]

/-- It does not matter which of two documents that refer to the same entries comes first. -/
theorem SameReferents.symm (h : SameReferents doc doc') : SameReferents doc' doc := by
  obtain ⟨hcurrent, hcontexts, hclusters, husers⟩ := h
  refine ⟨hcurrent.symm, ?_, ?_, ?_⟩
  all_goals
    rw [← hcurrent]
    intro entry
  · exact (hcontexts entry).symm
  · intro hentry named
    exact (hclusters entry ((hcontexts entry).mpr hentry) named).symm
  · intro hentry named
    exact (husers entry ((hcontexts entry).mpr hentry) named).symm

/-- Documents that refer to the same entries can be written alike. -/
theorem SameReferents.hasTexts (h : SameReferents doc doc') (htexts : HasTexts doc) :
    HasTexts doc' := by
  constructor
  · rw [← h.current]
    exact htexts.contextName
  · rw [← h.current]
    intro entry hentry
    have hentry' := (h.contexts entry).mpr hentry
    obtain ⟨hnamespace, hcluster, huser⟩ := htexts.context entry hentry'
    refine ⟨hnamespace, ?_, ?_⟩
    · intro named hnamed
      exact hcluster named ((h.clusters entry hentry' named).mpr hnamed)
    · intro named hnamed
      exact huser named ((h.users entry hentry' named).mpr hnamed)

/-- Sound documents that refer to the same entries have the same snapshot, or both have none. -/
theorem SameReferents.snapshot_eq (h : SameReferents doc doc') (hsound : IsSound doc)
    (hsound' : IsSound doc') : snapshot doc = snapshot doc' := by
  obtain ⟨hfound, hok, herror⟩ := snapshot_of_isSound hsound
  obtain ⟨hfound', hok', herror'⟩ := snapshot_of_isSound hsound'
  refine Prod.ext ?_ ?_
  · rw [hfound, hfound', ← h.current, referent?_congr h.contexts]
  · by_cases htexts : HasTexts doc
    · rw [hok htexts, hok' (h.hasTexts htexts), h.meant_eq]
    · rw [herror htexts, herror' (fun htexts' => htexts (h.symm.hasTexts htexts'))]

/-! ## Parsing a file -/

variable {files : Files} {reader : Yaml.Reader} {path : Path}

/-- A file that is loaded is parsed to the snapshot of its document. -/
theorem value_parse_eq_ok_iff (hload : (load files reader path).1 = .ok doc) (given : String)
    (s : Snapshot) :
    (parse files reader given path).1.value = .ok s ↔ (snapshot doc).2 = .ok s := by
  rw [parse_of_load given hload, value_snapshotNoted]
  cases (snapshot doc).2 <;> simp [Except.mapError]

/-- A file is parsed to the one snapshot that its document stands for, unless that has to say
something that is a number too long for a text. Nothing of the document counts but the entries that
it refers to: whatever other document refers to the same entries is parsed to the same. -/
theorem parse_dereferences (hload : (load files reader path).1 = .ok doc) :
    (∀ given s, (parse files reader given path).1.value = .ok s ↔ HasTexts doc ∧ StandsFor doc s) ∧
      (∀ given, (parse files reader given path).1.value = .error (.access .longNumber) ↔
        ¬HasTexts doc) ∧
      (∃! s, StandsFor doc s) ∧
      ∀ {files' reader' path' doc'}, (load files' reader' path').1 = .ok doc' →
        SameReferents doc doc' → ∀ given,
          (parse files reader given path).1 = (parse files' reader' given path').1 := by
  have hsound := isSound_of_load hload
  obtain ⟨-, hok, herror⟩ := snapshot_of_isSound hsound
  refine ⟨?_, ?_, ⟨meant doc, standsFor_iff.mpr rfl, fun s hs => standsFor_iff.mp hs⟩, ?_⟩
  · intro given s
    rw [value_parse_eq_ok_iff hload, standsFor_iff]
    by_cases htexts : HasTexts doc
    · rw [hok htexts]
      constructor
      · intro h
        exact ⟨htexts, (Except.ok.inj h).symm⟩
      · rintro ⟨-, rfl⟩
        rfl
    · rw [herror htexts]
      exact iff_of_false (by simp) (fun h => htexts h.1)
  · intro given
    rw [parse_of_load given hload, value_snapshotNoted]
    by_cases htexts : HasTexts doc
    · rw [hok htexts]
      exact iff_of_false (by simp [Except.mapError]) (fun h => h htexts)
    · rw [herror htexts]
      exact iff_of_true rfl htexts
  · intro files' reader' path' doc' hload' hsame given
    rw [parse_of_load given hload, parse_of_load given hload']
    unfold snapshotNoted
    rw [hsame.snapshot_eq hsound (isSound_of_load hload')]

/-! ## Two files that refer to the same entries -/

/-- A document with later entries of the same names, which do not count. -/
def shadowing : String :=
  "current-context: c\n" ++
    "contexts: [\x7bname: c, context: \x7bcluster: k\x7d\x7d, \x7bname: c\x7d]\n" ++
      "clusters: [\x7bname: k\x7d, \x7bname: k, cluster: \x7bserver: a\x7d\x7d]"

/-- A document with the entries that count, in another place and among others. -/
def reordered : String :=
  "clusters: [\x7bname: l\x7d, \x7bname: k\x7d]\n" ++
    "contexts: [\x7bname: c, context: \x7bcluster: k\x7d\x7d]\n" ++ "current-context: c"

/-- The entry of the context. -/
def sampleContext : Value :=
  .map [(.text "name", .text "c"), (.text "context", .map [(.text "cluster", .text "k")])]

/-- Whether an entry is the one of the context. -/
def isSampleContext : Value → Bool
  | .map [(.text "name", .text "c"), (.text "context", .map [(.text "cluster", .text "k")])] => true
  | _ => false

/-- Whether an entry is the one of the cluster, which has no body. -/
def isSampleCluster : Value → Bool
  | .map [(.text "name", .text "k")] => true
  | _ => false

/-- Whether a document refers to the two entries. -/
def isSample (doc : Value) : Bool :=
  (current doc).text? = some "c" ∧ (referent? doc "contexts" (.text "c")).any isSampleContext ∧
    (referent? doc "clusters" (.text "k")).any isSampleCluster

theorem of_isSample (h : isSample doc = true) :
    current doc = .text "c" ∧
      referent? doc "contexts" (.text "c") = some sampleContext ∧
      referent? doc "clusters" (.text "k") = some (.map [(.text "name", .text "k")]) := by
  unfold isSample at h
  rw [decide_eq_true_iff, Option.any_eq_true, Option.any_eq_true] at h
  obtain ⟨hcurrent, ⟨context, hcontext, hsame⟩, ⟨cluster, hcluster, hsame'⟩⟩ := h
  refine ⟨?_, ?_, ?_⟩
  · unfold Value.text? at hcurrent
    split at hcurrent
    · rename_i s hs
      rw [hs, Option.some.inj hcurrent]
    · cases hcurrent
  · rw [hcontext]
    unfold isSampleContext at hsame
    split at hsame
    · rfl
    · cases hsame
  · rw [hcluster]
    unfold isSampleCluster at hsame'
    split at hsame'
    · rfl
    · cases hsame'

/-- The context names the cluster and no user. -/
theorem under_sampleContext :
    under (under sampleContext "context") "cluster" = .text "k" ∧
      under (under sampleContext "context") "user" = .null := by
  have hnone : under (.map []) "user" = .null := rfl
  constructor
  · simp [sampleContext, under_map_cons]
  · simp [sampleContext, under_map_cons, hnone]

/-- Two documents that refer to the two entries refer to the same. -/
theorem sameReferents_of_isSample (h : isSample doc = true) (h' : isSample doc' = true) :
    SameReferents doc doc' := by
  obtain ⟨hcurrent, hcontext, hcluster⟩ := of_isSample h
  obtain ⟨hcurrent', hcontext', hcluster'⟩ := of_isSample h'
  obtain ⟨hnamed, hunnamed⟩ := under_sampleContext
  constructor
  · rw [hcurrent, hcurrent']
  all_goals
    rw [hcurrent]
    intro entry
  · rw [← referent?_eq_some_iff, ← referent?_eq_some_iff, hcontext, hcontext']
  all_goals
    intro hentry named
    obtain rfl := Option.some.inj (hcontext.symm.trans (referent?_eq_some_iff.mpr hentry))
    rw [← referent?_eq_some_iff, ← referent?_eq_some_iff]
  · rw [hnamed, hcluster, hcluster']
  · rw [hunnamed]
    exact iff_of_eq rfl

/-- The first of the entries with a name counts, although it has no body. -/
theorem parse_dereferences_sample :
    (parse (Resolve.worldHolding shadowing).files .fresh "config" (.ofText "config")).1 =
        (parse (Resolve.worldHolding reordered).files .fresh "config" (.ofText "config")).1 ∧
      ∃ doc, (load (Resolve.worldHolding shadowing).files .fresh (.ofText "config")).1 = .ok doc ∧
        StandsFor doc ⟨some "c", none, some ⟨"k", none, none, none, none⟩, none⟩ := by
  obtain ⟨doc, hload, hboth⟩ := @Resolve.exists_load_worldHolding shadowing
    (fun doc => isSample doc && (snapshot doc).2.toOption.any
      (· = ⟨some "c", none, some ⟨"k", none, none, none, none⟩, none⟩)) (by decide +kernel)
  obtain ⟨doc', hload', hsample'⟩ :=
    @Resolve.exists_load_worldHolding reordered isSample (by decide +kernel)
  rw [Bool.and_eq_true] at hboth
  obtain ⟨hsample, hsnapshot⟩ := hboth
  obtain ⟨s, hs, hsame⟩ := Resolve.exists_ok_of_any hsnapshot
  obtain ⟨hok, -, -, hlocal⟩ := parse_dereferences hload
  refine ⟨hlocal hload' (sameReferents_of_isSample hsample hsample') "config", doc, hload, ?_⟩
  rw [← of_decide_eq_true hsame]
  exact ((hok "config" s).mp ((value_parse_eq_ok_iff hload "config" s).mpr hs)).2

end ClusterConfig.Kubeconfig
