import ClusterConfig.Yaml.Reader

/-!
# What a reader keeps and what of it shows

A reader keeps a version, a flag, and the works that faults broke off. The works go on together with
the next document: if all of them can be finished nobody notices, and if one of them cannot its
fault becomes that of the document. So a reader reads like a fresh one as long as it has the version
and the flag of one and nothing is left that goes wrong.

Main definitions:

- `Work.CanFinish`: work in which no fault is left.
- `Reader.ReadsLike`: readers that make the same of every text.
- `Reader.IsTransparent`: readers in which nothing shows of what was read before.
- `Reader.IsPlain`: texts that leave such readers as they are.

Main results:

- Theorem `firstFault_eq_none_iff`: works go on together without a fault just where each can finish.
- Theorem `outcome_load_cases`: what is left either does not show or makes the reading fail.
- Theorem `IsTransparent.readsLike_fresh`: a transparent reader reads like a fresh one.
- Theorem `IsTransparent.of_load`: a reader stays transparent over plain texts.
-/

namespace ClusterConfig.Yaml

/-! ## Works that go on together -/

/-- Work can finish if no fault is left in it, by the rules of a version. -/
def Work.CanFinish (v : Version) (w : Work) : Prop :=
  ∃ w', w.finish v = .ok w'

/-- Works go on together without a fault just where each of them can finish. -/
theorem firstFault_eq_none_iff (v : Version) (ws : List Work) :
    firstFault v ws = none ↔ ∀ w ∈ ws, w.CanFinish v := by
  induction ws with
  | nil => simp [firstFault]
  | cons w ws ih =>
    rw [List.forall_mem_cons, ← ih, firstFault, Work.CanFinish]
    cases w.finish v with
    | ok w' => simp
    | error failed => cases firstFault v ws <;> simp

/-- Others that can finish make no difference to the last work. -/
theorem finishAfter_of_none {v : Version} {others : List Work} (h : firstFault v others = none)
    (w : Work) : finishAfter v others w = w.finish v := by
  rw [finishAfter, h]

/-- Where one of the others cannot finish, the last work cannot either. -/
theorem exists_error_finishAfter {v : Version} {others : List Work}
    (h : firstFault v others ≠ none) (w : Work) :
    ∃ failed, finishAfter v others w = .error failed := by
  obtain ⟨failed, hfailed⟩ := Option.ne_none_iff_exists'.mp h
  unfold finishAfter
  rw [hfailed]
  cases w.finish v with
  | ok w' => exact ⟨failed, rfl⟩
  | error other => exact ⟨failed.earlier other, rfl⟩

namespace Reader

/-! ## The outcome of a reading -/

/-- The same reader with nothing left of earlier documents. -/
def cleared (r : Reader) : Reader :=
  { r with left := [] }

/-- What is left does not show in the value of a node if all of it can finish. -/
theorem outcome_make_of_none {r : Reader} (h : firstFault r.edition.version r.resumed = none)
    (graph : Graph) (n : NodeId) : (r.make graph n).1 = (r.cleared.make graph n).1 := by
  have hnone : firstFault r.cleared.edition.version r.cleared.resumed = none := rfl
  have hedition : r.cleared.edition = r.edition := rfl
  have heager : r.cleared.eager = r.eager := rfl
  unfold make
  rw [hedition] at hnone ⊢
  rw [heager]
  dsimp only
  split
  · rfl
  · rename_i part w _
    rw [finishAfter_of_none h, finishAfter_of_none hnone]
    cases w.finish r.edition.version <;> rfl

/-- A node has no value if something is left that cannot finish. -/
theorem exists_error_make {r : Reader} (h : firstFault r.edition.version r.resumed ≠ none)
    (graph : Graph) (n : NodeId) : ∃ fault, (r.make graph n).1 = .error fault := by
  unfold make
  dsimp only
  split
  · rename_i fault _ _
    exact ⟨fault, rfl⟩
  · rename_i part w _
    obtain ⟨failed, hfailed⟩ := exists_error_finishAfter h w
    rw [hfailed]
    exact ⟨failed.fault, rfl⟩

/-- The version in force says what a text comes to: no node, and then only the version can change,
or a node that has to get its value. What is left has a part in the latter alone. -/
theorem load_cases (e : Edition) (text : String) :
    (∃ outcome e', ∀ r : Reader, r.edition = e →
        r.load text = (outcome, { r with edition := e' })) ∨
      ∃ e' graph n, ∀ r : Reader, r.edition = e →
        r.load text = ({ r with edition := e' } : Reader).make graph n := by
  by_cases hallowed : text.toList.all isAllowed = true
  · cases hdocument : (Builder.start e text).document with
    | error halt =>
      refine .inl ⟨.error halt.fault, halt.edition, ?_⟩
      rintro r rfl
      rw [load, hallowed, hdocument]
      rfl
    | ok read =>
      obtain ⟨found, b⟩ := read
      cases found with
      | none =>
        refine .inl ⟨.ok .null, b.edition, ?_⟩
        rintro r rfl
        rw [load, hallowed, hdocument]
        rfl
      | some n =>
        refine .inr ⟨b.edition, b.graph, n, ?_⟩
        rintro r rfl
        rw [load, hallowed, hdocument]
        rfl
  · refine .inl ⟨.error .unprintable, e, ?_⟩
    rintro r rfl
    exact load_of_not_allowed (by simpa using hallowed)

/-- What is left does not show in a reading if all of it can finish in the version of the text. -/
theorem outcome_load_of_canFinish {r : Reader}
    (h : ∀ e : Edition, ∀ w ∈ r.resumed, w.CanFinish e.version) (text : String) :
    (r.load text).1 = (r.cleared.load text).1 := by
  rcases load_cases r.edition text with ⟨outcome, e, hload⟩ | ⟨e, graph, n, hload⟩
  · rw [hload r rfl, hload r.cleared rfl]
  · rw [hload r rfl, hload r.cleared rfl]
    exact outcome_make_of_none (r := { r with edition := e })
      ((firstFault_eq_none_iff _ _).mpr (h e)) graph n

/-- What is left of earlier documents either does not show in a reading or makes it fail. -/
theorem outcome_load_cases (r : Reader) (text : String) :
    (r.load text).1 = (r.cleared.load text).1 ∨ ∃ fault, (r.load text).1 = .error fault := by
  rcases load_cases r.edition text with ⟨outcome, e, hload⟩ | ⟨e, graph, n, hload⟩
  · left
    rw [hload r rfl, hload r.cleared rfl]
  · rw [hload r rfl, hload r.cleared rfl]
    by_cases h : firstFault e.version r.resumed = none
    · exact .inl (outcome_make_of_none (r := { r with edition := e }) h graph n)
    · exact .inr (exists_error_make (r := { r with edition := e }) h graph n)

/-- A reading fails if its text has a document and something is left that cannot finish in the
version of that. -/
theorem exists_error_load {r : Reader} {text : String} {n : NodeId} {b : Builder}
    (hallowed : text.toList.all isAllowed = true)
    (hdocument : (Builder.start r.edition text).document = .ok (some n, b)) {w : Work}
    (hmem : w ∈ r.resumed) (hw : ¬w.CanFinish b.edition.version) :
    ∃ fault, (r.load text).1 = .error fault := by
  have hfault : firstFault b.edition.version r.resumed ≠ none := by
    intro hnone
    exact hw ((firstFault_eq_none_iff _ _).mp hnone w hmem)
  unfold load
  rw [hallowed, hdocument]
  exact exists_error_make (r := { r with edition := b.edition }) hfault b.graph n

/-- Two readers read alike if every text has the same outcome. -/
def ReadsLike (r r' : Reader) : Prop :=
  ∀ text, (r.load text).1 = (r'.load text).1

/-! ## Transparent readers -/

/-- A reader is transparent if it has the version of a fresh one in force, puts collections off like
a fresh one, and keeps only works that can finish, whatever the version of the next document. -/
structure IsTransparent (r : Reader) : Prop where
  edition_eq : r.edition = .current
  eager_eq : r.eager = false
  canFinish : ∀ e : Edition, ∀ w ∈ r.resumed, w.CanFinish e.version

/-- A fresh reader is transparent. -/
theorem isTransparent_fresh : fresh.IsTransparent := by
  refine ⟨rfl, rfl, ?_⟩
  intro e w hw
  cases hw

/-- A transparent reader is a fresh one but for what is left. -/
theorem IsTransparent.cleared_eq {r : Reader} (h : r.IsTransparent) : r.cleared = fresh := by
  unfold cleared fresh
  rw [h.edition_eq, h.eager_eq]

/-- A transparent reader reads every text like a fresh one. -/
theorem IsTransparent.readsLike_fresh {r : Reader} (h : r.IsTransparent) :
    r.ReadsLike fresh := by
  intro text
  rw [outcome_load_of_canFinish h.canFinish, h.cleared_eq]

/-! ## Texts that leave a reader transparent -/

/-- Making a value leaves the version alone. -/
theorem edition_make (r : Reader) (graph : Graph) (n : NodeId) :
    (r.make graph n).2.edition = r.edition := by
  unfold make keep
  dsimp only
  split
  · rfl
  · split <;> rfl

/-- The version that a text leaves in force depends on nothing but the version before it. -/
theorem edition_load_congr {r r' : Reader} (h : r.edition = r'.edition) (text : String) :
    (r.load text).2.edition = (r'.load text).2.edition := by
  rcases load_cases r'.edition text with ⟨outcome, e, hload⟩ | ⟨e, graph, n, hload⟩
  · rw [hload r h, hload r' rfl]
  · rw [hload r h, hload r' rfl, edition_make, edition_make]

/-- After a node got its value nothing is left. -/
theorem make_eq_of_ok {r : Reader} {graph : Graph} {n : NodeId} {v : Value}
    (h : (r.make graph n).1 = .ok v) :
    (r.make graph n).2 = { r with left := [], eager := false } := by
  unfold make at h ⊢
  dsimp only at h ⊢
  split at h
  · cases h
  · rename_i part w _
    cases hfinish : finishAfter r.edition.version r.resumed w with
    | ok w' => rfl
    | error failed =>
      rw [hfinish] at h
      cases h

/-- A text that has a value leaves nothing behind, or what was there before. -/
theorem left_load_of_ok {r : Reader} {text : String} {v : Value} (h : (r.load text).1 = .ok v) :
    ((r.load text).2.left = [] ∧ (r.load text).2.eager = false) ∨
      ((r.load text).2.left = r.left ∧ (r.load text).2.eager = r.eager) := by
  rcases load_cases r.edition text with ⟨outcome, e, hload⟩ | ⟨e, graph, n, hload⟩
  · rw [hload r rfl]
    exact .inr ⟨rfl, rfl⟩
  · rw [hload r rfl] at h ⊢
    rw [make_eq_of_ok h]
    exact .inl ⟨rfl, rfl⟩

/-- A text is plain if a fresh reader can read it and has the current version in force after it. -/
def IsPlain (text : String) : Prop :=
  (∃ v, (fresh.load text).1 = .ok v) ∧ (fresh.load text).2.edition = .current

/-- A reader stays transparent over plain texts. -/
theorem IsTransparent.of_load {r : Reader} {text : String} (h : r.IsTransparent)
    (hplain : IsPlain text) : (r.load text).2.IsTransparent := by
  obtain ⟨⟨v, hv⟩, hedition⟩ := hplain
  have hok : (r.load text).1 = .ok v := by
    rw [h.readsLike_fresh text, hv]
  have hsame : r.edition = fresh.edition := h.edition_eq
  have hcurrent : (r.load text).2.edition = .current := by
    rw [edition_load_congr hsame text]
    exact hedition
  rcases left_load_of_ok hok with ⟨hleft, heager⟩ | ⟨hleft, heager⟩
  · refine ⟨hcurrent, heager, ?_⟩
    intro e w hw
    rw [resumed, hleft] at hw
    cases hw
  · refine ⟨hcurrent, heager.trans h.eager_eq, ?_⟩
    intro e w hw
    rw [resumed, hleft, heager] at hw
    exact h.canFinish e w hw

end Reader

end ClusterConfig.Yaml
