import ClusterConfig.Draft

/-!
# What filling comes to

Every source fills a draft from a list of candidates. Here the list is taken apart by fields: for
one field only the first candidate counts that is a value at all, and it counts only where the field
is still open.

Main results:

- Theorem `values_fill`: a filled field keeps its value, an open one takes the first that is
  offered.
- Theorems `mem_filled_iff`, `nodup_filled`: filling names just those open fields for which
  something is offered, and each of them once.
- Theorem `offered_knownValues`: a caller offers for a field what stands under the field's name.
-/

namespace ClusterConfig.Draft

/-- The first value that candidates offer for a field, null if they offer none. -/
def offered (f : Field) : List (Field × Value) → Value
  | [] => .null
  | (g, v) :: candidates =>
    if g = f then v.orElse (offered f candidates) else offered f candidates

@[simp]
theorem offered_nil (f : Field) : offered f [] = .null :=
  rfl

theorem offered_cons_self (f : Field) (v : Value) (candidates : List (Field × Value)) :
    offered f ((f, v) :: candidates) = v.orElse (offered f candidates) := by
  simp [offered]

theorem offered_cons_of_ne {f g : Field} (h : g ≠ f) (v : Value)
    (candidates : List (Field × Value)) :
    offered f ((g, v) :: candidates) = offered f candidates := by
  simp [offered, h]

/-- A null candidate offers nothing. -/
theorem offered_cons_null (f g : Field) (candidates : List (Field × Value)) :
    offered f ((g, .null) :: candidates) = offered f candidates := by
  by_cases h : g = f
  · subst h
    rw [offered_cons_self, Value.null_orElse]
  · exact offered_cons_of_ne h .null candidates

/-! ## The fields after filling -/

/-- A candidate that is null, or whose field is filled, is passed over. -/
theorem fill_cons_of_skip {d : Draft} {f : Field} {v : Value} (h : v = .null ∨ d.values f ≠ .null)
    (candidates : List (Field × Value)) :
    d.fill ((f, v) :: candidates) = d.fill candidates := by
  have hskip : (v.isNull || d.isSet f) = true := by
    rcases h with rfl | hset
    · rfl
    · rw [isSet_eq_true.mpr hset, Bool.or_true]
  rw [fill, if_pos hskip]

/-- A candidate for an open field fills it. -/
theorem fill_cons_of_take {d : Draft} {f : Field} {v : Value} (hv : v ≠ .null)
    (hopen : d.values f = .null) (candidates : List (Field × Value)) :
    d.fill ((f, v) :: candidates) =
      (((d.set f v).fill candidates).1, f :: ((d.set f v).fill candidates).2) := by
  have htake : ¬(v.isNull || d.isSet f) = true := by
    simp [hv, hopen]
  rw [fill, if_neg htake]

/-- A candidate is passed over or fills its field, and then the others follow. -/
theorem fill_cons_cases (d : Draft) (f : Field) (v : Value) (candidates : List (Field × Value)) :
    ((v = .null ∨ d.values f ≠ .null) ∧ d.fill ((f, v) :: candidates) = d.fill candidates) ∨
      (v ≠ .null ∧ d.values f = .null ∧ d.fill ((f, v) :: candidates) =
        (((d.set f v).fill candidates).1, f :: ((d.set f v).fill candidates).2)) := by
  by_cases hskip : v = .null ∨ d.values f ≠ .null
  · exact .inl ⟨hskip, fill_cons_of_skip hskip candidates⟩
  · obtain ⟨hv, hopen⟩ : v ≠ .null ∧ d.values f = .null := by
      simpa using hskip
    exact .inr ⟨hv, hopen, fill_cons_of_take hv hopen candidates⟩

/-- A filled field keeps its value, and an open one takes the first that is offered. -/
theorem values_fill (d : Draft) (candidates : List (Field × Value)) (f : Field) :
    (d.fill candidates).1.values f = (d.values f).orElse (offered f candidates) := by
  induction candidates generalizing d with
  | nil => simp
  | cons candidate candidates ih =>
    obtain ⟨g, v⟩ := candidate
    rcases fill_cons_cases d g v candidates with ⟨hskip, heq⟩ | ⟨hv, hopen, heq⟩
    · rw [heq, ih]
      rcases hskip with rfl | hset
      · rw [offered_cons_null]
      · by_cases hg : g = f
        · subst hg
          rw [Value.orElse_of_ne_null hset, Value.orElse_of_ne_null hset]
        · rw [offered_cons_of_ne hg]
    · rw [heq, ih]
      by_cases hg : g = f
      · subst hg
        rw [values_set_self, offered_cons_self, hopen, Value.null_orElse]
      · rw [values_set_of_ne d (Ne.symm hg), offered_cons_of_ne hg]

/-- Filling names just those open fields for which something is offered. -/
theorem mem_filled_iff (d : Draft) (candidates : List (Field × Value)) (f : Field) :
    f ∈ (d.fill candidates).2 ↔ d.values f = .null ∧ offered f candidates ≠ .null := by
  induction candidates generalizing d with
  | nil => simp
  | cons candidate candidates ih =>
    obtain ⟨g, v⟩ := candidate
    rcases fill_cons_cases d g v candidates with ⟨hskip, heq⟩ | ⟨hv, hopen, heq⟩
    · rw [heq, ih]
      rcases hskip with rfl | hset
      · rw [offered_cons_null]
      · by_cases hg : g = f
        · subst hg
          simp [hset]
        · rw [offered_cons_of_ne hg]
    · rw [heq, List.mem_cons, ih]
      by_cases hg : g = f
      · subst hg
        simp [offered_cons_self, hopen, Value.orElse_of_ne_null hv, hv]
      · rw [values_set_of_ne d (Ne.symm hg), offered_cons_of_ne hg]
        simp [Ne.symm hg]

/-- Nothing is filled just where candidates offer nothing for any open field. -/
theorem filled_isEmpty_iff (d : Draft) (candidates : List (Field × Value)) :
    (d.fill candidates).2.isEmpty = true ↔
      ∀ f, d.values f = .null → offered f candidates = .null := by
  rw [List.isEmpty_iff, List.eq_nil_iff_forall_not_mem]
  simp only [mem_filled_iff, not_and, ne_eq, Classical.not_not]

/-- A single candidate fills its field just where that is open and the candidate is a value. -/
theorem filled_singleton_isEmpty_iff (d : Draft) (f : Field) (v : Value) :
    (d.fill [(f, v)]).2.isEmpty = true ↔ ¬(d.values f = .null ∧ v ≠ .null) := by
  rcases fill_cons_cases d f v [] with ⟨hskip, heq⟩ | ⟨hv, hopen, heq⟩
  · rw [heq]
    rcases hskip with hv | hset
    · simp [hv]
    · simp [hset]
  · rw [heq]
    simp [hv, hopen]

/-- No field is named twice. -/
theorem nodup_filled (d : Draft) (candidates : List (Field × Value)) :
    (d.fill candidates).2.Nodup := by
  induction candidates generalizing d with
  | nil => exact List.nodup_nil
  | cons candidate candidates ih =>
    obtain ⟨f, v⟩ := candidate
    rcases fill_cons_cases d f v candidates with ⟨-, heq⟩ | ⟨hv, -, heq⟩
    · rw [heq]
      exact ih d
    · rw [heq]
      refine List.nodup_cons.mpr ⟨?_, ih (d.set f v)⟩
      rw [mem_filled_iff, values_set_self]
      exact fun h => hv h.1

/-- Filling leaves the spare names alone. -/
@[simp]
theorem spares_fill (d : Draft) (candidates : List (Field × Value)) :
    (d.fill candidates).1.spares = d.spares := by
  induction candidates generalizing d with
  | nil => rfl
  | cons candidate candidates ih =>
    obtain ⟨f, v⟩ := candidate
    simp only [fill]
    split
    · exact ih d
    · exact ih (d.set f v)

/-- Drafts that agree on all that they hold are one. -/
theorem eq_of_fields {d e : Draft} (hvalues : ∀ f, d.values f = e.values f)
    (hmessages : d.messages = e.messages) (hspares : d.spares = e.spares) : d = e := by
  cases d
  cases e
  obtain rfl := funext hvalues
  obtain rfl := hmessages
  obtain rfl := hspares
  rfl

/-! ## Candidates from a function and from a caller -/

/-- Candidates for other fields offer nothing. -/
theorem offered_map_of_not_mem (value : Field → Value) {f : Field} {fields : List Field}
    (h : f ∉ fields) : offered f (fields.map fun g => (g, value g)) = .null := by
  induction fields with
  | nil => rfl
  | cons g fields ih =>
    obtain ⟨hg, hrest⟩ : f ≠ g ∧ f ∉ fields := by
      simpa using h
    rw [List.map_cons, offered_cons_of_ne (Ne.symm hg)]
    exact ih hrest

/-- Where each of several fields has a candidate of its own, that candidate is offered. -/
theorem offered_map (value : Field → Value) {f : Field} {fields : List Field} (h : f ∈ fields)
    (hnodup : fields.Nodup) : offered f (fields.map fun g => (g, value g)) = value f := by
  induction fields with
  | nil => cases h
  | cons g fields ih =>
    obtain ⟨hnew, hrest⟩ := List.nodup_cons.mp hnodup
    rw [List.map_cons]
    by_cases hg : g = f
    · subst hg
      rw [offered_cons_self, offered_map_of_not_mem value hnew, Value.orElse_null]
    · rw [offered_cons_of_ne hg]
      rcases List.mem_cons.mp h with rfl | hmem
      · exact absurd rfl hg
      · exact ih hmem hrest

/-- What a caller gives for a field, null if that is nothing. -/
def given (explicit : List (String × Value)) (f : Field) : Value :=
  (explicit.lookup f.name).getD .null

/-- A value under another name offers nothing for a field. -/
theorem offered_knownValues_cons_of_ne {name : String} {f : Field} (h : name ≠ f.name) (v : Value)
    (explicit : List (String × Value)) :
    offered f (knownValues ((name, v) :: explicit)) = offered f (knownValues explicit) := by
  cases hfound : Field.ofName? name with
  | none => simp [knownValues, hfound]
  | some g =>
    have hknown : knownValues ((name, v) :: explicit) = (g, v) :: knownValues explicit := by
      simp [knownValues, hfound]
    have hg : g ≠ f := by
      rintro rfl
      exact h (Field.name_of_ofName? hfound).symm
    rw [hknown, offered_cons_of_ne hg]

/-- Values under other names offer nothing for a field. -/
theorem offered_knownValues_of_not_mem {explicit : List (String × Value)} {f : Field}
    (h : f.name ∉ explicit.map Prod.fst) : offered f (knownValues explicit) = .null := by
  induction explicit with
  | nil => rfl
  | cons entry explicit ih =>
    obtain ⟨name, v⟩ := entry
    obtain ⟨hname, hrest⟩ : f.name ≠ name ∧ f.name ∉ explicit.map Prod.fst := by
      simpa using h
    rw [offered_knownValues_cons_of_ne (Ne.symm hname)]
    exact ih hrest

/-- A caller offers for a field what stands under the field's name. -/
theorem offered_knownValues {explicit : List (String × Value)}
    (h : (explicit.map Prod.fst).Nodup) (f : Field) :
    offered f (knownValues explicit) = given explicit f := by
  induction explicit with
  | nil => rfl
  | cons entry explicit ih =>
    obtain ⟨name, v⟩ := entry
    obtain ⟨hnew, hrest⟩ := List.nodup_cons.mp h
    by_cases hname : name = f.name
    · subst hname
      have hknown : knownValues ((f.name, v) :: explicit) = (f, v) :: knownValues explicit := by
        simp [knownValues]
      rw [hknown, offered_cons_self, offered_knownValues_of_not_mem hnew, Value.orElse_null]
      simp [given]
    · have hbeq : (f.name == name) = false := by
        simpa using Ne.symm hname
      rw [offered_knownValues_cons_of_ne hname, ih hrest]
      simp [given, List.lookup_cons, hbeq]

end ClusterConfig.Draft
