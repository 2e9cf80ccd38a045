import ClusterConfig.Proofs.Overwriting
import ClusterConfig.Session
import Mathlib.Data.List.Nodup

/-!
# What a builder holds

A caller's values reach a builder one by one, in requests among others. What counts in the end is
the last value for each field, unless it was refused; the order of the fields, and the form in which
a builder keeps protocols, do not count.

Main definitions:

- `Field.Takes`: the values that a builder takes for a field.
- `lastGiven`: the last value that requests give for a field.
- `ConfigBuilder.IsCollected`: builders that come from giving values.
- `ConfigBuilder.Holds`: a builder and the values that it has accepted.

Main results:

- Theorem `Holds.give`: a value that is taken is held from then on.
- Theorem `Holds.resolve_eq`: the values of a builder make what the values that it holds make.
-/

namespace ClusterConfig

/-! ## What requests give -/

/-- A builder takes any value for a field, but for the protocols only one that has elements. -/
def Field.Takes (f : Field) (v : Value) : Prop :=
  f = .enabledProtocols → v.elements?.isSome = true

instance (f : Field) (v : Value) : Decidable (f.Takes v) :=
  inferInstanceAs (Decidable (_ → _))

/-- What a builder has been given for a field, one request later. -/
def Request.giving (f : Field) (held : Option Value) : Request → Option Value
  | .give name v => if name = f.name ∧ f.Takes v then some v else held
  | .newBuilder => none
  | _ => held

/-- The last value that requests give for a field, if there is one since the builder was new. -/
def lastGiven (requests : List Request) (f : Field) : Option Value :=
  requests.foldl (Request.giving f) none

/-- Values for fields, under the names of these. -/
def explicitOf (held : Field → Option Value) : List (String × Value) :=
  Field.all.filterMap fun f => (held f).map fun v => (f.name, v)

/-- Values that a builder takes, for different fields. -/
def IsTaken (explicit : List (String × Value)) : Prop :=
  (explicit.map Prod.fst).Nodup ∧
    ∀ entry ∈ explicit, ∃ f : Field, entry.1 = f.name ∧ f.Takes entry.2

namespace Request

variable {f g : Field} {v : Value}

/-- A value that is taken is the last one for its field. -/
theorem giving_self (h : f.Takes v) (held : Option Value) :
    giving f held (.give f.name v) = some v :=
  if_pos ⟨rfl, h⟩

/-- It is none for another field. -/
theorem giving_of_ne (h : g ≠ f) (v : Value) (held : Option Value) :
    giving g held (.give f.name v) = held :=
  if_neg fun hboth => h (Field.name_injective hboth.1.symm)

/-- What requests have given is replaced by a value that is taken. -/
theorem giving_of_takes (h : f.Takes v) (held : Field → Option Value) :
    (fun g => giving g (held g) (.give f.name v)) = Function.update held f (some v) := by
  funext g
  by_cases hg : g = f
  · subst hg
    rw [Function.update_self, giving_self h]
  · rw [Function.update_of_ne hg, giving_of_ne hg]

/-- A value that is not taken replaces nothing. -/
theorem giving_of_not_takes (h : ¬f.Takes v) (held : Field → Option Value) :
    (fun g => giving g (held g) (.give f.name v)) = held := by
  funext g
  by_cases hg : g = f
  · subst hg
    exact if_neg fun hboth => h hboth.2
  · exact giving_of_ne hg v (held g)

/-- Nor does a value under a name that no field has. -/
theorem giving_of_unknown {name : String} (h : Field.ofName? name = none)
    (held : Field → Option Value) : (fun g => giving g (held g) (.give name v)) = held := by
  funext g
  refine if_neg ?_
  rintro ⟨rfl, -⟩
  simp at h

/-- Requests for values of different fields can change places. -/
theorem giving_comm {name name' : String} (h : name ≠ name') (v v' : Value) (f : Field)
    (held : Option Value) :
    giving f (giving f held (.give name v)) (.give name' v') =
      giving f (giving f held (.give name' v')) (.give name v) := by
  unfold giving
  dsimp only
  split <;> split
  · rename_i hfirst hsecond
    exact absurd (hsecond.1.trans hfirst.1.symm) h
  all_goals rfl

end Request

section ExplicitOf

variable (held : Field → Option Value)

/-- Under the name of a field is the value for it, if the field is among those gone through. -/
theorem lookup_filterMap (f : Field) (fields : List Field) :
    (fields.filterMap fun g => (held g).map fun v => (g.name, v)).lookup f.name =
      if f ∈ fields then held f else none := by
  induction fields with
  | nil => rfl
  | cons g fields ih =>
    by_cases hg : f = g
    · subst hg
      cases hheld : held f with
      | none => simp [hheld, ih]
      | some v => simp [hheld]
    · have hname := Field.name_beq_of_ne hg
      cases hheld : held g <;> simp [hheld, ih, hg, hname, List.lookup_cons]

/-- What is given for a field is the value for it. -/
theorem given_explicitOf (f : Field) : Draft.given (explicitOf held) f = (held f).getD .null := by
  rw [Draft.given, explicitOf, lookup_filterMap, if_pos (Field.mem_all f)]

/-- The entries are for fields that there are values for. -/
theorem mem_explicitOf_iff {entry : String × Value} :
    entry ∈ explicitOf held ↔ ∃ f v, held f = some v ∧ entry = (f.name, v) := by
  simp only [explicitOf, List.mem_filterMap, Option.map_eq_some_iff]
  constructor
  · rintro ⟨f, -, v, hheld, rfl⟩
    exact ⟨f, v, hheld, rfl⟩
  · rintro ⟨f, v, hheld, rfl⟩
    exact ⟨f, Field.mem_all f, v, hheld, rfl⟩

/-- They are for different fields. -/
theorem namesFields_explicitOf : Draft.NamesFields (explicitOf held) where
  nodup := by
    have hnames : (explicitOf held).map Prod.fst =
        (Field.all.filter fun f => (held f).isSome).map Field.name := by
      unfold explicitOf
      induction Field.all with
      | nil => rfl
      | cons f fields ih =>
        cases hheld : held f <;> simp [hheld, ih]
    rw [hnames]
    exact (Field.nodup_all.filter _).map fun _ _ h => Field.name_injective h
  known := by
    intro entry hentry
    obtain ⟨f, v, -, rfl⟩ := (mem_explicitOf_iff held).mp hentry
    simp

/-- Values that a builder takes stay such values. -/
theorem isTaken_explicitOf (h : ∀ f v, held f = some v → f.Takes v) :
    IsTaken (explicitOf held) := by
  refine ⟨(namesFields_explicitOf held).nodup, ?_⟩
  intro entry hentry
  obtain ⟨f, v, hheld, rfl⟩ := (mem_explicitOf_iff held).mp hentry
  exact ⟨f, rfl, h f v hheld⟩

end ExplicitOf

/-- Values that a builder takes are for fields. -/
theorem IsTaken.namesFields {explicit : List (String × Value)} (h : IsTaken explicit) :
    Draft.NamesFields explicit where
  nodup := h.1
  known := by
    intro entry hentry
    obtain ⟨f, hname, -⟩ := h.2 entry hentry
    simp [hname]

/-! ## What a builder holds -/

namespace ConfigBuilder

/-- A builder holds values for fields if it has accepted them, each for its own field. -/
structure Holds (b : ConfigBuilder) (held : Field → Option Value) : Prop where
  named : Draft.NamesFields b.values
  lookup_eq : ∀ f, b.values.lookup f.name = (held f).bind fun v => (accept f v).toOption
  takes : ∀ f v, held f = some v → f.Takes v

/-- A value that is taken is accepted as one that is the same for its field. -/
theorem exists_accept {f : Field} {v : Value} (h : f.Takes v) :
    ∃ v', accept f v = .ok v' ∧ Resolve.SameFor f v' v := by
  by_cases hf : f = .enabledProtocols
  · subst hf
    obtain ⟨items, hitems⟩ := Option.isSome_iff_exists.mp (h rfl)
    refine ⟨.list items, ?_, .inr ⟨rfl, items, rfl, hitems⟩⟩
    simp only [accept, hitems]
  · refine ⟨v, ?_, .inl rfl⟩
    cases f <;> first | rfl | exact absurd rfl hf

/-- A value that is not taken is not accepted. -/
theorem accept_of_not_takes {f : Field} {v : Value} (h : ¬f.Takes v) :
    accept f v = .error .notCollection := by
  unfold Field.Takes at h
  obtain ⟨rfl, hnone⟩ := Classical.not_imp.mp h
  have helements : v.elements? = none := by
    simpa using hnone
  simp only [accept, helements]

/-- A name is among those that have values after one more value just where it is that one or was
among them. -/
theorem mem_names_put_iff (name other : String) (v : Value) (values : List (String × Value)) :
    other ∈ (put name v values).map Prod.fst ↔ other = name ∨ other ∈ values.map Prod.fst := by
  induction values with
  | nil => simp [put]
  | cons entry values ih =>
    obtain ⟨third, u⟩ := entry
    unfold put
    split
    · rename_i hthird
      subst hthird
      simp
    · simp only [List.map_cons, List.mem_cons, ih]
      exact or_left_comm

/-- No name gets two values. -/
theorem nodup_put {values : List (String × Value)} (h : (values.map Prod.fst).Nodup)
    (name : String) (v : Value) : ((put name v values).map Prod.fst).Nodup := by
  induction values with
  | nil => simp [put]
  | cons entry values ih =>
    obtain ⟨other, u⟩ := entry
    obtain ⟨hnew, hrest⟩ := List.nodup_cons.mp h
    unfold put
    split
    · rename_i hother
      subst hother
      exact h
    · rename_i hother
      refine List.nodup_cons.mpr ⟨?_, ih hrest⟩
      rw [mem_names_put_iff]
      exact not_or.mpr ⟨hother, hnew⟩

/-- Values for different fields stay such values with one more for a field. -/
theorem namesFields_put {values : List (String × Value)} (h : Draft.NamesFields values) (f : Field)
    (v : Value) : Draft.NamesFields (put f.name v values) where
  nodup := nodup_put h.nodup f.name v
  known := by
    intro entry hentry
    have hname := List.mem_map_of_mem (f := Prod.fst) hentry
    rcases (mem_names_put_iff f.name entry.1 v values).mp hname with hnew | hold
    · simp [hnew]
    · obtain ⟨other, hother, heq⟩ := List.mem_map.mp hold
      rw [← heq]
      exact h.known other hother

/-- Builders that come from giving values one by one. -/
inductive IsCollected : ConfigBuilder → Prop
  | empty : IsCollected empty
  | give {b b' : ConfigBuilder} (h : IsCollected b) {name : String} {v : Value}
      (hgive : b.giveNamed name v = .ok b') : IsCollected b'

/-- Values that are accepted are for fields. -/
theorem namesFields_of_giveNamed {b b' : ConfigBuilder} (h : Draft.NamesFields b.values)
    {name : String} {v : Value} (hgive : b.giveNamed name v = .ok b') :
    Draft.NamesFields b'.values := by
  unfold giveNamed at hgive
  split at hgive
  · rename_i f _
    unfold ConfigBuilder.give at hgive
    split at hgive <;> cases hgive
    exact namesFields_put h f _
  · cases hgive

/-- What a builder collects is for fields. -/
theorem IsCollected.namesFields {b : ConfigBuilder} (h : b.IsCollected) :
    Draft.NamesFields b.values := by
  induction h with
  | empty => exact ⟨List.nodup_nil, nofun⟩
  | give _ hgive ih => exact namesFields_of_giveNamed ih hgive

theorem holds_empty : empty.Holds fun _ => none where
  named := ⟨List.nodup_nil, nofun⟩
  lookup_eq := fun _ => rfl
  takes := nofun

section Holds

variable {b : ConfigBuilder} {held : Field → Option Value}

/-- The values of a builder make what the values that it holds make, in whatever order and form
these are given. -/
theorem Holds.resolve_eq (h : b.Holds held) {explicit : List (String × Value)}
    (hnamed : Draft.NamesFields explicit)
    (hgiven : ∀ f, Draft.given explicit f = (held f).getD .null) (w : World)
    (reader : Yaml.Reader) : resolve w reader b.values = resolve w reader explicit := by
  refine Resolve.resolve_of_sameFor h.named hnamed fun f => ?_
  rw [hgiven, Draft.given, h.lookup_eq]
  cases hheld : held f with
  | none => exact .inl rfl
  | some v =>
    obtain ⟨v', haccept, hsame⟩ := exists_accept (h.takes f v hheld)
    simp only [Option.bind_some, haccept]
    exact hsame

/-- A value that is given and taken is held from then on. -/
theorem Holds.give (h : b.Holds held) {f : Field} {v : Value} (htakes : f.Takes v) :
    ∃ b', b.give f v = .ok b' ∧ b'.Holds (Function.update held f (some v)) := by
  obtain ⟨v', haccept, -⟩ := exists_accept htakes
  refine ⟨⟨put f.name v' b.values⟩, ?_, namesFields_put h.named f v', ?_, ?_⟩
  · simp only [ConfigBuilder.give, haccept]
  · intro g
    by_cases hg : g = f
    · subst hg
      simp [haccept, Except.toOption]
    · have hname : g.name ≠ f.name := fun hname => hg (Field.name_injective hname)
      rw [lookup_put_of_ne hname, h.lookup_eq, Function.update_of_ne hg]
  · intro g u hgiven
    by_cases hg : g = f
    · subst hg
      rw [Function.update_self] at hgiven
      rwa [← Option.some.inj hgiven]
    · rw [Function.update_of_ne hg] at hgiven
      exact h.takes g u hgiven

end Holds

end ConfigBuilder

end ClusterConfig
