import ClusterConfig.Proofs.Filling
import Mathlib.Data.List.Nodup

/-!
# Candidates under names

Sources fill a draft from candidates under names. For the names that a draft declares this is
filling by fields; a name that stands for nothing ends it, unless its candidate is null. Filling
reports the fields that it changed, in the order of the candidates that changed them, and filling
twice is filling once from both lists.

Main definitions:

- `Draft.IsDeclared`: the names that a draft declares.
- `Draft.firstUnder`: the first value that candidates offer under a name.
- `Draft.adopting`: the fields that candidates change, in their order.

Main results:

- Theorem `fillNamed_eq_fill`: filling under declared names is filling by fields.
- Theorem `fillNamed_append`: filling from two lists is filling from one after the other.
- Theorem `filled_eq`: the fields that filling names, in order.
- Theorem `fillNamed_fills_absent`: all that filling under names does.
-/

namespace ClusterConfig.Draft

/-- A name that drafts declare: that of a field, or that of the diagnostics. -/
def IsDeclared (name : String) : Prop :=
  (Field.ofName? name).isSome = true ∨ name = Config.messagesName

instance (name : String) : Decidable (IsDeclared name) :=
  inferInstanceAs (Decidable ((Field.ofName? name).isSome = true ∨ name = Config.messagesName))

/-- The first value that candidates offer under a name, null if they offer none. -/
def firstUnder (name : String) (candidates : List (String × Value)) : Value :=
  ((candidates.find? fun candidate => candidate.1 = name && !candidate.2.isNull).map (·.2)).getD
    .null

/-- The fields that candidates change: those of the candidates that are values for open fields, each
where it comes first. -/
def adopting (d : Draft) (candidates : List (Field × Value)) : List Field :=
  ((candidates.filter fun candidate => !candidate.2.isNull && !d.isSet candidate.1).map
    (·.1)).eraseDups

/-! ## One candidate under a name -/

/-- A null candidate is passed over, whatever its name. -/
theorem fillNamed_cons_null (d : Draft) (name : String) (candidates : List (String × Value)) :
    d.fillNamed ((name, .null) :: candidates) = d.fillNamed candidates :=
  rfl

/-- A candidate for the diagnostics is passed over. -/
theorem fillNamed_cons_messages (d : Draft) (v : Value) (candidates : List (String × Value)) :
    d.fillNamed ((Config.messagesName, v) :: candidates) = d.fillNamed candidates := by
  have hset : d.isSetNamed? Config.messagesName = some true := rfl
  rw [fillNamed, hset, if_pos (by simp)]

/-- A candidate for a field is one under its name. -/
theorem fillNamed_cons_field (d : Draft) (f : Field) (v : Value)
    (candidates : List (String × Value)) :
    d.fillNamed ((f.name, v) :: candidates) =
      if v.isNull || d.isSet f then d.fillNamed candidates
      else
        (((d.set f v).fillNamed candidates).1,
          ((d.set f v).fillNamed candidates).2.map (f.name :: ·)) := by
  have hslot : slot f.name = .field f := by
    rw [slot, Field.ofName?_name]
  have hset : d.isSetNamed? f.name = some (d.isSet f) := by
    rw [isSetNamed?, hslot]
  have hgiven : d.setNamed? f.name v = some (d.set f v) := by
    rw [setNamed?, hslot]
  rw [fillNamed, hset, hgiven]
  simp

/-- A candidate under a name that stands for nothing ends the filling, unless it is null. -/
theorem fillNamed_cons_unknown (d : Draft) {name : String} (hname : slot name = .unknown)
    {v : Value} (hv : v ≠ .null) (candidates : List (String × Value)) :
    d.fillNamed ((name, v) :: candidates) = (d, none) := by
  have hset : d.isSetNamed? name = none := by
    rw [isSetNamed?, hname]
  have hgiven : d.setNamed? name v = none := by
    rw [setNamed?, hname]
  rw [fillNamed, hset, hgiven, if_neg (by simpa using hv)]

/-! ## Lists of candidates -/

/-- Filling under declared names is filling by fields. -/
theorem fillNamed_eq_fill {candidates : List (String × Value)}
    (h : ∀ candidate ∈ candidates, IsDeclared candidate.1 ∨ candidate.2 = .null) (d : Draft) :
    d.fillNamed candidates =
      ((d.fill (knownValues candidates)).1,
        some ((d.fill (knownValues candidates)).2.map Field.name)) := by
  induction candidates generalizing d with
  | nil => rfl
  | cons candidate candidates ih =>
    obtain ⟨name, v⟩ := candidate
    obtain ⟨hfirst, hrest⟩ := List.forall_mem_cons.mp h
    cases hfound : Field.ofName? name with
    | some f =>
      obtain rfl := Field.name_of_ofName? hfound
      have hknown : knownValues ((f.name, v) :: candidates) = (f, v) :: knownValues candidates := by
        simp [knownValues]
      rw [fillNamed_cons_field, hknown, fill, ih hrest, ih hrest]
      split <;> rfl
    | none =>
      have hknown : knownValues ((name, v) :: candidates) = knownValues candidates := by
        simp [knownValues, hfound]
      have hskip : d.fillNamed ((name, v) :: candidates) = d.fillNamed candidates := by
        rcases hfirst with (hfield | hmessages) | hnull
        · rw [hfound] at hfield
          cases hfield
        · obtain rfl : name = Config.messagesName := hmessages
          exact fillNamed_cons_messages d v candidates
        · obtain rfl : v = .null := hnull
          exact fillNamed_cons_null d name candidates
      rw [hskip, hknown, ih hrest]

/-- What candidates offer for a field is their first value under its name. -/
theorem offered_knownValues_eq_firstUnder (f : Field) (candidates : List (String × Value)) :
    offered f (knownValues candidates) = firstUnder f.name candidates := by
  induction candidates with
  | nil => rfl
  | cons candidate candidates ih =>
    obtain ⟨name, v⟩ := candidate
    by_cases hname : name = f.name
    · subst hname
      have hknown : knownValues ((f.name, v) :: candidates) = (f, v) :: knownValues candidates := by
        simp [knownValues]
      rw [hknown, offered_cons_self, ih]
      by_cases hv : v = .null
      · subst hv
        simp [firstUnder, Value.isNull]
      · rw [Value.orElse_of_ne_null hv]
        simp [firstUnder, ← Value.isNull_iff] at hv ⊢
        simp [hv]
    · rw [offered_knownValues_cons_of_ne hname, ih]
      simp [firstUnder, hname]

/-- Filling names the fields that candidates change, in their order. -/
theorem filled_eq (d : Draft) (candidates : List (Field × Value)) :
    (d.fill candidates).2 = d.adopting candidates := by
  induction candidates generalizing d with
  | nil => rfl
  | cons candidate candidates ih =>
    obtain ⟨f, v⟩ := candidate
    rcases fill_cons_cases d f v candidates with ⟨hskip, heq⟩ | ⟨hv, hopen, heq⟩
    · have hunwanted : (!v.isNull && !d.isSet f) = false := by
        rcases hskip with rfl | hset
        · rfl
        · simp [hset]
      rw [heq, ih, adopting, adopting, List.filter_cons_of_neg (by simp [hunwanted])]
    · have hwanted : (!v.isNull && !d.isSet f) = true := by
        simp [Value.isNull_eq_false hv, hopen]
      -- a field that is filled is no longer open, so its later candidates drop out
      have hlater : ∀ candidate ∈ candidates,
          (!candidate.2.isNull && !(d.set f v).isSet candidate.1) =
            ((!candidate.1 == f) && (!candidate.2.isNull && !d.isSet candidate.1)) := by
        intro candidate _
        by_cases hf : candidate.1 = f
        · simp [hf, hv]
        · simp [isSet, values_set_of_ne d hf, hf]
      rw [heq, ih, adopting, adopting, List.filter_cons, if_pos hwanted, List.map_cons,
        List.eraseDups_cons, List.filter_congr hlater, List.filter_map, List.filter_filter]
      rfl

/-- Filling from two lists is filling from one after the other, unless the first ends it. -/
theorem fillNamed_append (d : Draft) (candidates more : List (String × Value)) :
    d.fillNamed (candidates ++ more) =
      match d.fillNamed candidates with
      | (d, none) => (d, none)
      | (d, some names) => ((d.fillNamed more).1, (d.fillNamed more).2.map (names ++ ·)) := by
  induction candidates generalizing d with
  | nil => simp [fillNamed]
  | cons candidate candidates ih =>
    obtain ⟨name, v⟩ := candidate
    rw [List.cons_append, fillNamed, fillNamed]
    split
    · exact ih d
    · cases hgiven : d.setNamed? name v with
      | none => rfl
      | some filled =>
        dsimp only
        rw [ih filled]
        cases hrest : filled.fillNamed candidates with
        | mk after names =>
          cases names with
          | none => rfl
          | some names => simp [Option.map_map, Function.comp_def]

/-- Null candidates count for nothing, whatever their names. -/
theorem fillNamed_filter_isNull (d : Draft) (candidates : List (String × Value)) :
    d.fillNamed (candidates.filter fun candidate => !candidate.2.isNull) =
      d.fillNamed candidates := by
  induction candidates generalizing d with
  | nil => rfl
  | cons candidate candidates ih =>
    obtain ⟨name, v⟩ := candidate
    by_cases hv : v = .null
    · subst hv
      rw [fillNamed_cons_null, List.filter_cons_of_neg (by simp [Value.isNull])]
      exact ih d
    · rw [List.filter_cons_of_pos (by simp [Value.isNull_eq_false hv]), fillNamed, fillNamed]
      simp only [ih]

/-! ## Filling once more -/

/-- A value among candidates makes them offer something for its field. -/
theorem offered_ne_null {candidates : List (Field × Value)} {f : Field} {v : Value}
    (hmem : (f, v) ∈ candidates) (hv : v ≠ .null) : offered f candidates ≠ .null := by
  induction candidates with
  | nil => cases hmem
  | cons candidate candidates ih =>
    obtain ⟨g, u⟩ := candidate
    rcases List.mem_cons.mp hmem with heq | hrest
    · cases heq
      rw [offered_cons_self, Value.orElse_of_ne_null hv]
      exact hv
    · by_cases hg : g = f
      · subst hg
        rw [offered_cons_self]
        exact fun hnull => ih hrest (Value.orElse_eq_null_iff.mp hnull).2
      · rw [offered_cons_of_ne hg]
        exact ih hrest

/-- Candidates that are null or whose fields are filled change nothing. -/
theorem fill_eq_self {d : Draft} {candidates : List (Field × Value)}
    (h : ∀ candidate ∈ candidates, candidate.2 = .null ∨ d.values candidate.1 ≠ .null) :
    d.fill candidates = (d, []) := by
  induction candidates with
  | nil => rfl
  | cons candidate candidates ih =>
    obtain ⟨hfirst, hrest⟩ := List.forall_mem_cons.mp h
    rw [fill_cons_of_skip hfirst]
    exact ih hrest

/-- Filling from the same candidates once more changes nothing. -/
theorem fill_again (d : Draft) (candidates : List (Field × Value)) :
    (d.fill candidates).1.fill candidates = ((d.fill candidates).1, []) := by
  apply fill_eq_self
  rintro ⟨f, v⟩ hmem
  by_cases hv : v = .null
  · exact .inl hv
  · right
    dsimp only
    rw [values_fill]
    exact fun hnull => offered_ne_null hmem hv (Value.orElse_eq_null_iff.mp hnull).2

/-! ## All that filling does -/

/-- Filling from candidates under declared names, and from null ones under any names, is this: every
field keeps its value or else takes the first value under its name, and nothing else changes; what
is named are the fields that changed, each once, in the order of the candidates that changed them.
Filling from further candidates afterwards is filling from all of them, with the names one after the
other, and filling from the same ones once more changes nothing. The first candidate that is a value
under a name that stands for nothing ends the filling, and what was filled before stays; null
candidates count for nothing. -/
theorem fillNamed_fills_absent (d : Draft) {candidates : List (String × Value)}
    (h : ∀ candidate ∈ candidates, IsDeclared candidate.1 ∨ candidate.2 = .null) :
    ∃ after names, d.fillNamed candidates = (after, some names) ∧
      after = { d with values := fun f => (d.values f).orElse (firstUnder f.name candidates) } ∧
      names = (d.adopting (knownValues candidates)).map Field.name ∧
      names.Nodup ∧
      (∀ name, name ∈ names ↔ ∃ f : Field, f.name = name ∧ after.values f ≠ d.values f) ∧
      (∀ more, d.fillNamed (candidates ++ more) =
        ((after.fillNamed more).1, (after.fillNamed more).2.map (names ++ ·))) ∧
      after.fillNamed candidates = (after, some []) ∧
      (∀ name v more, slot name = .unknown → v ≠ .null →
        d.fillNamed (candidates ++ (name, v) :: more) = (after, none)) ∧
      d.fillNamed (candidates.filter fun candidate => !candidate.2.isNull) =
        d.fillNamed candidates := by
  have hfill := fillNamed_eq_fill h d
  have hvalues : ∀ f, (d.fill (knownValues candidates)).1.values f =
      (d.values f).orElse (firstUnder f.name candidates) := by
    intro f
    rw [values_fill, offered_knownValues_eq_firstUnder]
  have happend : ∀ more, d.fillNamed (candidates ++ more) =
      (((d.fill (knownValues candidates)).1.fillNamed more).1,
        ((d.fill (knownValues candidates)).1.fillNamed more).2.map
          ((d.fill (knownValues candidates)).2.map Field.name ++ ·)) := by
    intro more
    rw [fillNamed_append, hfill]
  refine ⟨(d.fill (knownValues candidates)).1, (d.fill (knownValues candidates)).2.map Field.name,
    hfill, ?_, ?_, ?_, ?_, happend, ?_, ?_, fillNamed_filter_isNull d candidates⟩
  · exact eq_of_fields hvalues (messages_fill d _) (spares_fill d _)
  · rw [filled_eq]
  · have hinjective : Function.Injective Field.name := fun _ _ => Field.name_injective
    exact (nodup_filled d _).map hinjective
  · intro name
    rw [List.mem_map]
    refine exists_congr fun f => ?_
    rw [mem_filled_iff, and_comm, and_congr_right_iff]
    intro _
    -- a field changes just where it was open and something is offered for it
    rw [values_fill]
    by_cases hopen : d.values f = .null
    · simp [hopen]
    · simp [hopen, Value.orElse_of_ne_null hopen]
  · rw [fillNamed_eq_fill h, fill_again]
    rfl
  · intro name v more hname hv
    rw [happend, fillNamed_cons_unknown _ hname hv]
    rfl

/-- Of two values for one field the first counts, a filled field and the diagnostics are left alone,
and a name that stands for nothing ends the filling only with a value. -/
theorem fillNamed_fills_absent_sample :
    ∃ after, (empty.set .username (.text "me")).fillNamed
          [("username", .text "you"), ("colour", .null), ("proxy", .null), ("proxy", .text "a"),
            ("error_messages", .map []), ("namespace", .text ""), ("proxy", .text "b")] =
        (after, some ["proxy", "namespace"]) ∧
      (after.values .username).text? = some "me" ∧ (after.values .proxy).text? = some "a" ∧
      (after.values .namespaceName).text? = some "" ∧
      (empty.set .username (.text "me")).fillNamed
          ([("username", .text "you"), ("colour", .null), ("proxy", .null), ("proxy", .text "a"),
            ("error_messages", .map []), ("namespace", .text ""), ("proxy", .text "b")] ++
            ("colour", .text "red") :: [("password", .text "secret")]) =
        (after, none) := by
  have hdeclared : ∀ candidate ∈ ([("username", .text "you"), ("colour", .null), ("proxy", .null),
      ("proxy", .text "a"), ("error_messages", .map []), ("namespace", .text ""),
      ("proxy", .text "b")] : List (String × Value)),
      IsDeclared candidate.1 ∨ candidate.2 = .null := by
    decide
  obtain ⟨after, names, heq, hafter, hnames, -, -, -, -, hstop, -⟩ :=
    fillNamed_fills_absent (empty.set .username (.text "me")) hdeclared
  have horder : names = ["proxy", "namespace"] := by
    rw [hnames]
    decide
  refine ⟨after, ?_, ?_, ?_, ?_, hstop "colour" (.text "red") _ (by decide) (by simp)⟩
  · rw [heq, horder]
  · rw [hafter]
    decide
  · rw [hafter]
    decide
  · rw [hafter]
    decide

end ClusterConfig.Draft
