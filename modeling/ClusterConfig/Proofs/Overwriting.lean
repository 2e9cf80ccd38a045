import ClusterConfig.Proofs.Failures

/-!
# Another value for a filled field

A stage asks of a filled field no more than whether it is filled. So another value in its place goes
through all stages up to the last unseen, and the notes, the diagnostics and the other fields stay
what they are. The last stage looks at three fields; of the protocols it takes the elements and
nothing else. This is why a caller can give the protocols as a list, a text or a map, and why the
order in which a caller gives values is of no account.

Main definitions:

- `Draft.NamesFields`: a caller's values for different fields.
- `SameFor`: values that come to the same for a field.

Main results:

- Theorems `fill_set`, `adoptAccount_set`, `adoptSnapshot_set`: another value goes through filling
  and through the sources.
- Theorem `finish_set`: the last stage takes nothing but the elements of the protocols.
- Theorem `resolve_of_sameFor`: a resolution depends on what is given for each field, and for the
  protocols on their elements.
-/

namespace ClusterConfig

namespace Draft

/-- A caller's values name fields if their names are different and each is that of a field. -/
structure NamesFields (explicit : List (String × Value)) : Prop where
  nodup : (explicit.map Prod.fst).Nodup
  known : ∀ entry ∈ explicit, (Field.ofName? entry.1).isSome = true

/-- Values given for two fields, in either order. -/
theorem set_comm (d : Draft) {f g : Field} (h : f ≠ g) (v u : Value) :
    (d.set f v).set g u = (d.set g u).set f v := by
  refine eq_of_fields ?_ rfl rfl
  intro k
  by_cases hf : k = f
  · subst hf
    rw [values_set_of_ne _ h, values_set_self, values_set_self]
  · by_cases hg : k = g
    · subst hg
      rw [values_set_self, values_set_of_ne _ hf, values_set_self]
    · simp only [values_set_of_ne _ hf, values_set_of_ne _ hg]

/-- Of two values for one field the second counts. -/
theorem set_set (d : Draft) (f : Field) (v u : Value) : (d.set f v).set f u = d.set f u := by
  refine eq_of_fields ?_ rfl rfl
  intro g
  by_cases hg : g = f
  · subst hg
    rw [values_set_self, values_set_self]
  · simp only [values_set_of_ne _ hg]

/-- The value that a field has already, once more. -/
theorem set_values_self (d : Draft) (f : Field) : d.set f (d.values f) = d := by
  refine eq_of_fields ?_ rfl rfl
  intro g
  by_cases hg : g = f
  · subst hg
    rw [values_set_self]
  · rw [values_set_of_ne d hg]

section Filled

variable {d : Draft} {f : Field} {v : Value} (hset : d.values f ≠ .null) (hv : v ≠ .null)
include hset hv

/-- With another value in a filled field, the same fields are filled. -/
theorem isSet_set (g : Field) : (d.set f v).isSet g = d.isSet g := by
  by_cases hg : g = f
  · subst hg
    rw [isSet_eq_true.mpr hset, isSet_eq_true]
    rwa [values_set_self]
  · unfold isSet
    rw [values_set_of_ne d hg]

/-- Filling does not look at the value of a filled field. -/
theorem fill_set (candidates : List (Field × Value)) :
    (d.set f v).fill candidates = ((d.fill candidates).1.set f v, (d.fill candidates).2) := by
  induction candidates generalizing d with
  | nil => rfl
  | cons candidate candidates ih =>
    obtain ⟨g, u⟩ := candidate
    unfold fill
    rw [isSet_set hset hv]
    split
    · exact ih hset
    · rename_i htake
      have hne : f ≠ g := by
        rintro rfl
        simp [hset] at htake
      have hstill : (d.set g u).values f ≠ .null := by
        rwa [values_set_of_ne d hne]
      dsimp only
      rw [set_comm d hne, ih hstill]

end Filled

/-- Diagnostics do not depend on the fields. -/
theorem explain_set (d : Draft) (f : Field) (v : Value) (hint : Hint) :
    (d.set f v).explain hint = (d.explain hint).set f v := by
  unfold explain Hint.messages addMessage
  dsimp only [List.foldl, set]
  split <;> split <;> rfl

end Draft

namespace Resolve

/-! ## The stages up to the last -/

section Stages

variable {d : Draft} {f : Field} {v : Value} (hset : d.values f ≠ .null) (hv : v ≠ .null)
include hset hv

/-- The settings do not look at the value of a filled field. -/
theorem seed_set (s : Settings) : seed s (d.set f v) = (seed s d).map (Draft.set · f v) := by
  unfold seed
  dsimp only
  rw [Draft.fill_set hset hv]
  rfl

theorem adoptCa_set (account : ServiceAccount) :
    adoptCa account (d.set f v) = (adoptCa account d).set f v := by
  unfold adoptCa
  rw [Draft.isSet_set hset hv]
  cases account.caCertFile with
  | none => rfl
  | some path =>
    dsimp only
    split
    · rw [Draft.fill_set hset hv]
    · rfl

/-- A service account does not look at the value of a filled field. -/
theorem adoptAccount_set (account : ServiceAccount) :
    adoptAccount account (d.set f v) = (adoptAccount account d).map (Draft.set · f v) := by
  have hfilled : (adoptCa account d).values f ≠ .null := by
    rw [adoptCa_eq_fill, Draft.values_fill, ne_eq, Value.orElse_eq_null_iff]
    exact fun h => hset h.1
  unfold adoptAccount
  rw [adoptCa_set hset hv, Draft.fill_set hfilled hv]
  dsimp only
  split
  · rfl
  · rw [Draft.explain_set]
    rfl

theorem mergeServiceAccount_set (w : World) :
    mergeServiceAccount w (d.set f v) =
      (mergeServiceAccount w d).map (Except.map (Draft.set · f v)) := by
  unfold mergeServiceAccount
  dsimp only
  cases (ServiceAccount.read w.files w.mount).value with
  | error fault => rfl
  | ok found =>
    cases found with
    | none => rfl
    | some account =>
      dsimp only
      rw [adoptAccount_set hset hv]
      rfl

theorem adoptUser_set (user : Option User) :
    adoptUser user (d.set f v) = ((adoptUser user d).1.set f v, (adoptUser user d).2) := by
  cases user with
  | none => rfl
  | some u =>
    unfold adoptUser
    dsimp only
    rw [Draft.fill_set hset hv]
    dsimp only
    split
    · rfl
    · rw [Draft.explain_set]

/-- A snapshot does not look at the value of a filled field. -/
theorem adoptSnapshot_set (path : String) (s : Snapshot) :
    adoptSnapshot path s (d.set f v) = (adoptSnapshot path s d).map (Draft.set · f v) := by
  unfold adoptSnapshot
  cases s.cluster with
  | none => rfl
  | some c =>
    have hfilled : (d.fill (clusterValues s c)).1.values f ≠ .null := by
      rw [Draft.values_fill, ne_eq, Value.orElse_eq_null_iff]
      exact fun h => hset h.1
    dsimp only
    rw [Draft.fill_set hset hv, adoptUser_set hfilled hv]
    rfl

theorem adoptOutcome_set (path : String) (outcome : Except LoadFault Snapshot) :
    adoptOutcome path outcome (d.set f v) =
      (adoptOutcome path outcome d).map (Except.map (Draft.set · f v)) := by
  unfold adoptOutcome
  split
  · rw [adoptSnapshot_set hset hv]
    rfl
  · rfl
  · rfl

/-- The kubeconfig file does not look at the value of a filled field. -/
theorem mergeKubeconfig_set (w : World) (reader : Yaml.Reader) :
    mergeKubeconfig w reader (d.set f v) =
      ((mergeKubeconfig w reader d).1.map (Except.map (Draft.set · f v)),
        (mergeKubeconfig w reader d).2) := by
  rw [mergeKubeconfig_eq, mergeKubeconfig_eq]
  cases look w reader with
  | noPath failure => rfl
  | absent path => rfl
  | file path parsed reader =>
    dsimp only [Finding.adopt]
    rw [adoptOutcome_set hset hv]
    rfl

omit hset hv in
/-- A source that does not look at the value of a filled field can be turned off. -/
theorem unlessOff_set {source : Draft → Noted (Except Failure Draft)} (s : Settings)
    (name : String)
    (hsource : source (d.set f v) = (source d).map (Except.map (Draft.set · f v))) :
    unlessOff s name (d.set f v) source =
      (unlessOff s name d source).map (Except.map (Draft.set · f v)) := by
  unfold unlessOff
  dsimp only
  split
  · rw [hsource]
    rfl
  · rfl

end Stages

/-! ## The last stage -/

/-- Only the elements of protocols get into a configuration. -/
theorem freeze?_set {d : Draft} {v : Value} {items : List Value}
    (hitems : (d.values .enabledProtocols).elements? = some items)
    (hv : v.elements? = some items) :
    (d.set .enabledProtocols v).freeze? = d.freeze? := by
  have hprotocols : ∀ {e : Draft}, (e.values .enabledProtocols).elements? = some items →
      e.protocols? = some (.list items) := by
    intro e he
    unfold Draft.protocols?
    dsimp only
    split
    · rw [he]
      rfl
    · rename_i hfalse
      have hnone := elements?_getD_of_not_isTrue (Bool.eq_false_iff.mpr hfalse)
      rw [he, Option.getD_some] at hnone
      rw [hnone]
  have hthere : ((d.set .enabledProtocols v).values .enabledProtocols).elements? = some items := by
    rwa [Draft.values_set_self]
  unfold Draft.freeze?
  rw [hprotocols hitems, hprotocols hthere, Option.map_some, Option.map_some, Draft.set_set]
  rfl

/-- Protocols have no part in the shape of the address. -/
theorem shape_set {d : Draft} {v : Value} (hset : d.values .enabledProtocols ≠ .null)
    (hv : v ≠ .null) :
    shape (d.set .enabledProtocols v) =
      (shape d).map (Draft.set · .enabledProtocols v) := by
  unfold shape
  rw [Draft.values_set_of_ne d (by decide), Draft.values_set_of_ne d (by decide)]
  cases (d.values .masterUrl).text? with
  | none => rfl
  | some url =>
    dsimp only
    rw [Draft.set_comm d (by decide), Draft.fill_set _ hv]
    · rfl
    · rwa [Draft.values_set_of_ne d (by decide)]

/-- Values with elements are not null. -/
theorem ne_null_of_elements? {v : Value} {items : List Value} (h : v.elements? = some items) :
    v ≠ .null := by
  rintro rfl
  cases h

/-- The last stage takes nothing but the elements of the protocols. -/
theorem finish_set {d : Draft} {v : Value} {items : List Value}
    (hitems : (d.values .enabledProtocols).elements? = some items)
    (hv : v.elements? = some items) :
    finish (d.set .enabledProtocols v) = finish d := by
  have hset := ne_null_of_elements? hitems
  have hdefaults : (d.fill defaults).1.values .enabledProtocols = d.values .enabledProtocols := by
    rw [Draft.values_fill, Value.orElse_of_ne_null hset]
  rw [finish_eq, finish_eq, Draft.fill_set hset (ne_null_of_elements? hv)]
  dsimp only
  rw [shape_set (by rwa [hdefaults]) (ne_null_of_elements? hv)]
  cases hshape : shape (d.fill defaults).1 with
  | error failure => rfl
  | ok shaped =>
    have hshaped : (shaped.values .enabledProtocols).elements? = some items := by
      rw [values_shape_of_ne hshape (by decide) (by decide), hdefaults, hitems]
    dsimp only [Except.map, Except.bind]
    rw [freeze?_set hshaped hv]

/-! ## The whole of a resolution -/

/-- A resolution of a draft takes nothing but the elements of the protocols. -/
theorem resolveSeeded_set {w : World} {reader : Yaml.Reader} {seeded : Noted Draft} {v : Value}
    {items : List Value}
    (hitems : (seeded.value.values .enabledProtocols).elements? = some items)
    (hv : v.elements? = some items) :
    resolveSeeded w reader (seeded.map (Draft.set · .enabledProtocols v)) =
      resolveSeeded w reader seeded := by
  have hset := ne_null_of_elements? hitems
  have hvset := ne_null_of_elements? hv
  unfold resolveSeeded
  dsimp only [Noted.notes_map, Noted.value_map]
  rw [unlessOff_set w.settings _ (mergeServiceAccount_set hset hvset w),
    World.getD_flag]
  dsimp only [Noted.notes_map, Noted.value_map]
  cases h₁ : (unlessOff w.settings Settings.tryServiceAccount seeded.value
      (mergeServiceAccount w)).value with
  | error failure => rfl
  | ok d₁ =>
    have hmounted : d₁.values .enabledProtocols = seeded.value.values .enabledProtocols := by
      rw [values_mounted h₁, Value.orElse_of_ne_null hset]
    rw [← hmounted] at hset hitems
    simp only [Except.map]
    split
    · rename_i hwants
      rw [mergeKubeconfig_set hset hvset]
      dsimp only [Noted.notes_map, Noted.value_map]
      congr 1
      cases h₂ : (mergeKubeconfig w reader d₁).1.value with
      | error failure => rfl
      | ok d₂ =>
        have hconsulted : consulted w reader d₁ = .ok d₂ := by
          rw [consulted, if_pos hwants, h₂]
        have hprotocols : d₂.values .enabledProtocols = d₁.values .enabledProtocols := by
          rw [values_consulted hconsulted, Value.orElse_of_ne_null hset]
        exact finish_set (by rw [hprotocols, hitems]) hv
    · congr 1
      exact finish_set hitems hv

/-- Values are the same for a field if they are one value, or protocols with the same elements. -/
def SameFor (f : Field) (v v' : Value) : Prop :=
  v = v' ∨ (f = .enabledProtocols ∧
    ∃ items, v.elements? = some items ∧ v'.elements? = some items)

/-- A resolution depends on what is given for each field, whatever the order in which that is done,
and for the protocols on nothing but their elements. -/
theorem resolve_of_sameFor {w : World} {reader : Yaml.Reader}
    {explicit explicit' : List (String × Value)} (hnamed : Draft.NamesFields explicit)
    (hnamed' : Draft.NamesFields explicit')
    (h : ∀ f, SameFor f (Draft.given explicit f) (Draft.given explicit' f)) :
    resolve w reader explicit = resolve w reader explicit' := by
  obtain ⟨d, hd⟩ := exists_accept hnamed.known
  obtain ⟨d', hd'⟩ := exists_accept hnamed'.known
  have hfields : ∀ f, SameFor f (d.values f) (d'.values f) := by
    intro f
    rw [values_accept hd hnamed.nodup, values_accept hd' hnamed'.nodup]
    exact h f
  -- the drafts differ in nothing but the protocols, and these have the same elements
  have hdrafts : d' = d.set .enabledProtocols (d'.values .enabledProtocols) := by
    refine Draft.eq_of_fields ?_ ?_ ?_
    · intro f
      by_cases hf : f = .enabledProtocols
      · subst hf
        rw [Draft.values_set_self]
      · rcases hfields f with hsame | ⟨hprotocols, -⟩
        · rw [Draft.values_set_of_ne d hf, hsame]
        · exact absurd hprotocols hf
    · rw [Draft.messages_set, messages_accept hd, messages_accept hd']
    · rw [eq_of_accept hd, eq_of_accept hd']
      exact (Draft.spares_fill _ _).trans (Draft.spares_fill _ _).symm
  unfold resolve
  rw [hd, hd']
  dsimp only
  rcases hfields .enabledProtocols with hsame | ⟨-, items, hitems, hitems'⟩
  · rw [hdrafts, ← hsame, Draft.set_values_self]
  · rw [hdrafts, seed_set (ne_null_of_elements? hitems) (ne_null_of_elements? hitems')]
    refine (resolveSeeded_set ?_ hitems').symm
    rw [values_seed, Value.orElse_of_ne_null (ne_null_of_elements? hitems), hitems]

end Resolve

end ClusterConfig
