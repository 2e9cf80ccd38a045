import ClusterConfig.Proofs.Collected
import ClusterConfig.Proofs.History

/-!
# What a builder comes to

A session has one builder and one resolver. Between the values that a builder is given anything can
be asked, builds among it, and none of that has a part in what the builder holds. What it makes is
what the resolver makes of the values that it holds. The resolver does remember something: the
reader that it reads kubeconfig files with.

Main definitions:

- `Session.SameBut`: sessions that differ in their builders at most.
- `Request.isOfBuilder`: the requests to a builder that is there.
- `Session.HasHistory`: sessions in which certain requests were made.

Main results:

- Theorem `holds_run`: after several requests a builder holds the last values that they give.
- Theorem `SameBut.run`: sessions whose builders hold the same stay the same but for the builders.
- Theorem `builds_as_at_first_iff`: builds show in later builds just where resolutions show in later
  resolutions.
- Theorem `build_resolves_last_given`: a builder is a resolution of the values that were last given.
-/

namespace ClusterConfig

/-! ## The reader after a resolution -/

namespace Resolve

/-- What a draft holds has no part in what becomes of the reader. -/
theorem reader_mergeKubeconfig (w : World) (reader : Yaml.Reader) (d d' : Draft) :
    (mergeKubeconfig w reader d).2 = (mergeKubeconfig w reader d').2 := by
  rw [mergeKubeconfig_eq, mergeKubeconfig_eq]

/-- A resolution of a draft leaves the reader as the kubeconfig file leaves it, if it comes to
that. -/
theorem reader_resolveSeeded (w : World) (reader : Yaml.Reader) (seeded : Noted Draft) :
    (resolveSeeded w reader seeded).reader =
      if (w.wants Settings.tryServiceAccount = true ∧
            (Path.ofText w.mount.tokenPath).hasBadName = true) ∨
          w.wants Settings.tryKubeconfig = false then reader
      else (mergeKubeconfig w reader .empty).2 := by
  have hmounted : (unlessOff w.settings Settings.tryServiceAccount seeded.value
      (mergeServiceAccount w)).value = mounted w seeded.value := rfl
  unfold resolveSeeded
  dsimp only
  rw [hmounted, mounted_eq, World.getD_flag]
  by_cases hbad : w.wants Settings.tryServiceAccount = true ∧
      (Path.ofText w.mount.tokenPath).hasBadName = true
  · simp only [if_pos hbad, if_pos (Or.inl hbad)]
  · simp only [hbad, false_or]
    cases w.wants Settings.tryKubeconfig with
    | false => rfl
    | true => exact reader_mergeKubeconfig w reader _ _

/-- What is given for known fields has no part in what becomes of the reader. -/
theorem reader_resolve_of_known (w : World) (reader : Yaml.Reader)
    {explicit explicit' : List (String × Value)}
    (h : ∀ entry ∈ explicit, (Field.ofName? entry.1).isSome = true)
    (h' : ∀ entry ∈ explicit', (Field.ofName? entry.1).isSome = true) :
    (resolve w reader explicit).reader = (resolve w reader explicit').reader := by
  obtain ⟨d, hd⟩ := exists_accept h
  obtain ⟨d', hd'⟩ := exists_accept h'
  unfold resolve
  rw [hd, hd']
  dsimp only
  rw [reader_resolveSeeded, reader_resolveSeeded]

end Resolve

namespace Session

/-! ## What a builder holds in a session -/

/-- An answer leaves the builder alone. -/
theorem builder_answer (s : Session) (r : Resolve.Resolution) :
    (s.answer r).2.builder = s.builder := by
  unfold answer
  split <;> rfl

/-- A value under a name that no field has is refused. -/
theorem step_give_of_unknown (s : Session) {name : String} (h : Field.ofName? name = none)
    (v : Value) : s.step (.give name v) = (.quiet (.refused .unknownField), s) := by
  have hrefused : s.builder.giveNamed name v = .error .unknownField := by
    rw [ConfigBuilder.giveNamed, h]
  simp only [step, hrefused]

/-- A value that is not taken is refused, and nothing changes. -/
theorem step_give_of_not_takes (s : Session) {f : Field} {v : Value} (h : ¬f.Takes v) :
    s.step (.give f.name v) = (.quiet (.refused .notCollection), s) := by
  have hrefused : s.builder.giveNamed f.name v = .error .notCollection := by
    rw [ConfigBuilder.giveNamed, Field.ofName?_name]
    simp only [ConfigBuilder.give, ConfigBuilder.accept_of_not_takes h]
  simp only [step, hrefused]

/-- A value that is taken is held from then on, and nothing else changes. -/
theorem step_give_of_takes {s : Session} {held : Field → Option Value}
    (h : s.builder.Holds held) {f : Field} {v : Value} (htakes : f.Takes v) :
    ∃ b : ConfigBuilder, s.step (.give f.name v) =
        (.quiet (.values (Draft.knownValues b.values)), { s with builder := b }) ∧
      b.Holds (Function.update held f (some v)) := by
  obtain ⟨b, hgive, hholds⟩ := h.give htakes
  have hgiven : s.builder.giveNamed f.name v = .ok b := by
    rw [ConfigBuilder.giveNamed, Field.ofName?_name]
    exact hgive
  exact ⟨b, by simp only [step, hgiven], hholds⟩

/-- Whatever is given, the builder alone changes, and it holds what was given. -/
theorem exists_step_give {s : Session} {held : Field → Option Value} (h : s.builder.Holds held)
    (name : String) (v : Value) :
    ∃ b : ConfigBuilder, (s.step (.give name v)).2 = { s with builder := b } ∧
      b.Holds fun f => (Request.give name v).giving f (held f) := by
  cases hname : Field.ofName? name with
  | none =>
    refine ⟨s.builder, by rw [step_give_of_unknown s hname v], ?_⟩
    rw [Request.giving_of_unknown hname]
    exact h
  | some f =>
    obtain rfl := Field.name_of_ofName? hname
    by_cases htakes : f.Takes v
    · obtain ⟨b, hstep, hholds⟩ := step_give_of_takes h htakes
      refine ⟨b, by rw [hstep], ?_⟩
      rw [Request.giving_of_takes htakes]
      exact hholds
    · refine ⟨s.builder, by rw [step_give_of_not_takes s htakes], ?_⟩
      rw [Request.giving_of_not_takes htakes]
      exact h

/-- After a request the builder holds what it held, but for what the request gives. -/
theorem holds_step {s : Session} {held : Field → Option Value} (h : s.builder.Holds held)
    (request : Request) :
    (s.step request).2.builder.Holds fun f => request.giving f (held f) := by
  cases request with
  | give name v =>
    obtain ⟨b, hstep, hholds⟩ := exists_step_give h name v
    rw [hstep]
    exact hholds
  | newBuilder => exact ConfigBuilder.holds_empty
  | resolve explicit =>
    dsimp only [step]
    rw [builder_answer]
    exact h
  | build =>
    dsimp only [step]
    rw [builder_answer]
    exact h
  | resolveAlone explicit =>
    dsimp only [step]
    rw [builder_answer]
    exact h
  | parse path =>
    dsimp only [step]
    split <;> exact h
  | kubeconfigPath =>
    dsimp only [step]
    split <;> exact h
  | setProperty name value => exact h
  | setVariable name value => exact h
  | write path content =>
    dsimp only [step]
    split <;> exact h
  | remove path =>
    dsimp only [step]
    split <;> exact h

/-- After several requests the builder holds the last values that they give. -/
theorem holds_run {s : Session} {held : Field → Option Value} (h : s.builder.Holds held)
    (requests : List Request) :
    (s.run requests).2.builder.Holds fun f => requests.foldl (Request.giving f) (held f) := by
  induction requests generalizing s held with
  | nil => exact h
  | cons request requests ih => exact ih (holds_step h request)

/-- What a builder makes is what the values that it holds make when they are given at once. -/
theorem step_build_eq {s : Session} {held : Field → Option Value} (h : s.builder.Holds held)
    {explicit : List (String × Value)} (hnamed : Draft.NamesFields explicit)
    (hgiven : ∀ f, Draft.given explicit f = (held f).getD .null) :
    s.step .build = s.step (.resolve explicit) := by
  dsimp only [step, ConfigBuilder.build]
  rw [h.resolve_eq hnamed hgiven]

theorem step_build_eq_explicitOf {s : Session} {held : Field → Option Value}
    (h : s.builder.Holds held) : s.step .build = s.step (.resolve (explicitOf held)) :=
  step_build_eq h (namesFields_explicitOf held) (given_explicitOf held)

/-! ## Sessions that differ in their builders -/

/-- Sessions that differ at most in the builder and in the last configuration. -/
def SameBut (s t : Session) : Prop :=
  ∃ builder last, t = { s with builder, last }

variable {s t u : Session}

theorem SameBut.symm (h : s.SameBut t) : t.SameBut s := by
  obtain ⟨builder, last, rfl⟩ := h
  exact ⟨s.builder, s.last, rfl⟩

theorem SameBut.trans (h : s.SameBut t) (h' : t.SameBut u) : s.SameBut u := by
  obtain ⟨builder, last, rfl⟩ := h
  obtain ⟨builder', last', rfl⟩ := h'
  exact ⟨builder', last', rfl⟩

/-- What is given changes the builder alone. -/
theorem sameBut_step_give {held : Field → Option Value} (h : s.builder.Holds held) (name : String)
    (v : Value) : s.SameBut (s.step (.give name v)).2 := by
  obtain ⟨b, hstep, -⟩ := exists_step_give h name v
  exact ⟨b, s.last, hstep⟩

/-- Such sessions answer a resolution alike. -/
theorem SameBut.answer_resolve (h : s.SameBut t) (explicit : List (String × Value)) :
    (s.step (.resolve explicit)).1 = (t.step (.resolve explicit)).1 := by
  obtain ⟨builder, last, rfl⟩ := h
  exact answer_congr _ _ rfl rfl

/-- They stay such sessions whatever a resolution comes to. -/
theorem SameBut.answer (h : s.SameBut t) (reader : Yaml.Reader) (r r' : Resolve.Resolution) :
    ({ s with reader }.answer r).2.SameBut ({ t with reader }.answer r').2 := by
  obtain ⟨builder, last, rfl⟩ := h
  unfold Session.answer
  cases r.outcome <;> cases r'.outcome <;> exact ⟨builder, _, rfl⟩

/-- They stay such sessions after resolutions that leave the same reader. -/
theorem SameBut.step_resolve (h : s.SameBut t) {explicit explicit' : List (String × Value)}
    (hreader : (resolve s.world s.reader explicit).reader =
      (resolve s.world s.reader explicit').reader) :
    (s.step (.resolve explicit)).2.SameBut (t.step (.resolve explicit')).2 := by
  obtain ⟨builder, last, rfl⟩ := h
  dsimp only [Session.step]
  rw [hreader]
  exact SameBut.answer ⟨builder, last, rfl⟩ _ _ _

/-- They stay such sessions after every request if their builders hold the same. -/
theorem SameBut.step (h : s.SameBut t) {held : Field → Option Value} (hs : s.builder.Holds held)
    (ht : t.builder.Holds held) (request : Request) :
    (s.step request).2.SameBut (t.step request).2 := by
  cases request with
  | give name v =>
    exact (sameBut_step_give hs name v).symm.trans (h.trans (sameBut_step_give ht name v))
  | build =>
    rw [step_build_eq_explicitOf hs, step_build_eq_explicitOf ht]
    exact h.step_resolve rfl
  | resolve explicit => exact h.step_resolve rfl
  | resolveAlone explicit =>
    obtain ⟨builder, last, rfl⟩ := h
    exact SameBut.answer ⟨builder, last, rfl⟩ s.reader _ _
  | newBuilder =>
    obtain ⟨builder, last, rfl⟩ := h
    exact ⟨.empty, last, rfl⟩
  | parse path =>
    obtain ⟨builder, last, rfl⟩ := h
    dsimp only [Session.step]
    cases (Kubeconfig.parse s.tree.toFiles s.reader path (.ofText path)).1.value <;>
      exact ⟨builder, last, rfl⟩
  | kubeconfigPath =>
    obtain ⟨builder, last, rfl⟩ := h
    dsimp only [Session.step]
    cases Resolve.kubeconfigPath s.settings s.home <;> exact ⟨builder, last, rfl⟩
  | setProperty name value =>
    obtain ⟨builder, last, rfl⟩ := h
    exact ⟨builder, last, rfl⟩
  | setVariable name value =>
    obtain ⟨builder, last, rfl⟩ := h
    exact ⟨builder, last, rfl⟩
  | write path content =>
    obtain ⟨builder, last, rfl⟩ := h
    dsimp only [Session.step]
    cases s.tree.write? (.ofText path) content <;> exact ⟨builder, last, rfl⟩
  | remove path =>
    obtain ⟨builder, last, rfl⟩ := h
    dsimp only [Session.step]
    cases s.tree.remove? (.ofText path) <;> exact ⟨builder, last, rfl⟩

/-- They stay such sessions after several requests. -/
theorem SameBut.run (h : s.SameBut t) {held : Field → Option Value} (hs : s.builder.Holds held)
    (ht : t.builder.Holds held) (requests : List Request) :
    (s.run requests).2.SameBut (t.run requests).2 := by
  induction requests generalizing s t held with
  | nil => exact h
  | cons request requests ih =>
    exact ih (h.step hs ht request) (holds_step hs request) (holds_step ht request)

/-- If their builders hold the same, such sessions build the same. -/
theorem SameBut.answer_build (h : s.SameBut t) {held : Field → Option Value}
    (hs : s.builder.Holds held) (ht : t.builder.Holds held) :
    (s.step .build).1 = (t.step .build).1 := by
  rw [step_build_eq_explicitOf hs, step_build_eq_explicitOf ht]
  exact h.answer_resolve _

/-- After a value was given that is taken, what is built is what that value and those that were held
for the other fields make. -/
theorem build_after_give {held : Field → Option Value} (h : s.builder.Holds held) {f : Field}
    {v : Value} (htakes : f.Takes v) {explicit : List (String × Value)}
    (hnamed : Draft.NamesFields explicit)
    (hgiven : ∀ g, Draft.given explicit g =
      (Function.update held f (some v) g).getD .null) :
    ((s.step (.give f.name v)).2.step .build).1 = (s.step (.resolve explicit)).1 := by
  obtain ⟨b, hstep, hholds⟩ := step_give_of_takes h htakes
  have hsame : (s.step (.give f.name v)).2 = { s with builder := b } := by
    rw [hstep]
  rw [hsame, step_build_eq hholds hnamed hgiven]
  exact SameBut.answer_resolve ⟨s.builder, s.last, rfl⟩ explicit

/-- Values for different fields can be given in either order: whatever is asked afterwards, the same
is built. -/
theorem build_after_swap {held : Field → Option Value} (h : s.builder.Holds held)
    {name name' : String} (hne : name ≠ name') (v v' : Value) (requests : List Request) :
    ((s.run (.give name v :: .give name' v' :: requests)).2.step .build).1 =
      ((s.run (.give name' v' :: .give name v :: requests)).2.step .build).1 := by
  have hfirst := holds_step h (.give name v)
  have hsecond := holds_step h (.give name' v')
  have hone : s.SameBut ((s.step (.give name v)).2.step (.give name' v')).2 :=
    (sameBut_step_give h name v).trans (sameBut_step_give hfirst name' v')
  have hother : s.SameBut ((s.step (.give name' v')).2.step (.give name v)).2 :=
    (sameBut_step_give h name' v').trans (sameBut_step_give hsecond name v)
  have hheld := holds_step hfirst (.give name' v')
  have hheld' := holds_step hsecond (.give name v)
  simp only [← Request.giving_comm hne] at hheld'
  exact ((hone.symm.trans hother).run hheld hheld' requests).answer_build
    (holds_run hheld requests) (holds_run hheld' requests)

end Session

/-! ## Builds and resolutions -/

namespace Request

/-- Whether a request is to a builder that is there: a value or a build. -/
def isOfBuilder : Request → Bool
  | give .. | build => true
  | _ => false

/-- Whether a request is a build. -/
def isBuild : Request → Bool
  | build => true
  | _ => false

/-- The requests that give some values, one by one. -/
def gives (explicit : List (String × Value)) : List Request :=
  explicit.map fun entry => give entry.1 entry.2

end Request

/-- Builds give nothing. -/
theorem foldl_replicate_build (n : Nat) (f : Field) (held : Option Value) :
    (List.replicate n Request.build).foldl (Request.giving f) held = held := by
  induction n with
  | zero => rfl
  | succ n ih => exact ih

/-- Requests that give values are no builds. -/
theorem countP_gives (explicit : List (String × Value)) :
    (Request.gives explicit).countP Request.isBuild = 0 := by
  rw [List.countP_eq_zero]
  intro request hmem
  obtain ⟨entry, -, rfl⟩ := List.mem_map.mp hmem
  simp [Request.isBuild]

/-- Values for different fields that are given one by one are each the last for its field. -/
theorem foldl_gives {explicit : List (String × Value)} (h : IsTaken explicit) (f : Field)
    (held : Option Value) :
    (Request.gives explicit).foldl (Request.giving f) held = (explicit.lookup f.name).or held := by
  induction explicit generalizing held with
  | nil => rfl
  | cons entry explicit ih =>
    obtain ⟨name, v⟩ := entry
    obtain ⟨hnames, htakes⟩ := h
    obtain ⟨hnew, hrest⟩ := List.nodup_cons.mp hnames
    obtain ⟨g, hg, hv⟩ := htakes (name, v) List.mem_cons_self
    obtain rfl : name = g.name := hg
    have hlater : IsTaken explicit := ⟨hrest, fun e he => htakes e (List.mem_cons_of_mem _ he)⟩
    have hstep : (Request.gives ((g.name, v) :: explicit)).foldl (Request.giving f) held =
        (explicit.lookup f.name).or (Request.giving f held (.give g.name v)) := ih hlater _
    rw [hstep]
    by_cases hf : f = g
    · subst hf
      rw [lookup_eq_none_of_not_mem hnew, List.lookup_cons_self, Request.giving_self hv]
      rfl
    · rw [List.lookup_cons, Field.name_beq_of_ne hf, Request.giving_of_ne hf]

namespace Session

/-- The values that were given and the builds leave a session, but for its builder, as the
resolutions alone do. -/
theorem SameBut.run_of_builder {s t : Session} (h : s.SameBut t) {held : Field → Option Value}
    (ht : t.builder.Holds held) {requests : List Request}
    (hof : ∀ request ∈ requests, request.isOfBuilder = true) :
    (s.run (List.replicate (requests.countP Request.isBuild) (.resolve []))).2.SameBut
      (t.run requests).2 := by
  induction requests generalizing s t held with
  | nil => exact h
  | cons request requests ih =>
    obtain ⟨hfirst, hrest⟩ := List.forall_mem_cons.mp hof
    have hnext := holds_step ht request
    cases request with
    | give name v =>
      rw [List.countP_cons_of_neg (by simp [Request.isBuild])]
      exact ih (h.trans (sameBut_step_give ht name v)) hnext hrest
    | build =>
      have hbuilt : (s.step (.resolve [])).2.SameBut (t.step .build).2 := by
        rw [step_build_eq_explicitOf ht]
        exact h.step_resolve (Resolve.reader_resolve_of_known _ _ nofun
          (namesFields_explicitOf held).known)
      rw [List.countP_cons_of_pos rfl, List.replicate_succ]
      exact ih hbuilt hnext hrest
    | _ => cases hfirst

/-- Values that are the same for all fields have the same answer. -/
theorem step_resolve_of_given (s : Session) {explicit explicit' : List (String × Value)}
    (hnamed : Draft.NamesFields explicit) (hnamed' : Draft.NamesFields explicit')
    (h : ∀ f, Draft.given explicit f = Draft.given explicit' f) :
    s.step (.resolve explicit) = s.step (.resolve explicit') := by
  dsimp only [step]
  rw [Resolve.resolve_of_sameFor hnamed hnamed' fun f => .inl (h f)]

/-- A new builder answers every build as the resolver answers at that point, whatever was built
before, just where the resolver itself answers every resolution as at that point, however often it
was asked before. -/
theorem builds_as_at_first_iff (s : Session) :
    (∀ requests : List Request, (∀ request ∈ requests, request.isOfBuilder = true) →
        (((s.step .newBuilder).2.run requests).2.step .build).1 =
          (s.step (.resolve (explicitOf (lastGiven requests)))).1) ↔
      ∀ (n : Nat) (explicit : List (String × Value)), IsTaken explicit →
        ((s.run (List.replicate n (.resolve []))).2.step (.resolve explicit)).1 =
          (s.step (.resolve explicit)).1 := by
  have hnew : (s.step .newBuilder).2.builder.Holds fun _ => none := ConfigBuilder.holds_empty
  have hsame : s.SameBut (s.step .newBuilder).2 := ⟨.empty, s.last, rfl⟩
  constructor
  · intro h n explicit htaken
    have hof : ∀ request ∈ List.replicate n Request.build ++ Request.gives explicit,
        request.isOfBuilder = true := by
      intro request hmem
      rcases List.mem_append.mp hmem with hbuild | hgive
      · rw [List.eq_of_mem_replicate hbuild]
        rfl
      · obtain ⟨entry, -, rfl⟩ := List.mem_map.mp hgive
        rfl
    have hgiven : ∀ f, lastGiven (List.replicate n Request.build ++ Request.gives explicit) f =
        explicit.lookup f.name := by
      intro f
      rw [lastGiven, List.foldl_append, foldl_replicate_build, foldl_gives htaken, Option.or_none]
    have hbuilds : (List.replicate n Request.build ++ Request.gives explicit).countP
        Request.isBuild = n := by
      rw [List.countP_append, countP_gives]
      simp [List.countP_replicate, Request.isBuild]
    have hlast : ∀ f, Draft.given explicit f =
        (lastGiven (List.replicate n Request.build ++ Request.gives explicit) f).getD .null := by
      intro f
      rw [hgiven, Draft.given]
    have hbuild := h _ hof
    rw [step_build_eq (holds_run hnew _) htaken.namesFields hlast,
      ← (hsame.run_of_builder hnew hof).answer_resolve, hbuilds] at hbuild
    rw [hbuild, step_resolve_of_given s (namesFields_explicitOf _) htaken.namesFields]
    intro f
    rw [given_explicitOf, hlast]
  · intro h requests hof
    have hheld := holds_run hnew requests
    rw [step_build_eq_explicitOf hheld, ← (hsame.run_of_builder hnew hof).answer_resolve]
    exact h _ _ (isTaken_explicitOf _ hheld.takes)

/-- Resolutions over plain files change nothing in a session but the last configuration and the
reader, and that stays transparent. -/
theorem run_resolutions_of_plain {s : Session} (hreader : s.reader.IsTransparent)
    (hplain : s.HasPlainFiles) (n : Nat) :
    ∃ reader last, (s.run (List.replicate n (.resolve []))).2 = { s with reader, last } ∧
      reader.IsTransparent := by
  induction n generalizing s with
  | zero => exact ⟨s.reader, s.last, rfl, hreader⟩
  | succ n ih =>
    have hnext := isTransparent_step hreader hplain (.resolve [])
    obtain ⟨reader, last, hstep⟩ : ∃ reader last,
        (s.step (.resolve [])).2 = { s with reader, last } := by
      dsimp only [step, answer]
      split <;> exact ⟨_, _, rfl⟩
    have hrun : (s.run (List.replicate (n + 1) (.resolve []))).2 =
        ((s.step (.resolve [])).2.run (List.replicate n (.resolve []))).2 := rfl
    rw [hstep] at hnext hrun
    obtain ⟨reader', last', hrest, htransparent⟩ := ih hnext hplain
    exact ⟨reader', last', hrun.trans hrest, htransparent⟩

/-- Over plain files a transparent reader answers every resolution as at first. -/
theorem resolutions_as_at_first_of_plain {s : Session} (hreader : s.reader.IsTransparent)
    (hplain : s.HasPlainFiles) (n : Nat) (explicit : List (String × Value)) :
    ((s.run (List.replicate n (.resolve []))).2.step (.resolve explicit)).1 =
      (s.step (.resolve explicit)).1 := by
  obtain ⟨reader, last, hrun, htransparent⟩ := run_resolutions_of_plain hreader hplain n
  have halike : reader.ReadsLike s.reader := fun text =>
    (htransparent.readsLike_fresh text).trans (hreader.readsLike_fresh text).symm
  rw [hrun]
  exact step_of_readsLike halike { s with last } (.resolve explicit)

/-! ## What a builder comes to -/

/-- Sessions in which certain requests were made since they started. -/
def HasHistory (s : Session) (requests : List Request) : Prop :=
  ∃ settings tree home mount usualMount,
    s = ((start settings tree home mount usualMount).run requests).2

/-- The builder of a session holds what was last given to it. -/
theorem HasHistory.holds {s : Session} {requests : List Request} (h : s.HasHistory requests) :
    s.builder.Holds (lastGiven requests) := by
  obtain ⟨settings, tree, home, mount, usualMount, rfl⟩ := h
  exact holds_run ConfigBuilder.holds_empty requests

/-- A builder is a resolution of the values that were last given, whatever was asked before. Values
for different fields can be given in either order, null takes a value back, and protocols without
elements are refused and leave all as it was; other protocols make what they make when they are
given to the resolver. Earlier builds have no part in what is collected, and none in what is built
as long as earlier resolutions have none in what is resolved, for example over plain files. -/
theorem build_resolves_last_given {s : Session} {requests : List Request}
    (h : s.HasHistory requests) :
    s.step .build = s.step (.resolve (explicitOf (lastGiven requests))) ∧
      (∀ (name name' : String) (v v' : Value) (later : List Request), name ≠ name' →
        ((s.run (.give name v :: .give name' v' :: later)).2.step .build).1 =
          ((s.run (.give name' v' :: .give name v :: later)).2.step .build).1) ∧
      (∀ f : Field, f ≠ .enabledProtocols →
        ((s.step (.give f.name .null)).2.step .build).1 =
          (s.step (.resolve (explicitOf (Function.update (lastGiven requests) f none)))).1) ∧
      (∀ (f : Field) (v : Value), f.Takes v →
        ((s.step (.give f.name v)).2.step .build).1 =
          (s.step (.resolve (explicitOf (Function.update (lastGiven requests) f (some v))))).1) ∧
      (∀ v : Value, v.elements? = none →
        s.step (.give Field.enabledProtocols.name v) = (.quiet (.refused .notCollection), s)) ∧
      ((∀ later : List Request, (∀ request ∈ later, request.isOfBuilder = true) →
          (((s.step .newBuilder).2.run later).2.step .build).1 =
            (s.step (.resolve (explicitOf (lastGiven later)))).1) ↔
        ∀ (n : Nat) (explicit : List (String × Value)), IsTaken explicit →
          ((s.run (List.replicate n (.resolve []))).2.step (.resolve explicit)).1 =
            (s.step (.resolve explicit)).1) ∧
      (s.reader.IsTransparent → s.HasPlainFiles →
        ∀ later : List Request, (∀ request ∈ later, request.isOfBuilder = true) →
          (((s.step .newBuilder).2.run later).2.step .build).1 =
            (s.step (.resolve (explicitOf (lastGiven later)))).1) := by
  refine ⟨step_build_eq_explicitOf h.holds, ?_, ?_, ?_, ?_, builds_as_at_first_iff s, ?_⟩
  · intro name name' v v' later hne
    exact build_after_swap h.holds hne v v' later
  · intro f hf
    refine build_after_give h.holds (fun hprotocols => absurd hprotocols hf)
      (namesFields_explicitOf _) ?_
    intro g
    rw [given_explicitOf]
    by_cases hg : g = f
    · subst hg
      simp
    · simp [Function.update_of_ne hg]
  · intro f v htakes
    exact build_after_give h.holds htakes (namesFields_explicitOf _) (given_explicitOf _)
  · intro v hnone
    refine step_give_of_not_takes s ?_
    intro htakes
    have hsome := htakes rfl
    rw [hnone] at hsome
    cases hsome
  · intro hreader hplain
    refine (builds_as_at_first_iff s).mpr ?_
    intro n explicit _
    exact resolutions_as_at_first_of_plain hreader hplain n explicit

/-- A session without settings and files. -/
def bareSession : Session :=
  start ⟨[], [], none⟩ ⟨[]⟩ "home" .standard .standard

/-- Values that a caller gives one by one, with a build between them and protocols that are
refused. -/
def sampleRequests : List Request :=
  [.give "namespace" (.text "a"), .build, .give "enabled_protocols" (.int 5),
    .give "enabled_protocols" (.text "xy"), .give "namespace" (.text "b")]

/-- The last namespace and the characters of the protocols count. -/
theorem build_resolves_last_given_sample :
    (bareSession.run sampleRequests).2.step .build =
      (bareSession.run sampleRequests).2.step
        (.resolve [("namespace", .text "b"), ("enabled_protocols", .text "xy")]) := by
  have hlast : explicitOf (lastGiven sampleRequests) =
      [("namespace", .text "b"), ("enabled_protocols", .text "xy")] := by
    rfl
  rw [← hlast]
  exact (build_resolves_last_given ⟨_, _, _, _, _, rfl⟩).1

/-- Whether an answer is a configuration. -/
def isConfiguration (answer : Noted Reply) : Bool :=
  match answer.value with
  | .config _ => true
  | _ => false

/-- Earlier builds do show: a collection that could not be made is taken up again by the next build,
and its fault is then that of the whole. -/
theorem earlier_build_shows :
    ¬∀ (s : Session) (requests : List Request), s.HasHistory requests →
      ∀ later : List Request, (∀ request ∈ later, request.isOfBuilder = true) →
        (((s.step .newBuilder).2.run later).2.step .build).1 =
          (s.step (.resolve (explicitOf (lastGiven later)))).1 := by
  intro h
  have hsame := h (start
    ⟨[("kubeconfig", .text "config"), ("kubernetes.auth.tryServiceAccount", .text "false")], [],
      none⟩
    ⟨[(["config"], .file "a: [-_]\nb: 1\nb: 2\n".toUTF8)]⟩ "home" .standard .standard) []
    ⟨_, _, _, _, _, rfl⟩ [.build] (by simp [Request.isOfBuilder])
  exact absurd (congrArg isConfiguration hsame) (by decide +kernel)

end Session

end ClusterConfig
