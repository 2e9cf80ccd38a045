import ClusterConfig.Proofs.Failures

/-!
# Numbers that are too long

A document can hold a number that has too many digits for a text. Where a snapshot needs the number
as a text there is no snapshot, and unlike everything else that can be the matter with a document,
this ends the resolution. It is told here by what the kubeconfig file holds.

Main definitions:

- `Resolve.tooLong`: the failure of a resolution that meets such a number.
- `World.HoldsLongNumber`: the kubeconfig file at a path holds such a number.
- `World.Asks`: a resolution gets as far as the kubeconfig file.

Main results:

- Theorem `parse_eq_longNumber_iff`: a document with such a number is read, but has no snapshot.
- Theorem `outcome_eq_tooLong_iff`: a resolution ends that way just where it gets as far as a file
  that holds such a number.
-/

namespace ClusterConfig

namespace Kubeconfig

variable {files : Files} {reader : Yaml.Reader} {path : Path}

/-- Documents that are loaded are sound. -/
theorem isSound_of_load {doc : Value} (h : (load files reader path).1 = .ok doc) :
    IsSound doc := by
  unfold load at h
  split at h
  · cases h
  · exact isSound_of_document h

/-- A file that gives no document has no snapshot for the same reason. -/
theorem parse_of_load_error {fault : LoadFault} (given : String)
    (h : (load files reader path).1 = .error fault) :
    (parse files reader given path).1 = .quiet (.error fault) := by
  unfold parse
  dsimp only
  rw [h]

/-- What a text comes to has nothing to do with the snapshot of its document. -/
theorem load_ne_access (fault : AccessFault) :
    (load files reader path).1 ≠ .error (.access fault) := by
  unfold load
  split
  · rename_i other hread
    intro h
    obtain rfl := Except.error.inj h
    unfold readText at hread
    split at hread <;> cases hread
  · dsimp only
    unfold document
    split
    · split <;> simp
    · split <;> simp

/-- The reading of a file ends with a number that is too long just where its document has no
snapshot for that reason. -/
theorem parse_eq_longNumber_iff (given : String) :
    (parse files reader given path).1.value = .error (.access .longNumber) ↔
      ∃ doc, (load files reader path).1 = .ok doc ∧ (snapshot doc).2 = .error .longNumber := by
  cases hload : (load files reader path).1 with
  | error fault =>
    rw [parse_of_load_error given hload]
    refine iff_of_false ?_ (by simp)
    intro h
    obtain rfl := Except.error.inj h
    exact load_ne_access .longNumber hload
  | ok doc =>
    rw [parse_of_load given hload, value_snapshotNoted,
      Resolve.mapError_eq_error_iff fun _ h => LoadFault.access.inj h]
    simp

end Kubeconfig

namespace World

/-- The kubeconfig file at a path holds a document that has no snapshot because some number that the
snapshot needs is too long for a text. -/
def HoldsLongNumber (w : World) (reader : Yaml.Reader) (path : Path) : Prop :=
  w.files.isFile path = true ∧
    ∃ doc, (Kubeconfig.load w.files reader path).1 = .ok doc ∧
      (Kubeconfig.snapshot doc).2 = .error .longNumber

/-- A resolution gets as far as the kubeconfig file: the file is asked, the caller's values are
accepted and the service account can be asked. -/
def Asks (w : World) (explicit : List (String × Value)) : Prop :=
  w.wants Settings.tryKubeconfig = true ∧
    ∃ d₀ d₁, Resolve.accept explicit = .ok d₀ ∧
      Resolve.mounted w (Resolve.seed w.settings d₀).value = .ok d₁

end World

namespace Resolve

/-- The failure of a resolution that meets a number that is too long. -/
def tooLong : Failure :=
  .badDocument (.access .longNumber)

variable {w : World} {reader : Yaml.Reader} {path : Path}

/-- What is adopted of a kubeconfig file ends the resolution because of a number that is too long
just where there is one. -/
theorem adoptOutcome_eq_tooLong_iff (given : String) (parsed : Except LoadFault Snapshot)
    (d : Draft) :
    (adoptOutcome given parsed d).value = .error tooLong ↔
      parsed = .error (.access .longNumber) := by
  unfold adoptOutcome tooLong
  split <;> simp_all

/-- The path of a kubeconfig file has nothing to do with numbers. -/
theorem kubeconfigPath_ne_tooLong (s : Settings) (home : Homes) :
    kubeconfigPath s home ≠ .error tooLong := by
  intro h
  rcases eq_of_kubeconfigPath_error h with hfailure | ⟨fault, hfailure⟩
  · cases hfailure
  · cases fault <;> cases hfailure

/-- The defaults have nothing to do with documents. -/
theorem finish_ne_tooLong (d : Draft) : finish d ≠ .error tooLong := by
  intro h
  rcases finish_eq_error_iff.mp h with ⟨-, hfailure⟩ | ⟨-, -, hfailure⟩ <;> cases hfailure

/-- The stage of the kubeconfig file ends the resolution because of a number that is too long just
where the file is asked and holds one. -/
theorem consulted_eq_tooLong_iff (d : Draft) :
    consulted w reader d = .error tooLong ↔
      w.wants Settings.tryKubeconfig = true ∧
        ∃ path, kubeconfigPath w.settings w.home = .ok path ∧ w.HoldsLongNumber reader path := by
  rw [consulted_eq_error_iff, supply_eq_error_iff]
  refine and_congr_right fun _ => ?_
  constructor
  · rintro (hunknown | ⟨path, fault, hpath, hfile, hparse, -, hfault⟩)
    · exact absurd hunknown (kubeconfigPath_ne_tooLong _ _)
    · cases hfault
      exact ⟨path, hpath, hfile, (Kubeconfig.parse_eq_longNumber_iff _).mp hparse⟩
  · rintro ⟨path, hpath, hfile, hlong⟩
    have hparse := (Kubeconfig.parse_eq_longNumber_iff path.toText).mpr hlong
    exact .inr ⟨path, _, hpath, hfile, hparse, nofun, rfl⟩

/-- What the stages before leave in a draft is finished, unless a number that is too long ended the
stage of the kubeconfig file. -/
theorem bind_finish_eq_tooLong_iff (x : Except Failure Draft) :
    x.bind finish = .error tooLong ↔ x = .error tooLong := by
  cases x with
  | error failure => simp [Except.bind]
  | ok d => exact iff_of_false (finish_ne_tooLong d) (by simp)

/-- A resolution ends because of a number that is too long just where it gets as far as a kubeconfig
file that holds one. -/
theorem outcome_eq_tooLong_iff {explicit : List (String × Value)} :
    (resolve w reader explicit).outcome = .error tooLong ↔
      w.Asks explicit ∧
        ∃ path, kubeconfigPath w.settings w.home = .ok path ∧ w.HoldsLongNumber reader path := by
  rw [resolve_eq_error_iff]
  constructor
  · rintro (h₀ | ⟨d₀, h₀, h₁ | ⟨d₁, h₁, h₂ | ⟨d₂, -, h₃⟩⟩⟩)
    · rcases eq_of_accept_error h₀ with hfailure | ⟨names, hfailure⟩ <;> cases hfailure
    · cases eq_of_mounted_error h₁
    · obtain ⟨hwants, hholds⟩ := (consulted_eq_tooLong_iff d₁).mp h₂
      exact ⟨⟨hwants, d₀, d₁, h₀, h₁⟩, hholds⟩
    · exact absurd h₃ (finish_ne_tooLong d₂)
  · rintro ⟨⟨hwants, d₀, d₁, h₀, h₁⟩, hholds⟩
    have h₂ := (consulted_eq_tooLong_iff d₁).mpr ⟨hwants, hholds⟩
    exact .inr ⟨d₀, h₀, .inr ⟨d₁, h₁, .inl h₂⟩⟩

end Resolve

end ClusterConfig
