import ClusterConfig.Proofs.Sources

/-!
# Asking the kubeconfig file

What is found where the kubeconfig file is looked for does not depend on the draft that is filled
from it. The stage is told here in two parts, what is found and what a draft takes of that, so that
what is said of the stage is said of one part alone.

Main definitions:

- `Finding`: no path, no file at the path, or a file that was read.
- `look`: what is found in a world.
- `Finding.adopt`, `Finding.after`: what a draft takes of it, and the reader of documents after it.
- `supply`: the snapshot that the file supplies, if it supplies one, or why resolution ends there.

Main results:

- Theorem `mergeKubeconfig_eq`: the stage is what a draft takes of what is found.
- Theorem `Finding.value_adopt`: the draft after the stage takes what is supplied.
- Theorem `supply_eq_error_iff`: resolution ends there if the path of the file is not known, or if
  the file that is at it gives no document in a way that is not tolerated.
-/

namespace ClusterConfig.Resolve

/-- What is found where the kubeconfig file is looked for. -/
inductive Finding where
  | noPath (failure : Failure)
  | absent (path : String)
  /-- A file, with what was read of it and the reader of documents after that. -/
  | file (path : String) (parsed : Noted (Except LoadFault Snapshot)) (reader : Yaml.Reader)

/-- What is found at the path of the kubeconfig file. -/
def look (w : World) (reader : Yaml.Reader) : Finding :=
  match kubeconfigPath w.settings w.home with
  | .error failure => .noPath failure
  | .ok path =>
    if w.files.isFile path then
      let (parsed, reader) := Kubeconfig.parse w.files reader path.toText path
      .file path.toText parsed reader
    else .absent path.toText

namespace Finding

/-- A draft with what it takes of what is found. -/
def adopt : Finding → Draft → Noted (Except Failure Draft)
  | noPath failure, _ => .quiet (.error failure)
  | absent path, d => ⟨[.noKubeconfig path], .ok d⟩
  | file path parsed _, d =>
    let adopted := adoptOutcome path parsed.value d
    ⟨parsed.notes ++ adopted.notes, adopted.value⟩

/-- The reader of documents afterwards, which only a file can change. -/
def after (reader : Yaml.Reader) : Finding → Yaml.Reader
  | file _ _ reader => reader
  | _ => reader

/-- The snapshot that is supplied, and the path of its file; a file that is of no use supplies
nothing. -/
def supply : Finding → Except Failure (Option (String × Snapshot))
  | noPath failure => .error failure
  | absent _ => .ok none
  | file path parsed _ =>
    match parsed.value with
    | .ok s => .ok (some (path, s))
    | .error (.unusable _) => .ok none
    | .error fault => .error (.badDocument fault)

end Finding

/-- A draft with what it takes from a snapshot, if there is one. -/
def take (d : Draft) : Option (String × Snapshot) → Draft
  | some (path, s) => (adoptSnapshot path s d).value
  | none => d

/-- The stage is what a draft takes of what is found. -/
theorem mergeKubeconfig_eq (w : World) (reader : Yaml.Reader) (d : Draft) :
    mergeKubeconfig w reader d = ((look w reader).adopt d, (look w reader).after reader) := by
  unfold mergeKubeconfig look
  cases kubeconfigPath w.settings w.home with
  | error failure => rfl
  | ok path =>
    dsimp only
    split <;> rfl

/-- The draft after the stage takes what is supplied. -/
theorem Finding.value_adopt (found : Finding) (d : Draft) :
    (found.adopt d).value = found.supply.map (take d) := by
  cases found with
  | noPath failure => rfl
  | absent path => rfl
  | file path parsed reader =>
    unfold adopt supply adoptOutcome
    dsimp only
    cases parsed.value with
    | ok s => rfl
    | error fault => cases fault <;> rfl

/-- A file that was read ends resolution if it gives no document in a way that is not tolerated. -/
theorem Finding.supply_file_eq_error_iff {path : String}
    {parsed : Noted (Except LoadFault Snapshot)} {reader : Yaml.Reader} {failure : Failure} :
    (file path parsed reader).supply = .error failure ↔
      ∃ fault, parsed.value = .error fault ∧ (∀ unusable, fault ≠ .unusable unusable) ∧
        failure = .badDocument fault := by
  unfold supply
  dsimp only
  cases parsed.value with
  | ok s => simp
  | error fault => cases fault <;> simp [eq_comm]

section Places

variable {w : World} {reader : Yaml.Reader} {path : Path}

theorem look_of_error {failure : Failure}
    (h : kubeconfigPath w.settings w.home = .error failure) :
    look w reader = .noPath failure := by
  rw [look, h]

theorem look_of_absent (hpath : kubeconfigPath w.settings w.home = .ok path)
    (hfile : w.files.isFile path = false) : look w reader = .absent path.toText := by
  rw [look, hpath]
  simp [hfile]

theorem look_of_file (hpath : kubeconfigPath w.settings w.home = .ok path)
    (hfile : w.files.isFile path = true) :
    look w reader =
      .file path.toText (Kubeconfig.parse w.files reader path.toText path).1
        (Kubeconfig.parse w.files reader path.toText path).2 := by
  rw [look, hpath]
  simp [hfile]

/-- What is found is one of three things, and of a file the parser gives what was read. -/
theorem look_cases (w : World) (reader : Yaml.Reader) :
    (∃ failure, look w reader = .noPath failure) ∨ (∃ path, look w reader = .absent path) ∨
      ∃ path : Path, look w reader =
        .file path.toText (Kubeconfig.parse w.files reader path.toText path).1
          (Kubeconfig.parse w.files reader path.toText path).2 := by
  cases hpath : kubeconfigPath w.settings w.home with
  | error failure => exact .inl ⟨failure, look_of_error hpath⟩
  | ok path =>
    cases hfile : w.files.isFile path with
    | false => exact .inr (.inl ⟨path.toText, look_of_absent hpath hfile⟩)
    | true => exact .inr (.inr ⟨path, look_of_file hpath hfile⟩)

/-- What is found depends on the path of the kubeconfig file and on the file there. -/
theorem look_congr {w' : World}
    (hpath : kubeconfigPath w.settings w.home = kubeconfigPath w'.settings w'.home)
    (hfile : ∀ path, kubeconfigPath w.settings w.home = .ok path →
      w.files.isFile path = w'.files.isFile path ∧
        (w.files.isFile path = true → Kubeconfig.parse w.files reader path.toText path =
          Kubeconfig.parse w'.files reader path.toText path)) :
    look w reader = look w' reader := by
  unfold look
  rw [← hpath]
  cases hknown : kubeconfigPath w.settings w.home with
  | error failure => rfl
  | ok path =>
    obtain ⟨hfile, hparse⟩ := hfile path hknown
    dsimp only
    rw [← hfile]
    split
    · rename_i his
      rw [hparse his]
    · rfl

end Places

/-- The path of the kubeconfig file is not known for one of two reasons. -/
theorem eq_of_kubeconfigPath_error {s : Settings} {home : Homes} {failure : Failure}
    (h : kubeconfigPath s home = .error failure) :
    failure = .pathNotText ∨ ∃ fault, failure = .ofHomeFault fault := by
  unfold kubeconfigPath at h
  dsimp only at h
  split at h
  · rename_i failure' hgiven
    obtain rfl := Except.error.inj h
    split at hgiven
    · split at hgiven <;> cases hgiven
      exact .inl rfl
    · cases hgiven
  · rename_i path _
    cases hexpand : (Path.ofText path).expand home with
    | ok found =>
      rw [hexpand] at h
      cases h
    | error fault =>
      rw [hexpand] at h
      exact .inr ⟨fault, (Except.error.inj h).symm⟩

/-- The snapshot that the kubeconfig file supplies if it is asked, and the path of the file. -/
def supply (w : World) (reader : Yaml.Reader) : Except Failure (Option (String × Snapshot)) :=
  if w.wants Settings.tryKubeconfig then (look w reader).supply else .ok none

/-- Resolution ends at the kubeconfig file if the path of the file is not known, or if the file that
is at it gives no document in a way that is not tolerated. -/
theorem supply_eq_error_iff {w : World} {reader : Yaml.Reader} {failure : Failure} :
    supply w reader = .error failure ↔
      w.wants Settings.tryKubeconfig = true ∧
        (kubeconfigPath w.settings w.home = .error failure ∨
          ∃ path fault, kubeconfigPath w.settings w.home = .ok path ∧
            w.files.isFile path = true ∧
            (Kubeconfig.parse w.files reader path.toText path).1.value = .error fault ∧
            (∀ unusable, fault ≠ .unusable unusable) ∧ failure = .badDocument fault) := by
  unfold supply
  by_cases hwants : w.wants Settings.tryKubeconfig = true
  · rw [if_pos hwants]
    cases hpath : kubeconfigPath w.settings w.home with
    | error other =>
      rw [look_of_error hpath]
      simp [hwants, Finding.supply]
    | ok path =>
      cases hfile : w.files.isFile path with
      | false =>
        rw [look_of_absent hpath hfile]
        simp [Finding.supply, hfile]
      | true =>
        rw [look_of_file hpath hfile, Finding.supply_file_eq_error_iff]
        simp [hwants, hfile]
  · simp [hwants]

/-- The snapshot that is supplied, without the path of its file. -/
theorem snapshot?_eq (w : World) (reader : Yaml.Reader) :
    w.snapshot? reader = (supply w reader).toOption.join.map Prod.snd := by
  unfold World.snapshot? supply
  by_cases hwants : w.wants Settings.tryKubeconfig = true
  · rw [if_pos hwants, if_pos hwants]
    unfold look
    cases kubeconfigPath w.settings w.home with
    | error failure => rfl
    | ok path =>
      dsimp only
      split
      · unfold Finding.supply
        dsimp only
        cases (Kubeconfig.parse w.files reader path.toText path).1.value with
        | ok s => rfl
        | error fault => cases fault <;> rfl
      · rfl
  · rw [if_neg hwants, if_neg hwants]
    rfl

end ClusterConfig.Resolve
