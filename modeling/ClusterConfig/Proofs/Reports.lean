import ClusterConfig.Resolve

/-!
# Who reports what

Every note comes from one part of the library. The parts that read settings, credentials and
documents report only what they met there; errors, and what a source supplied, are reported by
resolution itself.

Main results:

- Theorems `origin_of_mem_field`, `origin_of_mem_read`, `origin_of_mem_parse`: where the notes of a
  part come from.
- Theorem `filter_eq_nil_of_origin`: what only resolution reports is not among the notes of others.
-/

namespace ClusterConfig

namespace Note

/-- What only resolution itself reports. -/
def IsOfResolution (select : Note → Bool) : Prop :=
  ∀ n : Note, select n = true → n.origin = "kubeconf.resolver"

/-- What only resolution itself reports is not among the notes of another part. -/
theorem filter_eq_nil_of_origin {select : Note → Bool} (h : IsOfResolution select) {origin : String}
    (hother : origin ≠ "kubeconf.resolver") {notes : List Note}
    (hnotes : ∀ n ∈ notes, n.origin = origin) : notes.filter select = [] := by
  rw [List.filter_eq_nil_iff]
  intro n hn hselect
  exact hother ((hnotes n hn).symm.trans (h n hselect))

end Note

namespace Settings

/-- A setting that cannot be read as a truth value is reported by the settings. -/
theorem origin_of_mem_flag {s : Settings} {name : String} {n : Note}
    (h : n ∈ (s.flag name).notes) : n.origin = "kubeconf.environment" := by
  unfold flag at h
  dsimp only at h
  split at h
  · cases h
  · split at h
    · cases h
    · split at h
      · cases h
      · obtain rfl := List.mem_singleton.mp h
        rfl

/-- A setting that cannot be read as a number is reported by the settings. -/
theorem origin_of_mem_number {s : Settings} {name : String} {n : Note}
    (h : n ∈ (s.number name).notes) : n.origin = "kubeconf.environment" := by
  unfold number at h
  dsimp only at h
  split at h
  · cases h
  · split at h
    · cases h
    · obtain rfl := List.mem_singleton.mp h
      rfl

theorem origin_of_mem_field {s : Settings} {f : Field} {n : Note} (h : n ∈ (s.field f).notes) :
    n.origin = "kubeconf.environment" := by
  unfold field readAs at h
  split at h
  · cases h
  · cases h
  · exact origin_of_mem_flag h
  · exact origin_of_mem_number h
  · cases h

end Settings

/-- What is the matter with several settings is reported by the settings. -/
theorem Resolve.origin_of_mem_seeds {s : Settings} {fields : List Field} {n : Note}
    (h : n ∈ (seeds s fields).notes) : n.origin = "kubeconf.environment" := by
  obtain ⟨f, -, hf⟩ := List.mem_flatMap.mp h
  exact Settings.origin_of_mem_field hf

/-- What is the matter with a token is reported by the part that reads credentials. -/
theorem ServiceAccount.origin_of_mem_read {files : Files} {mount : Mount} {n : Note}
    (h : n ∈ (read files mount).notes) : n.origin = "kubeconf.credentials" := by
  unfold read readToken at h
  rw [Noted.notes_map] at h
  split at h
  · cases h
  · cases h
  · obtain rfl := List.mem_singleton.mp h
    rfl
  · obtain rfl := List.mem_singleton.mp h
    rfl

/-- What is missing in a document is reported by the part that reads kubeconfig files. -/
theorem Kubeconfig.origin_of_mem_parse {files : Files} {reader : Yaml.Reader} {given : String}
    {path : Path} {n : Note} (h : n ∈ (parse files reader given path).1.notes) :
    n.origin = "kubeconf.kubeconfig" := by
  unfold parse snapshotNoted at h
  dsimp only at h
  split at h
  · cases h
  · dsimp only at h
    split at h
    · cases h
    · obtain rfl := List.mem_singleton.mp h
      rfl

end ClusterConfig
