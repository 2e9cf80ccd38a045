import ClusterConfig.Proofs.Addresses
import ClusterConfig.Proofs.Precedence

/-!
# Addresses that are shaped again

What has been given the path of an API version keeps it: shaping an address a second time changes
nothing, and neither does shaping the address of a resolved configuration. The path hides nothing
either. A version without slashes is the last part of the address that it shapes, and what stands
before the path is the address of the server, up to the slash at its end.

Main definition:

- `Url.lastPart`: what stands between the last two slashes of an address.

Main results:

- Theorem `normalizeMasterUrl_eq_self_iff`: the addresses that are left as they are.
- Theorem `lastPart_appendApiPath`: the version can be read off an address that it shapes.
- Theorem `reshaping_changes_nothing`: shaping again changes nothing, and shaping keeps the version
  and the server apart.
-/

namespace ClusterConfig.Url

/-! ## Shaping twice -/

/-- An address that ends in the path of a version has a slash at its end. -/
theorem EndsIn.slash {url version : String} (h : EndsIn url (apiPath version)) :
    EndsIn url "/" := by
  have hends : EndsIn url (("api/" ++ version) ++ "/") := h
  exact hends.of_append

/-- An address that ends in the path of a version is left as it is. -/
theorem normalizeMasterUrl_of_endsIn {url version : String} (h : EndsIn url (apiPath version)) :
    normalizeMasterUrl url version = url := by
  have hslashed : withSlash url = url := withSlash_of_endsIn h.slash
  rw [normalizeMasterUrl_eq, hslashed, if_pos h]

/-- Whatever comes out of shaping ends in the path of the version. -/
theorem endsIn_normalizeMasterUrl (url version : String) :
    EndsIn (normalizeMasterUrl url version) (apiPath version) := by
  rw [normalizeMasterUrl_eq]
  split
  · assumption
  · exact endsIn_appendApiPath url version

/-- The addresses that are left as they are: those that end in the path of the version. -/
theorem normalizeMasterUrl_eq_self_iff (url version : String) :
    normalizeMasterUrl url version = url ↔ EndsIn url (apiPath version) := by
  constructor
  · intro h
    rw [← h]
    exact endsIn_normalizeMasterUrl url version
  · exact normalizeMasterUrl_of_endsIn

/-! ## Reading the version off an address -/

/-- What stands between the last two slashes of an address that ends in one. -/
def lastPart (url : String) : String :=
  String.ofList ((url.toList.dropLast.reverse.takeWhile (· ≠ '/')).reverse)

/-- A version without slashes is the last part of the address that it shapes. -/
theorem lastPart_appendApiPath (url : String) {version : String} (h : '/' ∉ version.toList) :
    lastPart (appendApiPath url version) = version := by
  have hchars : (appendApiPath url version).toList =
      (withSlashChars url.toList ++ ['a', 'p', 'i', '/'] ++ version.toList) ++ ['/'] := by
    simp [appendChars, apiPathChars]
  have hversion : ∀ c ∈ version.toList.reverse, decide (c ≠ '/') = true := by
    intro c hc
    apply decide_eq_true
    rintro rfl
    exact h (List.mem_reverse.mp hc)
  apply String.toList_injective
  rw [lastPart, String.toList_ofList, hchars, List.dropLast_concat, List.reverse_append,
    List.takeWhile_append_of_pos hversion]
  simp

/-- Two addresses with paths of versions without slashes are the same just where the versions are
and the servers, each with a slash at its end, are. -/
theorem appendApiPath_inj {url url' version version' : String} (h : '/' ∉ version.toList)
    (h' : '/' ∉ version'.toList) :
    appendApiPath url version = appendApiPath url' version' ↔
      version = version' ∧ withSlash url = withSlash url' := by
  constructor
  · intro hsame
    have hversion : version = version' := by
      calc version
          = lastPart (appendApiPath url version) := (lastPart_appendApiPath url h).symm
        _ = lastPart (appendApiPath url' version') := by rw [hsame]
        _ = version' := lastPart_appendApiPath url' h'
    subst hversion
    refine ⟨rfl, ?_⟩
    rw [appendApiPath_eq, appendApiPath_eq] at hsame
    have hchars := congrArg String.toList hsame
    rw [String.toList_append, String.toList_append] at hchars
    exact String.toList_injective (List.append_cancel_right hchars)
  · rintro ⟨rfl, hserver⟩
    rw [appendApiPath_eq, appendApiPath_eq, hserver]

/-- With slashes in the versions the path of one can be part of the address of the other. -/
example : appendApiPath "https://h" "a/api/b" = appendApiPath "https://h/api/a" "b" := by decide

/-! ## Shaping what is shaped -/

/-- The address of a resolved configuration ends in the path of its version. -/
theorem exists_masterUrl {w : World} {reader : Yaml.Reader} {explicit : List (String × Value)}
    {c : Config} (h : (resolve w reader explicit).outcome = .ok c) :
    ∃ url, c.values .masterUrl = .text url ∧
      EndsIn url (apiPath (c.values .apiVersion).asText) := by
  obtain ⟨d₀, d₁, d₂, -, -, -, hfinish⟩ := Resolve.resolve_eq_ok_iff.mp h
  obtain ⟨⟨url, -, hmaster⟩, -⟩ := Resolve.values_finish hfinish
  exact ⟨_, hmaster, endsIn_appendApiPath url _⟩

/-- Shaping is done once and for all. Shaping a shaped address changes nothing, whichever way it got
its path, and so the address of a resolved configuration stays as it is for the version of the
configuration. What is left as it is ends in the path. Addresses with the paths of versions without
slashes are the same just where the versions and the servers are, up to a slash at the end of the
servers. -/
theorem reshaping_changes_nothing (url version url₁ version₁ url₂ version₂ : String) :
    normalizeMasterUrl (normalizeMasterUrl url version) version = normalizeMasterUrl url version ∧
      normalizeMasterUrl (appendApiPath url version) version = appendApiPath url version ∧
      (∀ (w : World) (reader : Yaml.Reader) (explicit : List (String × Value)) (c : Config),
        (resolve w reader explicit).outcome = .ok c →
          ∃ master, c.values .masterUrl = .text master ∧
            normalizeMasterUrl master (c.values .apiVersion).asText = master) ∧
      (normalizeMasterUrl url version = url ↔ EndsIn url ("api/" ++ version ++ "/")) ∧
      ('/' ∉ version₁.toList → '/' ∉ version₂.toList →
        (appendApiPath url₁ version₁ = appendApiPath url₂ version₂ ↔
          version₁ = version₂ ∧ withSlash url₁ = withSlash url₂)) := by
  refine ⟨?_, ?_, ?_, normalizeMasterUrl_eq_self_iff url version, appendApiPath_inj⟩
  · exact normalizeMasterUrl_of_endsIn (endsIn_normalizeMasterUrl url version)
  · exact normalizeMasterUrl_of_endsIn (endsIn_appendApiPath url version)
  · intro w reader explicit c hc
    obtain ⟨master, hmaster, hends⟩ := exists_masterUrl hc
    exact ⟨master, hmaster, normalizeMasterUrl_of_endsIn hends⟩

/-- The address of a configuration that takes its version from the caller stays as it is, and a
slash at the end of a server makes no difference to the address that it gets. -/
theorem reshaping_changes_nothing_sample :
    (∃ c, (resolve Resolve.sampleWorld .fresh [("api_version", .int 2)]).outcome = .ok c ∧
      ∃ master, c.values .masterUrl = .text master ∧
        normalizeMasterUrl master (c.values .apiVersion).asText = master) ∧
      appendApiPath "https://h" "v1" = appendApiPath "https://h/" "v1" := by
  obtain ⟨-, -, hresolved, -, hinj⟩ :=
    reshaping_changes_nothing "" "" "https://h" "v1" "https://h/" "v1"
  obtain ⟨c, hc⟩ := Resolve.exists_ok_of_isSome
    (x := (resolve Resolve.sampleWorld .fresh [("api_version", .int 2)]).outcome)
    (by decide +kernel)
  refine ⟨⟨c, hc, hresolved _ _ _ c hc⟩, ?_⟩
  exact (hinj (by decide) (by decide)).mpr ⟨rfl, by decide⟩

end ClusterConfig.Url
