import ClusterConfig.Url

/-!
# Addresses that are shaped already

The address of a server gets the path of an API version after it, unless it has one already. What
counts as having one is that the address ends in the characters of the path. The slash that would
make these characters a path of their own is not asked for, so an address also counts whose last
part but one merely ends in the letters of the path.

Main definitions:

- `Url.withSlash`: an address with a slash at its end.
- `Url.IsShaped`: addresses that have the path of a version after that of a server.

Main results:

- Theorem `isShaped_iff`: an address is shaped just where it ends in the whole path.
- Theorem `normalizeMasterUrl_eq`: the shape of an address in two cases.
- Theorem `normalizeMasterUrl_skips`: which addresses are left as they are, and which of the others
  end in the whole path.
-/

namespace ClusterConfig.Url

/-- An address ends in a text. -/
def EndsIn (url ending : String) : Prop :=
  ending.toList <:+ url.toList

instance (url ending : String) : Decidable (EndsIn url ending) :=
  inferInstanceAs (Decidable (ending.toList <:+ url.toList))

/-- An address with a slash at its end, added where there is none. -/
def withSlash (url : String) : String :=
  if EndsIn url "/" then url else url ++ "/"

/-- The path of an API version, without a slash in front. -/
def apiPath (version : String) : String :=
  "api/" ++ version ++ "/"

/-- An address is shaped for a version if it is that of some server with the path of the version
after it. -/
def IsShaped (url version : String) : Prop :=
  ∃ server, appendApiPath server version = url

/-! ## Characters -/

@[simp]
theorem toList_withSlash (url : String) : (withSlash url).toList = withSlashChars url.toList := by
  have hends : EndsIn url "/" ↔ ['/'].isSuffixOf url.toList = true :=
    List.isSuffixOf_iff_suffix.symm
  unfold withSlash withSlashChars
  by_cases h : EndsIn url "/"
  · rw [if_pos h, if_pos (hends.mp h)]
  · rw [if_neg h, if_neg (mt hends.mpr h), String.toList_append]
    rfl

@[simp]
theorem toList_apiPath (version : String) :
    (apiPath version).toList = apiPathChars version.toList := by
  simp [apiPath, apiPathChars, String.toList_append]

/-! ## The path after the address -/

/-- Every address gets a slash at its end. -/
theorem endsIn_withSlash (url : String) : EndsIn (withSlash url) "/" := by
  unfold EndsIn
  rw [toList_withSlash]
  exact slash_suffix_withSlashChars url.toList

/-- A slash at the end is enough. -/
theorem withSlash_of_endsIn {url : String} (h : EndsIn url "/") : withSlash url = url :=
  if_pos h

/-- The path comes right after the slash at the end of the address. -/
theorem appendApiPath_eq (url version : String) :
    appendApiPath url version = withSlash url ++ apiPath version := by
  apply String.toList_injective
  rw [toList_appendApiPath, String.toList_append, toList_withSlash, toList_apiPath]
  rfl

/-- An address is shaped for a version just where it ends in the whole path of the version, with the
slash in front of it. -/
theorem isShaped_iff (url version : String) :
    IsShaped url version ↔ EndsIn url ("/" ++ apiPath version) := by
  constructor
  · rintro ⟨server, rfl⟩
    obtain ⟨before, hbefore⟩ := endsIn_withSlash server
    refine ⟨before, ?_⟩
    rw [appendApiPath_eq, String.toList_append, String.toList_append, ← hbefore,
      List.append_assoc]
  · rintro ⟨before, hurl⟩
    -- the server is what stands before the path, with the slash that the two share
    have hserver : EndsIn (String.ofList (before ++ ['/'])) "/" :=
      ⟨before, String.toList_ofList.symm⟩
    refine ⟨String.ofList (before ++ ['/']), ?_⟩
    apply String.toList_injective
    rw [appendApiPath_eq, withSlash_of_endsIn hserver, ← hurl, String.toList_append,
      String.toList_append, String.toList_ofList, List.append_assoc]
    rfl

/-- An address that ends in the path of a version only gets a slash at its end, and any other one
gets the path. -/
theorem normalizeMasterUrl_eq (url version : String) :
    normalizeMasterUrl url version =
      if EndsIn (withSlash url) (apiPath version) then withSlash url
      else appendApiPath url version := by
  apply String.toList_injective
  have hslash : withSlashChars (withSlashChars url.toList) = withSlashChars url.toList :=
    withSlashChars_of_suffix (slash_suffix_withSlashChars url.toList)
  have hends : EndsIn (withSlash url) (apiPath version) ↔
      (apiPathChars version.toList).isSuffixOf (withSlashChars url.toList) = true := by
    rw [List.isSuffixOf_iff_suffix, EndsIn, toList_apiPath, toList_withSlash]
  rw [toList_normalizeMasterUrl]
  unfold normalizeChars appendChars
  dsimp only
  rw [hslash]
  by_cases h : EndsIn (withSlash url) (apiPath version)
  · rw [if_pos h, if_pos (hends.mp h), toList_withSlash]
  · rw [if_neg h, if_neg (mt hends.mpr h), toList_appendApiPath]
    rfl

/-- An address with the path after it ends in the path. -/
theorem endsIn_appendApiPath (url version : String) :
    EndsIn (appendApiPath url version) (apiPath version) := by
  unfold EndsIn
  rw [appendApiPath_eq, String.toList_append]
  exact List.suffix_append _ _

/-- So it ends in a slash. -/
theorem endsIn_slash_appendApiPath (url version : String) :
    EndsIn (appendApiPath url version) "/" := by
  refine List.IsSuffix.trans ?_ (endsIn_appendApiPath url version)
  rw [apiPath, String.toList_append]
  exact List.suffix_append _ _

/-- An address with a slash at its end gets the path right after it. -/
theorem appendApiPath_of_endsIn {url : String} (h : EndsIn url "/") (version : String) :
    appendApiPath url version = url ++ "api/" ++ version ++ "/" := by
  rw [appendApiPath_eq, withSlash_of_endsIn h, apiPath, ← String.append_assoc,
    ← String.append_assoc]

/-- A text that ends in another one ends in every end of that. -/
theorem EndsIn.of_append {url before ending : String} (h : EndsIn url (before ++ ending)) :
    EndsIn url ending := by
  unfold EndsIn at h
  rw [String.toList_append] at h
  exact (List.suffix_append before.toList ending.toList).trans h

/-! ## Addresses that are left as they are -/

/-- An address that is shaped for a version is left as it is, but for a slash at its end, and so is
every one that ends in the characters of the path; all others get the path. What comes out always
ends in these characters. It ends in the whole path, with the slash in front, just where the address
was shaped or got the path. -/
theorem normalizeMasterUrl_skips (url version : String) :
    (IsShaped (withSlash url) version ↔ EndsIn (withSlash url) ("/" ++ apiPath version)) ∧
      (IsShaped (withSlash url) version → normalizeMasterUrl url version = withSlash url) ∧
      (EndsIn (withSlash url) (apiPath version) →
        normalizeMasterUrl url version = withSlash url) ∧
      (¬EndsIn (withSlash url) (apiPath version) →
        normalizeMasterUrl url version = appendApiPath url version) ∧
      EndsIn (normalizeMasterUrl url version) (apiPath version) ∧
      (EndsIn (normalizeMasterUrl url version) ("/" ++ apiPath version) ↔
        IsShaped (withSlash url) version ∨ ¬EndsIn (withSlash url) (apiPath version)) := by
  have hshaped := isShaped_iff (withSlash url) version
  rw [normalizeMasterUrl_eq]
  by_cases h : EndsIn (withSlash url) (apiPath version)
  · rw [if_pos h]
    refine ⟨hshaped, fun _ => rfl, fun _ => rfl, fun hnot => absurd h hnot, h, ?_⟩
    rw [← hshaped]
    exact ⟨.inl, fun hor => hor.resolve_right (not_not_intro h)⟩
  · have hnot : ¬IsShaped (withSlash url) version := fun his => h (hshaped.mp his).of_append
    rw [if_neg h]
    refine ⟨hshaped, fun his => absurd his hnot, fun hends => absurd hends h, fun _ => rfl,
      endsIn_appendApiPath url version, ?_⟩
    refine iff_of_true ?_ (.inr h)
    exact (isShaped_iff (appendApiPath url version) version).mp ⟨url, rfl⟩

/-- A host whose name ends in the letters of the path makes an address that is not shaped, but does
not get the path. -/
theorem normalizeMasterUrl_skips_unshaped :
    ¬IsShaped (withSlash "https://hapi/v1") "v1" ∧
      normalizeMasterUrl "https://hapi/v1" "v1" = "https://hapi/v1/" ∧
      appendApiPath "https://hapi/v1" "v1" = "https://hapi/v1/api/v1/" := by
  rw [isShaped_iff]
  decide

end ClusterConfig.Url
