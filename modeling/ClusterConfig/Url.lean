/-!
# Server addresses

The address that a client talks to: the address of a server followed by the path of an API version.

Main definitions:

- `Url.appendApiPath`: the address with the path of a version after it.
- `Url.normalizeMasterUrl`: the same, unless the address already ends that way.
-/

namespace ClusterConfig.Url

/-- The characters of an address, with a slash added if they do not end in one. -/
def withSlashChars (url : List Char) : List Char :=
  if ['/'].isSuffixOf url then url else url ++ ['/']

/-- The path of an API version, without a slash in front. -/
def apiPathChars (version : List Char) : List Char :=
  'a' :: 'p' :: 'i' :: '/' :: version ++ ['/']

/-- The characters of an address with the path of a version after it. -/
def appendChars (url version : List Char) : List Char :=
  withSlashChars url ++ apiPathChars version

/-- The characters of an address that ends in the path of a version. -/
def normalizeChars (url version : List Char) : List Char :=
  let slashed := withSlashChars url
  if (apiPathChars version).isSuffixOf slashed then slashed else appendChars slashed version

/-- The address with the path of a version after it. -/
def appendApiPath (url version : String) : String :=
  String.ofList (appendChars url.toList version.toList)

/-- The address with the path of a version after it, unless it already ends in that path. -/
def normalizeMasterUrl (url version : String) : String :=
  String.ofList (normalizeChars url.toList version.toList)

@[simp]
theorem toList_appendApiPath (url version : String) :
    (appendApiPath url version).toList = appendChars url.toList version.toList := by
  simp [appendApiPath]

@[simp]
theorem toList_normalizeMasterUrl (url version : String) :
    (normalizeMasterUrl url version).toList = normalizeChars url.toList version.toList := by
  simp [normalizeMasterUrl]

/-- An address with a slash at its end is left as it is. -/
theorem withSlashChars_of_suffix {url : List Char} (h : ['/'] <:+ url) :
    withSlashChars url = url := by
  simp [withSlashChars, h]

/-- Every address gets a slash at its end. -/
theorem slash_suffix_withSlashChars (url : List Char) : ['/'] <:+ withSlashChars url := by
  unfold withSlashChars
  split
  · simp_all
  · exact List.suffix_append _ _

end ClusterConfig.Url
