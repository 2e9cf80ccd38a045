import ClusterConfig.Proofs.Encodings
import ClusterConfig.Proofs.Stages
import ClusterConfig.Proofs.Trimming

/-!
# What is found of a service account

Looking for a service account has an answer unless the path of the token has a character that no
name of a file can have. The answer is made of the token and the certificate authority, as far as
each of them is there, or it is nothing if neither is. A token that cannot be read, or of which
nothing is left without its blanks, is not there. One that is there is the text of its file without
the blanks at the two ends.

Main definitions:

- `Files.HasFile`: there is a file at a path.
- `Found.GivesNoToken`: the ways in which there is no token at a path.
- `Found.GivesToken`: the token in a file.

Main results:

- Theorem `hasBadName_ofText_eq_false_iff`: the texts that name paths which files can have.
- Theorem `value_readToken_cases`: there is a token in a file, or one of the reasons for none.
- Theorem `read_reports_usable_iff`: when there is an answer, and what is found.
-/

namespace ClusterConfig

/-! ## Names that files can have -/

/-- A text names a path that a file can have just where each of its characters can stand in a
name. -/
theorem Path.hasBadName_ofText_eq_false_iff {text : String} :
    (Path.ofText text).hasBadName = false ↔ ∀ c ∈ text.toList, mayName c = true := by
  simp only [hasBadName, List.any_eq_false, Bool.not_eq_true', Bool.not_eq_false, List.all_eq_true]
  constructor
  · intro h c hc
    by_contra hbad
    -- Slashes and dots can stand in a name, so the character is in a piece that is a part.
    have hslash : c ≠ '/' := by
      rintro rfl
      exact hbad (by decide)
    have hdot : c ≠ '.' := by
      rintro rfl
      exact hbad (by decide)
    obtain ⟨piece, hpiece, hinside⟩ : ∃ piece ∈ text.toList.splitOn '/', c ∈ piece :=
      Text.exists_mem_splitOnP_iff.mpr ⟨hc, beq_false_of_ne hslash⟩
    have hpart : String.ofList piece ∈ (ofText text).parts := by
      refine List.mem_filter.mpr ⟨List.mem_map_of_mem hpiece, decide_eq_true ⟨?_, ?_⟩⟩
      · intro hempty
        obtain rfl : piece = [] := by simpa using hempty
        cases hinside
      · intro hone
        obtain rfl : piece = ['.'] := by simpa using congrArg String.toList hone
        exact hdot (List.mem_singleton.mp hinside)
    refine hbad (h _ hpart c ?_)
    rwa [String.toList_ofList]
  · intro h part hpart c hc
    obtain ⟨piece, hpiece, rfl⟩ := List.mem_map.mp (List.mem_filter.mp hpart).1
    rw [String.toList_ofList] at hc
    exact h c (Text.exists_mem_splitOnP_iff.mp ⟨piece, hpiece, hc⟩).1

/-! ## Tokens in files -/

/-- There is a file at a path, under a name that files can have. -/
def Files.HasFile (files : Files) (path : Path) : Prop :=
  path.hasBadName = false ∧ ∃ bytes, files path = .file bytes

/-- Whether a path leads to a file. -/
theorem Files.isFile_iff_hasFile {files : Files} {path : Path} :
    files.isFile path = true ↔ files.HasFile path := by
  unfold isFile HasFile
  rw [Bool.and_eq_true, Bool.not_eq_true']
  refine and_congr_right fun _ => ?_
  cases files path <;> simp [Found.isFile]

namespace Found

/-- The ways in which a path leads to no token: there is no file that the system opens, the bytes of
the file are not those of a text, or the text is blank. -/
inductive GivesNoToken : Found → Prop where
  | missing : GivesNoToken .missing
  | directory : GivesNoToken .directory
  | underFile : GivesNoToken .underFile
  | refused : GivesNoToken .refused
  | notText {bytes : ByteArray} (h : ∀ s : String, s.toUTF8 ≠ bytes) : GivesNoToken (.file bytes)
  | blank {s : String} (h : ∀ c ∈ s.toList, Text.isBlank c = true) : GivesNoToken (.file s.toUTF8)

/-- A path leads to a file with a token: a text that is left of the file, its line ends written
alike, without the blanks at the two ends, and that is not empty. -/
def GivesToken (found : Found) (token : String) : Prop :=
  token ≠ "" ∧ ∃ s : String, found = .file s.toUTF8 ∧
    Text.IsCore token.toList (Text.unifyNewlines s.toList)

/-- The bytes of a file are those of one text. -/
theorem file_toUTF8_inj {s t : String} (h : file s.toUTF8 = file t.toUTF8) : s = t := by
  injection h with hbytes
  rwa [String.toUTF8_eq_toByteArray, String.toUTF8_eq_toByteArray, String.toByteArray_inj] at hbytes

/-- A path that leads to no token leads to none. -/
theorem GivesNoToken.not_givesToken {found : Found} (h : found.GivesNoToken) (token : String) :
    ¬found.GivesToken token := by
  rintro ⟨hne, s, hfound, hcore⟩
  cases h with
  | notText hno =>
    injection hfound with hbytes
    exact hno s hbytes.symm
  | blank hblank =>
    obtain rfl := file_toUTF8_inj hfound
    have hnil := Text.trimChars_eq_nil_iff.mpr ((Text.blank_unifyNewlines_iff _).mpr hblank)
    rw [hcore.trimChars_eq] at hnil
    exact hne (String.toList_injective hnil)
  | _ => cases hfound

/-- A path leads to one token at most. -/
theorem GivesToken.unique {found : Found} {token token' : String} (h : found.GivesToken token)
    (h' : found.GivesToken token') : token = token' := by
  obtain ⟨-, s, rfl, hcore⟩ := h
  obtain ⟨-, t, hfound, hcore'⟩ := h'
  obtain rfl := file_toUTF8_inj hfound
  exact String.toList_injective (hcore.trimChars_eq.symm.trans hcore'.trimChars_eq)

end Found

namespace ServiceAccount

/-- The token that a text holds is what is left of it without the blanks at its ends, if anything
is. -/
theorem usable?_eq (text : String) :
    (usable? text = none ∧ ∀ c ∈ text.toList, Text.isBlank c = true) ∨
      ∃ token, usable? text = some token ∧ token ≠ "" ∧ Text.IsCore token.toList text.toList := by
  have hcore := Text.isCore_trimChars text.toList
  unfold usable?
  dsimp only
  by_cases hempty : Text.trim text = ""
  · rw [if_pos hempty]
    refine .inl ⟨rfl, Text.trimChars_eq_nil_iff.mp ?_⟩
    rw [← Text.toList_trim, hempty]
    rfl
  · rw [if_neg hempty]
    refine .inr ⟨_, rfl, hempty, ?_⟩
    rwa [Text.toList_trim]

/-- A path leads to a token, which is then read, or to none for one of the reasons for that. -/
theorem value_readToken_cases (files : Files) {path : String}
    (hgood : (Path.ofText path).hasBadName = false) :
    ((readToken files path).value = .ok none ∧ (files (.ofText path)).GivesNoToken) ∨
      ∃ token, (readToken files path).value = .ok (some token) ∧
        (files (.ofText path)).GivesToken token := by
  have hbytes : files.readBytes (.ofText path) = (files (.ofText path)).content :=
    if_neg (by simp [hgood])
  rw [Resolve.value_readToken, if_neg (by simp [hgood]), Files.readText, Files.readWith, hbytes]
  cases files (.ofText path) with
  | directory => exact .inl ⟨rfl, .directory⟩
  | missing => exact .inl ⟨rfl, .missing⟩
  | underFile => exact .inl ⟨rfl, .underFile⟩
  | refused => exact .inl ⟨rfl, .refused⟩
  | file bytes =>
    rw [Found.content]
    dsimp only
    cases hdecode : Text.decode? bytes with
    | none => exact .inl ⟨rfl, .notText (Text.decode?_eq_none_iff.mp hdecode)⟩
    | some text =>
      obtain ⟨s, rfl, rfl⟩ := Text.decode?_eq_some_iff.mp hdecode
      rcases usable?_eq (String.ofList (Text.unifyNewlines s.toList)) with
        ⟨hnone, hblank⟩ | ⟨token, hsome, hne, hcore⟩
      · rw [String.toList_ofList, Text.blank_unifyNewlines_iff] at hblank
        exact .inl ⟨congrArg Except.ok hnone, .blank hblank⟩
      · rw [String.toList_ofList] at hcore
        exact .inr ⟨token, congrArg Except.ok hsome, hne, s, rfl, hcore⟩

/-- Reading a token tells what the path leads to: a token, or none. -/
theorem exists_value_readToken (files : Files) {path : String}
    (hgood : (Path.ofText path).hasBadName = false) :
    ∃ token, (readToken files path).value = .ok token ∧
      (token = none ↔ (files (.ofText path)).GivesNoToken) ∧
      ∀ t, token = some t ↔ (files (.ofText path)).GivesToken t := by
  rcases value_readToken_cases files hgood with ⟨hvalue, hnone⟩ | ⟨token, hvalue, htoken⟩
  · refine ⟨none, hvalue, iff_of_true rfl hnone, fun t => iff_of_false nofun ?_⟩
    exact hnone.not_givesToken t
  · refine ⟨some token, hvalue, iff_of_false nofun ?_, fun t => ⟨?_, ?_⟩⟩
    · exact fun hnone => hnone.not_givesToken token htoken
    · rintro ⟨⟩
      exact htoken
    · exact fun ht => congrArg some (htoken.unique ht)

/-- There is no certificate authority just where there is no file of it. -/
theorem caFile?_eq_none_iff {files : Files} {path : String} :
    caFile? files path = none ↔ ¬files.HasFile (.ofText path) := by
  rw [← Files.isFile_iff_hasFile, caFile?]
  split <;> simp_all

/-- The certificate authority is named as it was given just where there is a file of it. -/
theorem caFile?_eq_some_iff {files : Files} {path : String} :
    caFile? files path = some path ↔ files.HasFile (.ofText path) := by
  rw [← Files.isFile_iff_hasFile, caFile?]
  split <;> simp_all

/-- A token that is looked for under a name that no file can have ends the search. -/
theorem value_read_of_hasBadName {files : Files} {mount : Mount}
    (h : (Path.ofText mount.tokenPath).hasBadName = true) :
    (read files mount).value = .error .badName := by
  rw [read, Noted.value_map, Resolve.value_readToken, if_pos h]
  rfl

/-- Otherwise the answer is made of the token and the certificate authority. -/
theorem exists_value_read (files : Files) {mount : Mount}
    (h : (Path.ofText mount.tokenPath).hasBadName = false) :
    ∃ token, (read files mount).value = .ok (ofParts? token (caFile? files mount.caPath)) ∧
      (token = none ↔ (files (.ofText mount.tokenPath)).GivesNoToken) ∧
      ∀ t, token = some t ↔ (files (.ofText mount.tokenPath)).GivesToken t := by
  obtain ⟨token, hvalue, hparts⟩ := exists_value_readToken files h
  refine ⟨token, ?_, hparts⟩
  rw [read, Noted.value_map, hvalue]
  rfl

/-- Looking for a service account has an answer just where every character in the path of the token
can stand in the name of a file; otherwise it fails for that name. The answer is nothing just where
there is no file of the certificate authority and no token. Otherwise it names the certificate
authority, as it was given, just where there is a file of it, and it has the token that there is: a
text that is not empty, that neither starts nor ends with a blank, and that stands unchanged in the
file with nothing but blanks around it. -/
theorem read_reports_usable_iff (files : Files) (mount : Mount) :
    ((∃ found, (read files mount).value = .ok found) ↔
        ∀ c ∈ mount.tokenPath.toList, Path.mayName c = true) ∧
      (∀ fault, (read files mount).value = .error fault → fault = .badName) ∧
      ∀ found, (read files mount).value = .ok found →
        (found = none ↔
          ¬files.HasFile (.ofText mount.caPath) ∧
            (files (.ofText mount.tokenPath)).GivesNoToken) ∧
        ∀ account, found = some account →
          (account.caCertFile = some mount.caPath ↔ files.HasFile (.ofText mount.caPath)) ∧
            (account.caCertFile = none ↔ ¬files.HasFile (.ofText mount.caPath)) ∧
            (account.token = none ↔ (files (.ofText mount.tokenPath)).GivesNoToken) ∧
            ∀ token, account.token = some token ↔
              (files (.ofText mount.tokenPath)).GivesToken token := by
  rw [← Path.hasBadName_ofText_eq_false_iff]
  cases hname : (Path.ofText mount.tokenPath).hasBadName with
  | true =>
    rw [value_read_of_hasBadName hname]
    refine ⟨by simp, fun fault hfault => (Except.error.inj hfault).symm, nofun⟩
  | false =>
    obtain ⟨token, hvalue, hnone, hsome⟩ := exists_value_read files hname
    rw [hvalue]
    refine ⟨by simp, nofun, ?_⟩
    rintro found hfound
    obtain rfl := Except.ok.inj hfound
    refine ⟨?_, ?_⟩
    · rw [ofParts?_eq_none_iff, hnone, caFile?_eq_none_iff, and_comm]
    · intro account haccount
      obtain rfl := eq_of_ofParts? haccount
      exact ⟨caFile?_eq_some_iff, caFile?_eq_none_iff, hnone, hsome⟩

/-- A file with a token, line ends in two forms and blanks around it, beside a missing certificate
authority. -/
def filesOfToken : Files := fun path =>
  if path = .ofText "sa/token" then .file "\r\n one\r\ntwo\u3000\n".toUTF8 else .missing

/-- The token is found without the blanks around it, its inner line end as a line feed, and no
certificate authority is. -/
theorem read_reports_usable_sample :
    ∃ account, (read filesOfToken ⟨"sa/token", "sa/ca.crt"⟩).value = .ok (some account) ∧
      account.token = some "one\ntwo" ∧ account.caCertFile = none := by
  obtain ⟨hanswers, -, hreports⟩ :=
    read_reports_usable_iff filesOfToken ⟨"sa/token", "sa/ca.crt"⟩
  have hgood : "sa/token".toList.all Path.mayName = true := by decide
  obtain ⟨found, hvalue⟩ := hanswers.mpr (List.all_eq_true.mp hgood)
  obtain ⟨hnone, hparts⟩ := hreports found hvalue
  have htoken : (filesOfToken (.ofText "sa/token")).GivesToken "one\ntwo" := by
    refine ⟨by decide, "\r\n one\r\ntwo\u3000\n", if_pos rfl, ?_⟩
    exact Text.trimChars_eq_iff.mp (by decide)
  have hca : ¬filesOfToken.HasFile (.ofText "sa/ca.crt") := by
    rintro ⟨-, bytes, hbytes⟩
    cases hbytes.symm.trans (if_neg (by decide))
  obtain ⟨account, rfl⟩ : ∃ account, found = some account := by
    apply Option.ne_none_iff_exists'.mp
    intro heq
    exact (hnone.mp heq).2.not_givesToken _ htoken
  obtain ⟨-, hcaNone, -, htokenSome⟩ := hparts account rfl
  exact ⟨account, hvalue, (htokenSome _).mpr htoken, hcaNone.mpr hca⟩

/-- A mount whose token has a path with a half of a pair in it. -/
def mountOfHalf : Mount where
  tokenPath := String.ofList (Text.ofCode 0xD800 :: "/token".toList)
  caPath := "ca.crt"

/-- Without any null character in the two paths there can still be no answer: a half of a pair that
stands for no byte ends the search, where there are no files at all. -/
theorem read_fails_of_half :
    '\x00' ∉ mountOfHalf.tokenPath.toList ∧ '\x00' ∉ mountOfHalf.caPath.toList ∧
      ¬∃ found, (read (fun _ => .missing) mountOfHalf).value = .ok found := by
  have hbad : (Path.ofText mountOfHalf.tokenPath).hasBadName ≠ false := by
    intro hgood
    have hhalf := Path.hasBadName_ofText_eq_false_iff.mp hgood (Text.ofCode 0xD800) (by decide)
    rw [Path.mayName_ofCode rfl] at hhalf
    cases hhalf
  refine ⟨by decide, by decide, ?_⟩
  rw [value_read_of_hasBadName (eq_true_of_ne_false hbad)]
  rintro ⟨found, hfound⟩
  cases hfound

end ServiceAccount

end ClusterConfig
