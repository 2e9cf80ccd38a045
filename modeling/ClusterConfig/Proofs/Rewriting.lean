import ClusterConfig.Proofs.Disabled
import ClusterConfig.Proofs.Encodings
import ClusterConfig.Proofs.Failures
import ClusterConfig.Proofs.MountedAccounts
import Mathlib.Data.Bool.Basic

/-!
# Files that are written again

The same text can be written to a file with other line ends, and with or without a byte order mark.
A kubeconfig file says the same afterwards, and so does the configuration that it is a source of.
There is one exception: the mark in front of a token counts as a part of the token. So a file that
is the kubeconfig file and the token of the service account at the same time, once with and once
without a mark, makes two configurations.

Main definitions:

- `Found.IsRewritten`, `World.IsRewritten`: nothing differs but the way in which a text is written.
- `World.MarksToken`: the token is taken from the text, which has a mark in one of two worlds alone.

Main results:

- Theorems `load_rewritten`, `parse_rewritten`: what a kubeconfig file holds is the same.
- Theorem `outcome_of_not_marksToken`: so is what resolution comes to, unless the token has a mark.
- Theorem `outcome_ne_of_marksToken`: a token with a mark makes another configuration.
- Theorem `rewritten_alike`: both together.
-/

namespace ClusterConfig

/-! ## Writing a text again -/

namespace Found

/-- A path leads to a file with a text in it, written with line ends of some form, and with a byte
order mark or without. -/
def Holds (text : String) (marked : Bool) (found : Found) : Prop :=
  ∃ lineEnd, found = .file (Text.encoded marked lineEnd text)

/-- Nothing differs but the way in which a text is written. -/
inductive IsRewritten (text : String) (found found' : Found) : Prop where
  | same (h : found = found')
  | written {marked marked' : Bool} (h : found.Holds text marked) (h' : found'.Holds text marked')

end Found

namespace World

/-- Nothing differs between two worlds but the way in which a text is written to files. -/
structure IsRewritten (text : String) (w w' : World) : Prop where
  settings : w.settings = w'.settings
  home : w.home = w'.home
  mount : w.mount = w'.mount
  files : ∀ path, (w.files path).IsRewritten text (w'.files path)

/-- The text is taken for the token of the service account, since the account is asked and neither
the caller nor the settings have a token, and it has a byte order mark in one of two worlds
alone. -/
structure MarksToken (text : String) (w w' : World) (explicit : List (String × Value)) : Prop where
  wanted : w.wants Settings.tryServiceAccount = true
  isOpen : (Draft.given explicit .oauthToken).orElse (w.settings.field .oauthToken).value = .null
  files : ∃ marked, (w.files (.ofText w.mount.tokenPath)).Holds text marked ∧
    (w'.files (.ofText w.mount.tokenPath)).Holds text (!marked)

end World

/-! ## Kubeconfig files -/

section Files

variable {text : String} {files files' : Files} {path : Path}

/-- A path leads to a file no matter how the file is written. -/
theorem Files.isFile_rewritten (h : (files path).IsRewritten text (files' path)) :
    files.isFile path = files'.isFile path := by
  unfold isFile
  rcases h with heq | ⟨⟨lineEnd, hfound⟩, lineEnd', hfound'⟩
  · rw [heq]
  · rw [hfound, hfound']
    rfl

/-- A file that holds a text is read as the decoder has it, under any name that a file can have. -/
theorem Files.readWith_of_holds {marked : Bool} {decode : ByteArray → Option String} {s : String}
    (hdecode : ∀ lineEnd, decode (Text.encoded marked lineEnd text) = some s)
    (h : (files path).Holds text marked) :
    files.readWith decode path = if path.hasBadName then .error .badName else .ok s := by
  obtain ⟨lineEnd, hfound⟩ := h
  unfold readWith readBytes
  rw [hfound]
  cases path.hasBadName with
  | true => rfl
  | false => simp [Found.content, hdecode]

/-- Where a mark is expected, a plain text is read no matter how it is written. -/
theorem Files.readMarkedText_rewritten (hplain : Text.IsPlain text)
    (h : (files path).IsRewritten text (files' path)) :
    files.readMarkedText path = files'.readMarkedText path := by
  have hdecode := fun marked lineEnd => Text.decodeMarked?_encoded marked lineEnd hplain
  rcases h with heq | ⟨hholds, hholds'⟩
  · exact readWith_congr heq
  · exact (readWith_of_holds (hdecode _) hholds).trans (readWith_of_holds (hdecode _) hholds').symm

/-- Where none is expected, the mark is kept. -/
theorem Files.readText_of_holds {marked : Bool} (hplain : Text.IsPlain text)
    (h : (files path).Holds text marked) :
    files.readText path =
      if path.hasBadName then .error .badName
      else .ok (String.ofList (Text.withMark marked text.toList)) :=
  readWith_of_holds (fun lineEnd => Text.decode?_encoded marked lineEnd hplain.no_return) h

namespace Kubeconfig

/-- A kubeconfig file holds the same document no matter how it is written. -/
theorem load_rewritten (hplain : Text.IsPlain text)
    (h : (files path).IsRewritten text (files' path)) (reader : Yaml.Reader) :
    load files reader path = load files' reader path := by
  unfold load readText
  rw [Files.readMarkedText_rewritten hplain h]

/-- A kubeconfig file holds the same snapshot no matter how it is written. -/
theorem parse_rewritten (hplain : Text.IsPlain text)
    (h : (files path).IsRewritten text (files' path)) (reader : Yaml.Reader) (given : String) :
    parse files reader given path = parse files' reader given path := by
  unfold parse
  rw [load_rewritten hplain h]

end Kubeconfig

end Files

namespace World.IsRewritten

variable {text : String} {w w' : World}

/-- The same sources are asked. -/
theorem wants_eq (h : w.IsRewritten text w') (name : String) : w.wants name = w'.wants name := by
  rw [wants, wants, h.settings]

/-- The kubeconfig file is consulted with the same result. -/
theorem consulted_eq (h : w.IsRewritten text w') (hplain : Text.IsPlain text)
    (reader : Yaml.Reader) (d : Draft) :
    Resolve.consulted w reader d = Resolve.consulted w' reader d := by
  have hlook : Resolve.look w reader = Resolve.look w' reader := by
    refine Resolve.look_congr (by rw [h.settings, h.home]) fun path _ => ?_
    refine ⟨Files.isFile_rewritten (h.files path), fun _ => ?_⟩
    exact Kubeconfig.parse_rewritten hplain (h.files path) reader path.toText
  rw [Resolve.consulted_eq, Resolve.consulted_eq, Resolve.supply, Resolve.supply, h.wants_eq,
    hlook]

end World.IsRewritten

/-! ## The token of a service account -/

namespace World.IsRewritten

variable {text : String} {w w' : World}

/-- The certificate authority of the service account is the same. -/
theorem caCertFile_eq (h : w.IsRewritten text w') :
    w.account.caCertFile = w'.account.caCertFile := by
  have hfile := Files.isFile_rewritten (h.files (.ofText w.mount.caPath))
  unfold account ServiceAccount.caFile?
  rw [← h.wants_eq, ← h.mount, hfile]
  split <;> rfl

/-- The token of the service account is the same, unless it is read from the text and that has a
mark in one of the two worlds alone. -/
theorem token_eq_or (h : w.IsRewritten text w') (hplain : Text.IsPlain text) :
    w.account.token = w'.account.token ∨
      w.wants Settings.tryServiceAccount = true ∧
        ∃ marked, (w.files (.ofText w.mount.tokenPath)).Holds text marked ∧
          (w'.files (.ofText w.mount.tokenPath)).Holds text (!marked) := by
  have htoken : w.files.readText (.ofText w.mount.tokenPath) =
      w'.files.readText (.ofText w.mount.tokenPath) → w.account.token = w'.account.token := by
    intro hread
    unfold account
    rw [← h.wants_eq, ← h.mount, hread]
    split <;> rfl
  by_cases hwanted : w.wants Settings.tryServiceAccount = true
  · rcases h.files (.ofText w.mount.tokenPath) with heq | @⟨marked, marked', hholds, hholds'⟩
    · exact .inl (htoken (Files.readWith_congr heq))
    · rcases Bool.eq_or_eq_not marked' marked with rfl | rfl
      · left
        apply htoken
        rw [Files.readText_of_holds hplain hholds, Files.readText_of_holds hplain hholds']
      · exact .inr ⟨hwanted, marked, hholds, hholds'⟩
  · left
    have hwanted' : ¬w'.wants Settings.tryServiceAccount = true := by
      rwa [← h.wants_eq]
    rw [account, account, if_neg hwanted, if_neg hwanted']

end World.IsRewritten

namespace Resolve

/-- A draft with a token takes nothing but the certificate authority of a service account. -/
theorem value_adoptAccount_of_token (account : ServiceAccount) {d : Draft}
    (h : d.values .oauthToken ≠ .null) : (adoptAccount account d).value = adoptCa account d := by
  have hca : (adoptCa account d).values .oauthToken ≠ .null := by
    rw [adoptCa_eq_fill, Draft.values_fill, Value.orElse_of_ne_null h]
    exact h
  unfold adoptAccount
  rw [Draft.fill_cons_of_skip (.inr hca), Draft.fill_nil]
  rfl

variable {text : String} {w w' : World} {explicit : List (String × Value)}

/-- The service account is asked with the same result, unless the text is taken for its token and
has a mark in one of the two worlds alone. -/
theorem mounted_of_not_marksToken (h : w.IsRewritten text w') (hplain : Text.IsPlain text)
    (hmap : (explicit.map Prod.fst).Nodup) (hmarks : ¬w.MarksToken text w' explicit) {d₀ : Draft}
    (h₀ : accept explicit = .ok d₀) :
    mounted w (seed w.settings d₀).value = mounted w' (seed w.settings d₀).value := by
  have hadopted : (adoptAccount w.account (seed w.settings d₀).value).value =
      (adoptAccount w'.account (seed w.settings d₀).value).value := by
    rcases h.token_eq_or hplain with htoken | ⟨hwanted, hfiles⟩
    · have haccount : w.account = w'.account := by
        have hca := h.caCertFile_eq
        cases hfirst : w.account
        cases hsecond : w'.account
        simp_all
      rw [haccount]
    · have hset : (seed w.settings d₀).value.values .oauthToken ≠ .null := by
        rw [values_seed, values_accept h₀ hmap]
        exact fun hopen => hmarks ⟨hwanted, hopen, hfiles⟩
      have hca : adoptCa w.account = adoptCa w'.account := by
        unfold adoptCa
        rw [h.caCertFile_eq]
      rw [value_adoptAccount_of_token _ hset, value_adoptAccount_of_token _ hset, hca]
  rw [mounted_eq, mounted_eq, h.wants_eq, h.mount, hadopted]

/-- Resolution comes to the same, unless the text is taken for the token of the service account and
has a mark in one of the two worlds alone. -/
theorem outcome_of_not_marksToken (h : w.IsRewritten text w') (hplain : Text.IsPlain text)
    (hmap : (explicit.map Prod.fst).Nodup) (hmarks : ¬w.MarksToken text w' explicit)
    (reader : Yaml.Reader) :
    (resolve w reader explicit).outcome = (resolve w' reader explicit).outcome := by
  have hconsulted : consulted w reader = consulted w' reader :=
    funext (h.consulted_eq hplain reader)
  rw [outcome_resolve, outcome_resolve, hconsulted, ← h.settings]
  cases h₀ : accept explicit with
  | error failure => rfl
  | ok d₀ =>
    change (mounted w (seed w.settings d₀).value).bind _ =
      (mounted w' (seed w.settings d₀).value).bind _
    rw [mounted_of_not_marksToken h hplain hmap hmarks h₀]

/-! ## Tokens with a mark -/

/-- Where neither the caller nor the settings have a token, a configuration tells that of the
service account: it has the token, with the diagnostics for it, or other diagnostics. -/
theorem token_account_of_outcome {w : World} {reader : Yaml.Reader} {c : Config}
    (hmap : (explicit.map Prod.fst).Nodup)
    (hopen : (Draft.given explicit .oauthToken).orElse (w.settings.field .oauthToken).value = .null)
    (h : (resolve w reader explicit).outcome = .ok c) :
    w.account.token =
      if c.messages = Hint.serviceAccount.messages then (c.values .oauthToken).text? else none := by
  obtain ⟨d₀, d₁, d₂, h₀, h₁, h₂, hfinish⟩ := resolve_eq_ok_iff.mp h
  have hseeded : (seed w.settings d₀).value.values .oauthToken = .null := by
    rw [values_seed, values_accept h₀ hmap, hopen]
  have hnone : (seed w.settings d₀).value.messages = [] := by
    rw [messages_seed, messages_accept h₀]
  have hmessages := messages_mounted h₁ hnone
  rw [messages_finish hfinish]
  cases htoken : w.account.token with
  | some token =>
    rw [if_pos ⟨hseeded, by simp [htoken]⟩] at hmessages
    have hmounted : d₁.values .oauthToken = .text token := by
      rw [values_mounted h₁, hseeded, Value.null_orElse, ServiceAccount.offer, htoken]
      rfl
    rw [if_pos (messages_consulted_of_explained h₂ hmessages),
      (values_finish hfinish).2.2 _ (by decide) (by decide), values_consulted h₂, hmounted]
    rfl
  | none =>
    have hdistinct : Hint.kubeconfig.messages ≠ Hint.serviceAccount.messages ∧
        [] ≠ Hint.serviceAccount.messages := by
      decide
    rw [if_neg (by simp [htoken])] at hmessages
    rcases messages_consulted h₂ hmessages with ⟨hkubeconfig, -⟩ | ⟨hempty, -⟩
    · rw [hkubeconfig, if_neg hdistinct.1]
    · rw [hempty, if_neg hdistinct.2]

/-- A text with a mark in front holds another token than the text without it: it holds one even if
the text is blank, and one with a mark more if it is not. -/
theorem usable?_withMark_ne (text : String) :
    ∃ token, ServiceAccount.usable? (String.ofList (Text.withMark true text.toList)) = some token ∧
      ServiceAccount.usable? text ≠ some token := by
  have hmark : Text.isBlank Text.mark = false := by decide
  rcases ServiceAccount.usable?_eq (String.ofList (Text.withMark true text.toList)) with
    ⟨-, hblank⟩ | ⟨token, htoken, -, hcore⟩
  · have hmem : Text.mark ∈ (String.ofList (Text.withMark true text.toList)).toList := by
      simp [Text.withMark]
    rw [hblank _ hmem] at hmark
    cases hmark
  · refine ⟨token, htoken, ?_⟩
    intro hsame
    rcases ServiceAccount.usable?_eq text with ⟨hnone, -⟩ | ⟨token', htoken', -, hcore'⟩
    · rw [hnone] at hsame
      cases hsame
    · obtain rfl := Option.some.inj (htoken'.symm.trans hsame)
      have hcount := (hcore.count_eq hmark).symm.trans (hcore'.count_eq hmark)
      rw [String.toList_ofList, Text.withMark, if_pos rfl, List.count_cons_self] at hcount
      omega

/-- A token that a file holds is found in the text with the mark in front of it, if there is one. -/
theorem token_account_of_holds {w : World} (hplain : Text.IsPlain text)
    (hwanted : w.wants Settings.tryServiceAccount = true)
    (hgood : (Path.ofText w.mount.tokenPath).hasBadName = false) {marked : Bool}
    (hholds : (w.files (.ofText w.mount.tokenPath)).Holds text marked) :
    w.account.token =
      ServiceAccount.usable? (String.ofList (Text.withMark marked text.toList)) := by
  have hread := Files.readText_of_holds hplain hholds
  rw [hgood, if_neg (by decide)] at hread
  rw [World.account, if_pos hwanted, hread]

/-- A token with a mark in one of two worlds alone makes two configurations. -/
theorem outcome_ne_of_marksToken (h : w.IsRewritten text w') (hplain : Text.IsPlain text)
    (hmap : (explicit.map Prod.fst).Nodup) (hmarks : w.MarksToken text w' explicit)
    {reader : Yaml.Reader} {c : Config} (hc : (resolve w reader explicit).outcome = .ok c) :
    (resolve w' reader explicit).outcome ≠ .ok c := by
  intro hc'
  obtain ⟨hwanted, hopen, marked, hholds, hholds'⟩ := hmarks
  have hgood : (Path.ofText w.mount.tokenPath).hasBadName = false := by
    obtain ⟨d₀, d₁, d₂, -, h₁, -, -⟩ := resolve_eq_ok_iff.mp hc
    exact (exists_mounted_iff w _).mp ⟨d₁, h₁⟩ hwanted
  have hwanted' : w'.wants Settings.tryServiceAccount = true :=
    (h.wants_eq Settings.tryServiceAccount).symm.trans hwanted
  have hsame : w.account.token = w'.account.token := by
    rw [token_account_of_outcome hmap hopen hc]
    rw [h.settings] at hopen
    rw [token_account_of_outcome hmap hopen hc']
  rw [token_account_of_holds hplain hwanted hgood hholds] at hsame
  rw [h.mount] at hgood hholds'
  rw [token_account_of_holds hplain hwanted' hgood hholds'] at hsame
  obtain ⟨token, htoken, hother⟩ := usable?_withMark_ne text
  cases marked with
  | true =>
    rw [htoken, Bool.not_true, Text.withMark, if_neg (by decide), String.ofList_toList] at hsame
    exact hother hsame.symm
  | false =>
    rw [Bool.not_false, htoken, Text.withMark, if_neg (by decide), String.ofList_toList] at hsame
    exact hother hsame

/-! ## Failures -/

/-- A draft does not fail to be finished for anything but its address and its protocols. -/
theorem finish_error_congr {d d' : Draft} {failure : Failure} (h : finish d = .error failure)
    (hurl : d.values .masterUrl = d'.values .masterUrl)
    (hprotocols : d.values .enabledProtocols = d'.values .enabledProtocols) :
    finish d' = .error failure := by
  have hfilled : ∀ {f}, f ≠ .trustCerts → d.values f = d'.values f →
      (d.fill defaults).1.values f = (d'.fill defaults).1.values f := by
    intro f hf hsame
    rw [values_fill_defaults d hf, values_fill_defaults d' hf, hsame]
  rw [finish_eq_error_iff] at h ⊢
  rwa [← hfilled (by decide) hurl, ← protocols?_congr (hfilled (by decide) hprotocols)]

/-- The service account is asked with the same failure, or with the same result but for the
token. -/
theorem mounted_rewritten (h : w.IsRewritten text w') (d : Draft) :
    (∀ failure, mounted w d = .error failure → mounted w' d = .error failure) ∧
      ∀ d₁, mounted w d = .ok d₁ →
        ∃ d₁', mounted w' d = .ok d₁' ∧ ∀ f, f ≠ .oauthToken → d₁.values f = d₁'.values f := by
  have hoffer : ∀ certificate f, f ≠ .oauthToken →
      w.account.offer certificate f = w'.account.offer certificate f := by
    intro certificate f hf
    cases f <;> first | exact absurd rfl hf | simp [ServiceAccount.offer, h.caCertFile_eq]
  rw [mounted_eq, mounted_eq, ← h.wants_eq, ← h.mount]
  split
  · refine ⟨fun _ => id, ?_⟩
    rintro _ ⟨⟩
  · refine ⟨?_, ?_⟩
    · rintro _ ⟨⟩
    · rintro _ ⟨⟩
      refine ⟨_, rfl, ?_⟩
      intro f hf
      rw [values_adoptAccount, values_adoptAccount, hoffer _ f hf]

/-- What makes a resolution fail does so no matter how a text is written. -/
theorem outcome_error_rewritten (h : w.IsRewritten text w') (hplain : Text.IsPlain text)
    {reader : Yaml.Reader} {failure : Failure}
    (hfailure : (resolve w reader explicit).outcome = .error failure) :
    (resolve w' reader explicit).outcome = .error failure := by
  have hconsulted : consulted w reader = consulted w' reader :=
    funext (h.consulted_eq hplain reader)
  rw [resolve_eq_error_iff] at hfailure ⊢
  rw [← hconsulted, ← h.settings]
  rcases hfailure with h₀ | ⟨d₀, h₀, h₁ | ⟨d₁, h₁, h₂⟩⟩
  · exact .inl h₀
  · exact .inr ⟨d₀, h₀, .inl ((mounted_rewritten h _).1 _ h₁)⟩
  · obtain ⟨d₁', h₁', hvalues⟩ := (mounted_rewritten h _).2 _ h₁
    refine .inr ⟨d₀, h₀, .inr ⟨d₁', h₁', ?_⟩⟩
    rcases h₂ with h₂ | ⟨d₂, h₂, h₃⟩
    · exact .inl (consulted_eq_error_iff.mpr (consulted_eq_error_iff.mp h₂))
    · obtain ⟨d₂', h₂'⟩ := exists_consulted_congr h₂ d₁'
      have hfield : ∀ f, f ≠ .oauthToken → d₂.values f = d₂'.values f := by
        intro f hf
        rw [values_consulted h₂, values_consulted h₂', hvalues f hf]
      exact .inr ⟨d₂', h₂', finish_error_congr h₃ (hfield _ (by decide)) (hfield _ (by decide))⟩

/-- A plain text says the same in a kubeconfig file no matter how it is written: with which line
ends, and with or without a byte order mark. The file holds the same document, or fails to hold one
for the same reason, it gives the same snapshot, and resolution comes to the same with it. The one
exception is a resolution that gives a configuration with the text in its token, if the text has a
mark in one of the two worlds alone. -/
theorem rewritten_alike (text : String) (hplain : Text.IsPlain text) (reader : Yaml.Reader) :
    (∀ (files files' : Files) (path : Path), (files path).IsRewritten text (files' path) →
        Kubeconfig.load files reader path = Kubeconfig.load files' reader path ∧
          ∀ given, Kubeconfig.parse files reader given path =
            Kubeconfig.parse files' reader given path) ∧
      ∀ (w w' : World) (explicit : List (String × Value)), w.IsRewritten text w' →
        (explicit.map Prod.fst).Nodup →
          ((resolve w reader explicit).outcome = (resolve w' reader explicit).outcome ↔
            ¬(w.MarksToken text w' explicit ∧
              ∃ c, (resolve w reader explicit).outcome = .ok c)) := by
  constructor
  · intro files files' path h
    exact ⟨Kubeconfig.load_rewritten hplain h reader, Kubeconfig.parse_rewritten hplain h reader⟩
  · intro w w' explicit h hmap
    constructor
    · rintro hsame ⟨hmarks, c, hc⟩
      exact outcome_ne_of_marksToken h hplain hmap hmarks hc (hsame.symm.trans hc)
    · intro hnot
      by_cases hmarks : w.MarksToken text w' explicit
      · cases houtcome : (resolve w reader explicit).outcome with
        | ok c => exact absurd ⟨hmarks, c, houtcome⟩ hnot
        | error failure => exact (outcome_error_rewritten h hplain houtcome).symm
      · exact outcome_of_not_marksToken h hplain hmap hmarks reader

/-- A world whose only file is named as the kubeconfig file and holds a text of two lines. -/
def worldWriting (path : String) (marked : Bool) (lineEnd : Text.LineEnd) : World where
  settings := { properties := [(Settings.kubeconfig, .text path)], environ := [] }
  files := fun p =>
    if p = .ofText path then .file (Text.encoded marked lineEnd "a: 1\nb: 2") else .missing
  home := "home"
  mount := ⟨"sa/token", "sa/ca.crt"⟩

/-- Nothing differs in such worlds but the way in which the text is written. -/
theorem isRewritten_worldWriting (path : String) (marked marked' : Bool)
    (lineEnd lineEnd' : Text.LineEnd) :
    (worldWriting path marked lineEnd).IsRewritten "a: 1\nb: 2"
      (worldWriting path marked' lineEnd') := by
  refine ⟨rfl, rfl, rfl, ?_⟩
  intro p
  by_cases hp : p = .ofText path
  · exact .written ⟨lineEnd, if_pos hp⟩ ⟨lineEnd', if_pos hp⟩
  · exact .same ((if_neg hp).trans (if_neg hp).symm)

/-- A kubeconfig file with a mark and lines that end in two characters says the same as one without
a mark whose lines end in carriage returns. -/
theorem rewritten_alike_sample :
    Kubeconfig.load (worldWriting "config" true .both).files .fresh (.ofText "config") =
        Kubeconfig.load (worldWriting "config" false .carriageReturn).files .fresh
          (.ofText "config") ∧
      (resolve (worldWriting "config" true .both) .fresh []).outcome =
        (resolve (worldWriting "config" false .carriageReturn) .fresh []).outcome := by
  have hrewritten := isRewritten_worldWriting "config" true false .both .carriageReturn
  obtain ⟨hreading, hresolution⟩ :=
    rewritten_alike "a: 1\nb: 2" ⟨by decide, by decide⟩ .fresh
  refine ⟨(hreading _ _ _ (hrewritten.files _)).1, ?_⟩
  apply (hresolution _ _ [] hrewritten List.nodup_nil).mpr
  rintro ⟨⟨-, -, marked, ⟨lineEnd, hfound⟩, -⟩, -⟩
  have hmissing : ∀ {p : Path}, p ≠ .ofText "config" →
      (worldWriting "config" true .both).files p = .missing :=
    fun hp => if_neg hp
  cases (hmissing (by decide)).symm.trans hfound

/-- A file that is the kubeconfig file and holds the token of the service account makes another
configuration if it is written again with a mark. -/
theorem mark_kept_in_token :
    kubeconfigPath (worldWriting "sa/token" false .lineFeed).settings "home" =
        .ok (.ofText "sa/token") ∧
      (worldWriting "sa/token" false .lineFeed).IsRewritten "a: 1\nb: 2"
        (worldWriting "sa/token" true .lineFeed) ∧
      ∃ c c', (resolve (worldWriting "sa/token" false .lineFeed) .fresh []).outcome = .ok c ∧
        (resolve (worldWriting "sa/token" true .lineFeed) .fresh []).outcome = .ok c' ∧
        (c.values .oauthToken).text? = some "a: 1\nb: 2" ∧
        (c'.values .oauthToken).text? = some "\uFEFFa: 1\nb: 2" := by
  obtain ⟨c, hc, htoken⟩ := exists_ok_of_any
    (x := (resolve (worldWriting "sa/token" false .lineFeed) .fresh []).outcome)
    (p := fun c => (c.values .oauthToken).text? = some "a: 1\nb: 2") (by decide +kernel)
  obtain ⟨c', hc', htoken'⟩ := exists_ok_of_any
    (x := (resolve (worldWriting "sa/token" true .lineFeed) .fresh []).outcome)
    (p := fun c => (c.values .oauthToken).text? = some "\uFEFFa: 1\nb: 2") (by decide +kernel)
  exact ⟨kubeconfigPath_of_get rfl (by decide) rfl, isRewritten_worldWriting _ _ _ _ _, c, c', hc,
    hc', of_decide_eq_true htoken, of_decide_eq_true htoken'⟩

end Resolve

end ClusterConfig
