import ClusterConfig.Proofs.Diagnostics
import ClusterConfig.Proofs.Precedence
import ClusterConfig.Proofs.Reports
import Mathlib.Data.List.Nodup

/-!
# What the notes say about the sources

Resolution reports which fields the settings supplied, that the token of a service account is used,
and which fields a kubeconfig context supplied. These reports are made while a draft is filled, and
they stay true: a field that is named has the value of that source in the end, because what is
filled is never overwritten.

Main definitions:

- `Note.provenance`: the notes that say what a source supplied.
- `Note.seededIn`, `Note.tokenIn`, `Note.suppliedIn`: the fields that notes name for a source.
- `World.TellsSuppliers`: notes that name fields for just the sources that supply them.
- `Config.HasShaped`: the value of a field before addresses and protocols get their shape.

Main results:

- Theorems `provenance_seed`, `provenance_mounted`, `provenance_consulted`: what a stage reports.
- Theorem `tellsSuppliers_resolve`: a field is named for just that source which supplies it.
- Theorem `notes_tell_provenance`: the values of the fields that are named, and of those that are
  not.
-/

namespace ClusterConfig

/-! ## Notes on provenance -/

namespace Note

/-- Whether a note says what a source supplied. -/
def isProvenance : Note → Bool
  | seeded _ | tokenUsed | supplied .. => true
  | _ => false

/-- The notes that say what a source supplied. -/
def provenance (notes : List Note) : List Note :=
  notes.filter isProvenance

/-- The fields that a note says the settings supplied. -/
def seededFields : Note → List Field
  | seeded fields => fields
  | _ => []

/-- The field that a note says the service account supplied. -/
def tokenFields : Note → List Field
  | tokenUsed => [.oauthToken]
  | _ => []

/-- The fields that a note says a kubeconfig context supplied. -/
def suppliedFields : Note → List Field
  | supplied _ fields => fields
  | _ => []

/-- The fields that notes say the settings supplied. -/
def seededIn (notes : List Note) : List Field :=
  notes.flatMap seededFields

/-- The field that notes say the service account supplied. -/
def tokenIn (notes : List Note) : List Field :=
  notes.flatMap tokenFields

/-- The fields that notes say a kubeconfig context supplied. -/
def suppliedIn (notes : List Note) : List Field :=
  notes.flatMap suppliedFields

@[simp]
theorem provenance_append (notes more : List Note) :
    provenance (notes ++ more) = provenance notes ++ provenance more :=
  List.filter_append notes more

/-- Only resolution itself reports what a source supplied. -/
theorem isOfResolution_isProvenance : IsOfResolution isProvenance := by
  intro n h
  cases n <;> first | rfl | cases h

/-- Fields are named by notes on provenance alone. -/
theorem flatMap_provenance {named : Note → List Field}
    (h : ∀ n : Note, n.isProvenance = false → named n = []) (notes : List Note) :
    notes.flatMap named = (provenance notes).flatMap named := by
  induction notes with
  | nil => rfl
  | cons n notes ih =>
    unfold provenance at ih ⊢
    cases hn : n.isProvenance with
    | true => rw [List.filter_cons_of_pos hn, List.flatMap_cons, List.flatMap_cons, ih]
    | false =>
      rw [List.filter_cons_of_neg (by simp [hn]), List.flatMap_cons, h n hn, ih, List.nil_append]

theorem seededIn_eq (notes : List Note) : seededIn notes = seededIn (provenance notes) :=
  flatMap_provenance (fun n h => by cases n <;> first | rfl | cases h) notes

theorem tokenIn_eq (notes : List Note) : tokenIn notes = tokenIn (provenance notes) :=
  flatMap_provenance (fun n h => by cases n <;> first | rfl | cases h) notes

theorem suppliedIn_eq (notes : List Note) : suppliedIn notes = suppliedIn (provenance notes) :=
  flatMap_provenance (fun n h => by cases n <;> first | rfl | cases h) notes

/-- What notes name can be read off those on provenance, if these are at most one note for each of
the three sources. -/
theorem named_of_provenance {notes told : List Note} {seeds fields : List Field}
    {context : Option String} {token : Prop} [Decidable token]
    (htold : told = [.supplied context fields] ∨ (fields = [] ∧ told = []))
    (h : provenance notes = (if seeds.isEmpty then [] else [.seeded seeds]) ++
      (if token then [.tokenUsed] else []) ++ told) :
    seededIn notes = seeds ∧ tokenIn notes = (if token then [.oauthToken] else []) ∧
      suppliedIn notes = fields ∧
      (provenance notes).Sublist [.seeded seeds, .tokenUsed, .supplied context fields] := by
  rw [seededIn_eq, tokenIn_eq, suppliedIn_eq, h]
  unfold seededIn tokenIn suppliedIn
  rcases htold with rfl | ⟨rfl, rfl⟩ <;> by_cases htoken : token <;> cases seeds <;>
    simp [seededFields, tokenFields, suppliedFields, htoken]

end Note

namespace Resolve

/-! ## What the stages report -/

/-- The settings report the fields that they fill, if there are any. -/
theorem provenance_seed (s : Settings) (d : Draft) :
    Note.provenance (seed s d).notes =
      if (d.fill (seeds s seedOrder).value).2.isEmpty then []
      else [.seeded (d.fill (seeds s seedOrder).value).2] := by
  have hseeds : Note.provenance (seeds s seedOrder).notes = [] :=
    Note.filter_eq_nil_of_origin Note.isOfResolution_isProvenance (by decide)
      fun _ => origin_of_mem_seeds
  unfold seed
  dsimp only
  rw [Note.provenance_append, hseeds, List.nil_append]
  split <;> rfl

/-- The fields that the settings fill are the open ones for which they have a value. -/
theorem mem_filled_seeds_iff (s : Settings) (d : Draft) (f : Field) :
    f ∈ (d.fill (seeds s seedOrder).value).2 ↔
      d.values f = .null ∧ (s.field f).value ≠ .null := by
  have hoffered : Draft.offered f (seeds s seedOrder).value = (s.field f).value :=
    Draft.offered_map (fun g => (s.field g).value) (mem_seedOrder f) nodup_seedOrder
  rw [Draft.mem_filled_iff, hoffered]

/-- A flag is asked without a word about provenance. -/
theorem provenance_flag (s : Settings) (name : String) :
    Note.provenance (s.flag name).notes = [] :=
  Note.filter_eq_nil_of_origin Note.isOfResolution_isProvenance (by decide)
    fun _ => Settings.origin_of_mem_flag

/-- An account that is adopted is reported if its token fills the open field. -/
theorem notes_adoptAccount (account : ServiceAccount) (d : Draft) :
    (adoptAccount account d).notes =
      if d.values .oauthToken = .null ∧ account.token ≠ none then [.tokenUsed] else [] := by
  have htaken := filled_token_isEmpty_iff account d
  unfold adoptAccount
  dsimp only
  split
  · rename_i hempty
    rw [if_neg (htaken.mp hempty)]
    rfl
  · rename_i hfilled
    rw [if_pos (Classical.not_not.mp (mt htaken.mpr hfilled))]

/-- A service account that is asked reports what its adoption reports. -/
theorem provenance_mergeServiceAccount {w : World} {d d' : Draft}
    (h : (mergeServiceAccount w d).value = .ok d') :
    ∃ token, (ServiceAccount.readToken w.files w.mount.tokenPath).value = .ok token ∧
      Note.provenance (mergeServiceAccount w d).notes =
        Note.provenance
          (adoptAccount ⟨token, ServiceAccount.caFile? w.files w.mount.caPath⟩ d).notes := by
  have hread :
      Note.provenance (ServiceAccount.readToken w.files w.mount.tokenPath).notes = [] :=
    Note.filter_eq_nil_of_origin Note.isOfResolution_isProvenance (by decide)
      fun _ => ServiceAccount.origin_of_mem_read
  rw [value_mergeServiceAccount] at h
  cases htoken : (ServiceAccount.readToken w.files w.mount.tokenPath).value with
  | error fault =>
    rw [htoken] at h
    cases h
  | ok token =>
    refine ⟨token, rfl, ?_⟩
    rw [notes_mergeServiceAccount, Note.provenance_append, hread, List.nil_append, htoken]
    dsimp only
    split
    · rename_i hnone
      rw [notes_adoptAccount, if_neg (by simp [hnone.1])]
      rfl
    · rfl

/-- Before the kubeconfig file is asked, the token of the account is reported if it fills the open
field. -/
theorem provenance_mounted {w : World} {d d' : Draft} (h : mounted w d = .ok d') :
    Note.provenance
        (unlessOff w.settings Settings.tryServiceAccount d (mergeServiceAccount w)).notes =
      if d.values .oauthToken = .null ∧ w.account.token ≠ none then [.tokenUsed] else [] := by
  unfold mounted at h
  rw [unlessOff_eq] at h ⊢
  cases hwants : w.wants Settings.tryServiceAccount with
  | false =>
    have hnone : w.account.token = none := by
      simp [World.account, hwants]
    rw [if_neg (by simp), if_neg (by simp [hnone])]
    exact provenance_flag w.settings Settings.tryServiceAccount
  | true =>
    rw [hwants, if_pos rfl] at h
    obtain ⟨token, htoken, hnotes⟩ := provenance_mergeServiceAccount h
    have haccount : w.account.token = token := by
      rw [value_readToken] at htoken
      split at htoken
      · cases htoken
      · rw [World.account, if_pos hwants]
        exact Except.ok.inj htoken
    rw [if_pos rfl, Note.provenance_append, provenance_flag, hnotes, notes_adoptAccount,
      List.nil_append, haccount]
    split <;> rfl

/-! ## What the kubeconfig file reports -/

/-- The fields that a snapshot with a cluster fills, those of its cluster first. -/
def adoptedFields (s : Snapshot) (c : Cluster) (d : Draft) : List Field :=
  (d.fill (clusterValues s c)).2 ++ (adoptUser s.user (d.fill (clusterValues s c)).1).2

/-- The fields that a user fills are the open ones for which it has a value. -/
theorem mem_adoptUser_iff (user : Option User) (d : Draft) (f : Field) :
    f ∈ (adoptUser user d).2 ↔ d.values f = .null ∧ User.offerOf user f ≠ .null := by
  cases user with
  | none => simp [adoptUser, User.offerOf]
  | some u =>
    unfold adoptUser User.offerOf
    dsimp only
    rw [Draft.mem_filled_iff, offered_userValues]

theorem nodup_adoptUser (user : Option User) (d : Draft) : (adoptUser user d).2.Nodup := by
  cases user with
  | none => exact List.nodup_nil
  | some u => exact Draft.nodup_filled d (userValues u)

/-- A snapshot with a cluster fills the open fields for which its cluster or its user has a
value. -/
theorem mem_adoptedFields_iff {s : Snapshot} {c : Cluster} (hc : s.cluster = some c) (d : Draft)
    (f : Field) :
    f ∈ adoptedFields s c d ↔
      d.values f = .null ∧ (s.clusterOffer f).orElse (s.userOffer f) ≠ .null := by
  have hcluster : s.clusterOffer f = c.offer s f := by
    rw [Snapshot.clusterOffer, hc]
  have huser : s.userOffer f = User.offerOf s.user f := by
    rw [Snapshot.userOffer, hc]
    rfl
  rw [adoptedFields, List.mem_append, Draft.mem_filled_iff, mem_adoptUser_iff, Draft.values_fill,
    offered_clusterValues, hcluster, huser]
  by_cases hoffer : c.offer s f = .null
  · simp [hoffer]
  · simp [hoffer, Value.orElse_of_ne_null hoffer]

/-- It fills none of them twice. -/
theorem nodup_adoptedFields (s : Snapshot) (c : Cluster) (d : Draft) :
    (adoptedFields s c d).Nodup := by
  refine List.nodup_append.mpr ⟨Draft.nodup_filled d _, nodup_adoptUser s.user _, ?_⟩
  rintro f hcluster g huser rfl
  -- a field that the cluster fills is not open for the user
  rw [Draft.mem_filled_iff] at hcluster
  rw [mem_adoptUser_iff, Draft.values_fill, Value.orElse_eq_null_iff] at huser
  exact hcluster.2 huser.1.2

/-- A kubeconfig file that supplies a snapshot reports what adopting that reports, and any other one
reports nothing about provenance. -/
theorem provenance_consultedNotes (w : World) (reader : Yaml.Reader) (d : Draft) :
    (w.snapshot? reader = none ∧ Note.provenance (consultedNotes w reader d) = []) ∨
      ∃ s path, w.snapshot? reader = some s ∧
        Note.provenance (consultedNotes w reader d) =
          Note.provenance (adoptSnapshot path s d).notes := by
  rw [snapshot?_eq]
  unfold consultedNotes supply
  by_cases hwants : w.wants Settings.tryKubeconfig = true
  · rw [if_pos hwants, if_pos hwants, mergeKubeconfig_eq]
    rcases look_cases w reader with ⟨failure, hlook⟩ | ⟨path, hlook⟩ | ⟨path, hlook⟩
    · rw [hlook]
      exact .inl ⟨rfl, rfl⟩
    · rw [hlook]
      exact .inl ⟨rfl, rfl⟩
    · have hparsed :
          Note.provenance (Kubeconfig.parse w.files reader path.toText path).1.notes = [] :=
        Note.filter_eq_nil_of_origin Note.isOfResolution_isProvenance (by decide)
          fun _ => Kubeconfig.origin_of_mem_parse
      rw [hlook]
      dsimp only [Finding.adopt, Finding.supply]
      rw [Note.provenance_append, hparsed, List.nil_append]
      cases (Kubeconfig.parse w.files reader path.toText path).1.value with
      | ok s => exact .inr ⟨s, path.toText, rfl, rfl⟩
      | error fault =>
        left
        cases fault <;> exact ⟨rfl, rfl⟩
  · rw [if_neg hwants, if_neg hwants]
    exact .inl ⟨rfl, rfl⟩

/-- What is reported about the kubeconfig file: at most one note, which names the open fields for
which the file has a value, each of them once. -/
theorem provenance_consulted (w : World) (reader : Yaml.Reader) (d : Draft) :
    ∃ context fields,
      (Note.provenance (consultedNotes w reader d) = [.supplied context fields] ∨
        (fields = [] ∧ Note.provenance (consultedNotes w reader d) = [])) ∧
      fields.Nodup ∧
      ∀ f, f ∈ fields ↔ d.values f = .null ∧
        (w.clusterOffer reader f).orElse (w.userOffer reader f) ≠ .null := by
  unfold World.clusterOffer World.userOffer
  rcases provenance_consultedNotes w reader d with ⟨hnone, hnotes⟩ | ⟨s, path, hsome, hnotes⟩
  · refine ⟨none, [], .inr ⟨rfl, hnotes⟩, List.nodup_nil, ?_⟩
    simp [hnone]
  · rw [hsome, hnotes]
    cases hc : s.cluster with
    | none =>
      refine ⟨none, [], .inr ⟨rfl, ?_⟩, List.nodup_nil, ?_⟩
      · rw [adoptSnapshot, hc]
        rfl
      · simp [Snapshot.clusterOffer, Snapshot.userOffer, hc]
    | some c =>
      refine ⟨s.contextName, adoptedFields s c d, .inl ?_, nodup_adoptedFields s c d,
        mem_adoptedFields_iff hc d⟩
      rw [adoptSnapshot, hc]
      rfl

end Resolve

/-! ## Suppliers -/

section Suppliers

variable (w : World) (reader : Yaml.Reader) (explicit : List (String × Value))

/-- The caller supplies a field just where it gives a value for it. -/
theorem supplier?_eq_caller_iff (f : Field) :
    w.supplier? reader explicit f = some .caller ↔ Draft.given explicit f ≠ .null := by
  have hearlier : Source.caller.earlier = [] := by
    decide
  rw [World.supplier?_eq_some_iff, hearlier]
  simp [World.offer]

/-- The settings supply a field just where they have a value for it and the caller has none. -/
theorem supplier?_eq_settings_iff (f : Field) :
    w.supplier? reader explicit f = some .settings ↔
      Draft.given explicit f = .null ∧ (w.settings.field f).value ≠ .null := by
  have hearlier : Source.settings.earlier = [.caller] := by
    decide
  rw [World.supplier?_eq_some_iff, hearlier]
  simp [World.offer, and_comm]

/-- The cluster of the kubeconfig file supplies a field just where it has a value for it and neither
the caller, nor the settings, nor the service account have one. -/
theorem supplier?_eq_cluster_iff (f : Field) :
    w.supplier? reader explicit f = some .cluster ↔
      (((Draft.given explicit f).orElse (w.settings.field f).value).orElse
          (w.offer reader explicit f .serviceAccount) = .null) ∧
        w.clusterOffer reader f ≠ .null := by
  have hearlier : Source.cluster.earlier = [.caller, .settings, .serviceAccount] := by
    decide
  rw [World.supplier?_eq_some_iff, hearlier]
  simp [World.offer, and_comm, and_assoc]

/-- The kubeconfig file supplies a field just where it has a value for it and none of the sources
before it has one. -/
theorem supplier?_eq_kubeconfig_iff (f : Field) :
    (w.supplier? reader explicit f = some .cluster ∨ w.supplier? reader explicit f = some .user) ↔
      (((Draft.given explicit f).orElse (w.settings.field f).value).orElse
          (w.offer reader explicit f .serviceAccount) = .null) ∧
        (w.clusterOffer reader f).orElse (w.userOffer reader f) ≠ .null := by
  rw [supplier?_eq_cluster_iff, supplier?_eq_user_iff]
  by_cases hcluster : w.clusterOffer reader f = .null
  · simp [hcluster]
  · simp [hcluster, Value.orElse_of_ne_null hcluster]

end Suppliers

/-- Notes tell the suppliers of fields if there is at most one note about each of the three sources
that are reported on, if each of these names no field twice, and if it names just the fields that
its source supplies. -/
structure World.TellsSuppliers (w : World) (reader : Yaml.Reader)
    (explicit : List (String × Value)) (notes : List Note) : Prop where
  records : ∃ context, (Note.provenance notes).Sublist
    [.seeded (Note.seededIn notes), .tokenUsed, .supplied context (Note.suppliedIn notes)]
  nodup_seeded : (Note.seededIn notes).Nodup
  nodup_supplied : (Note.suppliedIn notes).Nodup
  mem_seeded_iff : ∀ f, f ∈ Note.seededIn notes ↔
    w.supplier? reader explicit f = some .settings
  mem_token_iff : ∀ f, f ∈ Note.tokenIn notes ↔
    f = .oauthToken ∧ w.supplier? reader explicit f = some .serviceAccount
  mem_supplied_iff : ∀ f, f ∈ Note.suppliedIn notes ↔
    w.supplier? reader explicit f = some .cluster ∨ w.supplier? reader explicit f = some .user

/-- The notes of a resolution that makes a configuration tell the suppliers of its fields. -/
theorem tellsSuppliers_resolve {w : World} {reader : Yaml.Reader}
    {explicit : List (String × Value)} {c : Config} (hmap : (explicit.map Prod.fst).Nodup)
    (h : (resolve w reader explicit).outcome = .ok c) :
    w.TellsSuppliers reader explicit (resolve w reader explicit).notes := by
  obtain ⟨d₀, d₁, d₂, h₀, h₁, h₂, -⟩ := Resolve.resolve_eq_ok_iff.mp h
  obtain ⟨context, fields, hconsulted, hnodup, hfields⟩ := Resolve.provenance_consulted w reader d₁
  have htoken : (Resolve.seed w.settings d₀).value.values .oauthToken = .null ∧
        w.account.token ≠ none ↔
      w.supplier? reader explicit .oauthToken = some .serviceAccount := by
    rw [Resolve.values_seed, Resolve.values_accept h₀ hmap, supplier?_eq_serviceAccount_iff]
  have hseeds := Resolve.mem_filled_seeds_iff w.settings d₀
  simp only [Resolve.values_accept h₀ hmap, ← supplier?_eq_settings_iff w reader explicit]
    at hseeds
  simp only [Resolve.values_before_kubeconfig hmap h₀ h₁ reader,
    ← supplier?_eq_kubeconfig_iff w reader explicit] at hfields
  have hnotes : Note.provenance (resolve w reader explicit).notes =
      (if (d₀.fill (Resolve.seeds w.settings Resolve.seedOrder).value).2.isEmpty then []
        else [.seeded (d₀.fill (Resolve.seeds w.settings Resolve.seedOrder).value).2]) ++
      (if w.supplier? reader explicit .oauthToken = some .serviceAccount then [.tokenUsed]
        else []) ++
      Note.provenance (Resolve.consultedNotes w reader d₁) := by
    rw [Resolve.notes_resolve h₀ h₁]
    simp only [Note.provenance_append, Resolve.provenance_seed, Resolve.provenance_mounted h₁,
      Resolve.provenance_flag, htoken, List.append_nil]
  obtain ⟨hseeded, htokens, hsupplied, hrecords⟩ := Note.named_of_provenance hconsulted hnotes
  refine ⟨⟨context, ?_⟩, ?_, ?_, ?_, ?_, ?_⟩
  · rw [hseeded, hsupplied]
    exact hrecords
  · rw [hseeded]
    exact Draft.nodup_filled d₀ _
  · rw [hsupplied]
    exact hnodup
  · rw [hseeded]
    exact hseeds
  · intro f
    rw [htokens]
    by_cases hf : f = .oauthToken
    · subst hf
      by_cases hused : w.supplier? reader explicit .oauthToken = some .serviceAccount <;>
        simp [hused]
    · split <;> simp [hf]
  · rw [hsupplied]
    exact hfields

/-! ## The values of the fields -/

/-- A configuration has for a field what becomes of a value: the address of a server gets the path
of the API version, and the protocols become a list. -/
def Config.HasShaped (c : Config) (f : Field) (v : Value) : Prop :=
  match f with
  | .masterUrl => ∃ url, v = .text url ∧
      c.values .masterUrl = .text (Url.appendApiPath url (c.values .apiVersion).asText)
  | .enabledProtocols => c.values .enabledProtocols = .list (v.elements?.getD [])
  | f => c.values f = v

/-- The fields for which a caller gives values. -/
def callerFields (explicit : List (String × Value)) : List Field :=
  Field.all.filter fun f => !(Draft.given explicit f).isNull

theorem mem_callerFields_iff (explicit : List (String × Value)) (f : Field) :
    f ∈ callerFields explicit ↔ Draft.given explicit f ≠ .null := by
  simp [callerFields, ← Value.isNull_iff]

section Values

variable {w : World} {reader : Yaml.Reader} {explicit : List (String × Value)} {c : Config}

/-- A configuration has for every field what becomes of the value of the first source that has
one. -/
theorem hasShaped_supplied (hmap : (explicit.map Prod.fst).Nodup)
    (h : (resolve w reader explicit).outcome = .ok c) (f : Field) :
    c.HasShaped f (w.supplied reader explicit f) := by
  obtain ⟨d₀, d₁, d₂, h₀, h₁, h₂, hfinish⟩ := Resolve.resolve_eq_ok_iff.mp h
  obtain ⟨⟨url, hurl, hmaster⟩, hprotocols, hfields⟩ := Resolve.values_finish hfinish
  have hsupplied := Resolve.supplied_of_stages hmap h₀ h₁ h₂
  rw [← hsupplied]
  cases f
  case masterUrl => exact ⟨url, hurl, hmaster⟩
  case enabledProtocols => exact hprotocols
  all_goals exact hfields _ (by decide) (by decide)

/-- What a source that supplies a field has for it is what the configuration gets. -/
theorem hasShaped_of_supplier (hmap : (explicit.map Prod.fst).Nodup)
    (h : (resolve w reader explicit).outcome = .ok c) {f : Field} {source : Source}
    (hsource : w.supplier? reader explicit f = some source) :
    c.HasShaped f (w.offer reader explicit f source) := by
  have hsupplied := hasShaped_supplied hmap h f
  rwa [World.supplied, hsource] at hsupplied

/-- Where no source supplies a field it is null. -/
theorem values_of_supplier?_eq_none (hmap : (explicit.map Prod.fst).Nodup)
    (h : (resolve w reader explicit).outcome = .ok c) {f : Field}
    (hnone : w.supplier? reader explicit f = none) : c.values f = .null := by
  have hsupplied := hasShaped_supplied hmap h f
  rw [World.supplied, hnone] at hsupplied
  have hdefault : f.default = .null := by
    have hall : w.offer reader explicit f .defaults = .null := by
      simpa using List.find?_eq_none.mp hnone .defaults (by decide)
    exact hall
  cases f
  case masterUrl => cases hdefault
  case enabledProtocols => cases hdefault
  all_goals exact hsupplied

/-- A service account supplies nothing but a token and the path of a certificate authority. -/
theorem cases_of_serviceAccount {f : Field}
    (h : w.supplier? reader explicit f = some .serviceAccount) :
    f = .oauthToken ∨
      (f = .caCertFile ∧ ∃ path, w.account.caCertFile = some path ∧
        w.offer reader explicit f .serviceAccount = .text path) := by
  obtain ⟨hoffer, -⟩ := (World.supplier?_eq_some_iff w reader explicit f _).mp h
  cases f
  case oauthToken => exact .inl rfl
  case caCertFile =>
    right
    refine ⟨rfl, ?_⟩
    simp only [World.offer, ServiceAccount.offer] at hoffer ⊢
    split at hoffer
    · rename_i hcounts
      rw [if_pos hcounts]
      cases hpath : w.account.caCertFile with
      | none => simp [hpath, Value.ofText?] at hoffer
      | some path => exact ⟨path, rfl, rfl⟩
    · exact absurd rfl hoffer
  all_goals exact absurd rfl hoffer

/-- What the kubeconfig file supplies is what its cluster has, or else its user. -/
theorem hasShaped_of_kubeconfig (hmap : (explicit.map Prod.fst).Nodup)
    (h : (resolve w reader explicit).outcome = .ok c) {f : Field}
    (hsource : w.supplier? reader explicit f = some .cluster ∨
      w.supplier? reader explicit f = some .user) :
    c.HasShaped f ((w.clusterOffer reader f).orElse (w.userOffer reader f)) := by
  rcases hsource with hcluster | huser
  · have hoffer := ((supplier?_eq_cluster_iff w reader explicit f).mp hcluster).2
    rw [Value.orElse_of_ne_null hoffer]
    exact hasShaped_of_supplier hmap h hcluster
  · have hnone : w.clusterOffer reader f = .null :=
      (Value.orElse_eq_null_iff.mp ((supplier?_eq_user_iff w reader explicit f).mp huser).1).2
    rw [hnone, Value.null_orElse]
    exact hasShaped_of_supplier hmap h huser

/-- The token of a service account that supplies it is the one in the configuration. -/
theorem values_of_token (hmap : (explicit.map Prod.fst).Nodup)
    (h : (resolve w reader explicit).outcome = .ok c)
    (hsource : w.supplier? reader explicit .oauthToken = some .serviceAccount) :
    ∃ token, w.account.token = some token ∧ c.values .oauthToken = .text token := by
  obtain ⟨-, htoken⟩ := (supplier?_eq_serviceAccount_iff w reader explicit).mp hsource
  obtain ⟨token, htoken⟩ := Option.ne_none_iff_exists'.mp htoken
  have hvalue : c.values .oauthToken = Value.ofText? w.account.token :=
    hasShaped_of_supplier hmap h hsource
  refine ⟨token, htoken, ?_⟩
  rw [hvalue, htoken]
  rfl

/-- A field that neither the caller, nor the settings, nor the kubeconfig file supply, and that is
not the token of the service account, is null, has its default or is the certificate authority of
the service account. -/
theorem values_of_unreported (hmap : (explicit.map Prod.fst).Nodup)
    (h : (resolve w reader explicit).outcome = .ok c) {f : Field}
    (hcaller : w.supplier? reader explicit f ≠ some .caller)
    (hsettings : w.supplier? reader explicit f ≠ some .settings)
    (htoken : ¬(f = .oauthToken ∧ w.supplier? reader explicit f = some .serviceAccount))
    (hcluster : w.supplier? reader explicit f ≠ some .cluster)
    (huser : w.supplier? reader explicit f ≠ some .user) :
    c.values f = .null ∨ (f.default ≠ .null ∧ c.HasShaped f f.default) ∨
      (f = .caCertFile ∧
        ∃ path, w.account.caCertFile = some path ∧ c.values f = .text path) := by
  cases hsource : w.supplier? reader explicit f with
  | none => exact .inl (values_of_supplier?_eq_none hmap h hsource)
  | some source =>
    right
    cases source with
    | caller => exact absurd hsource hcaller
    | settings => exact absurd hsource hsettings
    | cluster => exact absurd hsource hcluster
    | user => exact absurd hsource huser
    | defaults =>
      left
      exact ⟨((World.supplier?_eq_some_iff w reader explicit f _).mp hsource).1,
        hasShaped_of_supplier hmap h hsource⟩
    | serviceAccount =>
      right
      rcases cases_of_serviceAccount hsource with rfl | ⟨rfl, path, hpath, hoffer⟩
      · exact absurd ⟨rfl, hsource⟩ htoken
      · have hvalue := hasShaped_of_supplier hmap h hsource
        rw [hoffer] at hvalue
        exact ⟨rfl, path, hpath, hvalue⟩

/-- The notes of a resolution tell where the values of its configuration come from. No field is
named for two sources, nor for one and given by the caller; what is named for a source has the value
of that source, but for the shape of addresses and protocols; and what is neither named nor given is
null, has its default, or is the certificate authority of the service account. -/
theorem notes_tell_provenance (hmap : (explicit.map Prod.fst).Nodup)
    (h : (resolve w reader explicit).outcome = .ok c) :
    w.TellsSuppliers reader explicit (resolve w reader explicit).notes ∧
      [callerFields explicit, Note.seededIn (resolve w reader explicit).notes,
          Note.tokenIn (resolve w reader explicit).notes,
          Note.suppliedIn (resolve w reader explicit).notes].Pairwise List.Disjoint ∧
      (∀ f ∈ Note.seededIn (resolve w reader explicit).notes,
        (w.settings.field f).value ≠ .null ∧ c.HasShaped f (w.settings.field f).value) ∧
      (∀ f ∈ Note.tokenIn (resolve w reader explicit).notes, f = .oauthToken ∧
        ∃ token, w.account.token = some token ∧ c.values f = .text token) ∧
      (∀ f ∈ Note.suppliedIn (resolve w reader explicit).notes,
        (w.clusterOffer reader f).orElse (w.userOffer reader f) ≠ .null ∧
          c.HasShaped f ((w.clusterOffer reader f).orElse (w.userOffer reader f))) ∧
      ∀ f, f ∉ callerFields explicit → f ∉ Note.seededIn (resolve w reader explicit).notes →
        f ∉ Note.tokenIn (resolve w reader explicit).notes →
        f ∉ Note.suppliedIn (resolve w reader explicit).notes →
        c.values f = .null ∨ (f.default ≠ .null ∧ c.HasShaped f f.default) ∨
          (f = .caCertFile ∧
            ∃ path, w.account.caCertFile = some path ∧ c.values f = .text path) := by
  have htold := tellsSuppliers_resolve hmap h
  have hcaller : ∀ f, f ∈ callerFields explicit ↔
      w.supplier? reader explicit f = some .caller := by
    intro f
    rw [mem_callerFields_iff, supplier?_eq_caller_iff]
  refine ⟨htold, ?_, ?_, ?_, ?_, ?_⟩
  · -- a field has one supplier only
    simp only [List.pairwise_cons, List.mem_cons, List.not_mem_nil, or_false, forall_eq_or_imp,
      forall_eq, List.Disjoint, hcaller, htold.mem_seeded_iff, htold.mem_token_iff,
      htold.mem_supplied_iff]
    grind
  · intro f hf
    have hsource := (htold.mem_seeded_iff f).mp hf
    exact ⟨((supplier?_eq_settings_iff w reader explicit f).mp hsource).2,
      hasShaped_of_supplier hmap h hsource⟩
  · intro f hf
    obtain ⟨rfl, hsource⟩ := (htold.mem_token_iff f).mp hf
    exact ⟨rfl, values_of_token hmap h hsource⟩
  · intro f hf
    have hsource := (htold.mem_supplied_iff f).mp hf
    exact ⟨((supplier?_eq_kubeconfig_iff w reader explicit f).mp hsource).2,
      hasShaped_of_kubeconfig hmap h hsource⟩
  · intro f hfirst hseeded htoken hsupplied
    rw [hcaller] at hfirst
    rw [htold.mem_seeded_iff] at hseeded
    rw [htold.mem_token_iff] at htoken
    rw [htold.mem_supplied_iff, not_or] at hsupplied
    exact values_of_unreported hmap h hfirst hseeded htoken hsupplied.1 hsupplied.2

end Values

/-- A world in which a setting, a mounted token and a kubeconfig file supply something. -/
def worldOfSources : World where
  settings :=
    { properties := [("kubernetes.namespace", .text "ops"), ("kubeconfig", .text "config")]
      environ := [] }
  files := fun path =>
    if path = .ofText "sa/token" then .file "secret".toUTF8
    else if path = .ofText "config" then
      .file ("current-context: c\ncontexts:\n- name: c\n  context:\n    cluster: k\n" ++
        "clusters:\n- name: k\n  cluster:\n    server: h\n").toUTF8
    else .missing
  home := "home"
  mount := ⟨"sa/token", "sa/ca.crt"⟩

/-- The caller gives a password; a namespace, a token and the address of a server come from the
three other sources, and the notes say so. -/
theorem notes_tell_provenance_sample :
    ∃ c, (resolve worldOfSources .fresh [("password", .text "p")]).outcome = .ok c ∧
      (resolve worldOfSources .fresh [("password", .text "p")]).notes =
        [.seeded [.namespaceName], .tokenUsed, .supplied (some "c") [.masterUrl, .trustCerts]] ∧
      (c.values .namespaceName).text? = some "ops" ∧
      (c.values .oauthToken).text? = some "secret" ∧ c.values .proxy = .null := by
  have hresolved : (resolve worldOfSources .fresh [("password", .text "p")]).notes =
        [.seeded [.namespaceName], .tokenUsed, .supplied (some "c") [.masterUrl, .trustCerts]] ∧
      (resolve worldOfSources .fresh [("password", .text "p")]).outcome.toOption.isSome = true := by
    decide +kernel
  obtain ⟨hnotes, hsome⟩ := hresolved
  obtain ⟨c, hc⟩ := Resolve.exists_ok_of_isSome hsome
  have htells := notes_tell_provenance (by decide) hc
  rw [hnotes] at htells
  obtain ⟨-, -, hseeded, htoken, -, hrest⟩ := htells
  refine ⟨c, hc, hnotes, ?_, ?_, ?_⟩
  · have hnamespace : c.values .namespaceName =
        (worldOfSources.settings.field .namespaceName).value :=
      (hseeded .namespaceName (by decide)).2
    rw [hnamespace]
    decide +kernel
  · obtain ⟨-, token, hmounted, hvalue⟩ := htoken .oauthToken (by decide)
    have hsecret : worldOfSources.account.token = some "secret" := by
      decide +kernel
    rw [hvalue, Option.some.inj (hmounted.symm.trans hsecret)]
    rfl
  · rcases hrest .proxy (by decide) (by decide) (by decide) (by decide) with
      hnull | ⟨hdefault, -⟩ | ⟨hfield, -⟩
    · exact hnull
    · exact absurd rfl hdefault
    · cases hfield

end ClusterConfig
