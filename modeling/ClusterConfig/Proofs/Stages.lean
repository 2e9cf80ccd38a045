import ClusterConfig.Proofs.Asking

/-!
# The stages of resolution

Resolution fills one draft in four stages: the settings, the service account, the kubeconfig file,
the defaults. A stage leaves filled fields alone and gives the open ones what its source has for
them; two of the stages also leave diagnostics behind.

Main results:

- Theorems `outcome_resolve`, `notes_resolve`: resolution is its stages one after the other, each of
  which can fail.
- Theorems `resolve_eq_ok_iff`, `resolve_eq_error_iff`: what a resolution comes to, stage by stage.
- Theorems `mounted_eq`, `consulted_eq`, `finish_eq`: what a stage makes of a draft.
- Theorems `values_before_kubeconfig`, `values_consulted`, `values_finish`: the fields after a
  stage.
- Theorems `messages_mounted`, `messages_consulted`: the diagnostics after a stage.
-/

namespace ClusterConfig.Resolve

/-! ## Resolution as stages -/

/-- The draft after the service account was asked, if it is asked at all. -/
def mounted (w : World) (d : Draft) : Except Failure Draft :=
  (unlessOff w.settings Settings.tryServiceAccount d (mergeServiceAccount w)).value

/-- The draft after the kubeconfig file was asked, if it is asked at all. -/
def consulted (w : World) (reader : Yaml.Reader) (d : Draft) : Except Failure Draft :=
  if w.wants Settings.tryKubeconfig then (mergeKubeconfig w reader d).1.value else .ok d

/-- The notes that are made when the kubeconfig file is asked, if it is asked at all. -/
def consultedNotes (w : World) (reader : Yaml.Reader) (d : Draft) : List Note :=
  if w.wants Settings.tryKubeconfig then (mergeKubeconfig w reader d).1.notes else []

/-- A source is asked just where it is wanted. -/
theorem unlessOff_eq (w : World) (name : String) (d : Draft)
    (source : Draft → Noted (Except Failure Draft)) :
    unlessOff w.settings name d source =
      if w.wants name then ⟨(w.settings.flag name).notes ++ (source d).notes, (source d).value⟩
      else ⟨(w.settings.flag name).notes, .ok d⟩ :=
  rfl

/-- Resolution is its stages one after the other, each of which can fail. -/
theorem outcome_resolve (w : World) (reader : Yaml.Reader) (explicit : List (String × Value)) :
    (resolve w reader explicit).outcome =
      (accept explicit).bind fun d =>
        (mounted w (seed w.settings d).value).bind fun d => (consulted w reader d).bind finish := by
  unfold resolve
  cases accept explicit with
  | error failure => rfl
  | ok d =>
    simp only [Except.bind, resolveSeeded, mounted]
    cases (unlessOff w.settings Settings.tryServiceAccount (seed w.settings d).value
        (mergeServiceAccount w)).value with
    | error failure => rfl
    | ok d =>
      dsimp only [consulted]
      rw [World.getD_flag]
      cases w.wants Settings.tryKubeconfig <;> rfl

/-- A resolution that gets as far as the kubeconfig file has the notes of its stages, one after the
other. -/
theorem notes_resolve {w : World} {reader : Yaml.Reader} {explicit : List (String × Value)}
    {d₀ d₁ : Draft} (h₀ : accept explicit = .ok d₀)
    (h₁ : mounted w (seed w.settings d₀).value = .ok d₁) :
    (resolve w reader explicit).notes =
      (seed w.settings d₀).notes ++
        (unlessOff w.settings Settings.tryServiceAccount (seed w.settings d₀).value
          (mergeServiceAccount w)).notes ++
        (w.settings.flag Settings.tryKubeconfig).notes ++ consultedNotes w reader d₁ := by
  unfold mounted at h₁
  unfold resolve
  rw [h₀]
  dsimp only [resolveSeeded]
  rw [h₁, consultedNotes]
  dsimp only
  rw [World.getD_flag]
  cases w.wants Settings.tryKubeconfig with
  | true => rfl
  | false => exact (List.append_nil _).symm

/-- A step after another gives something just where both do. -/
theorem bind_eq_ok_iff {ε α β : Type} {x : Except ε α} {f : α → Except ε β} {b : β} :
    x.bind f = .ok b ↔ ∃ a, x = .ok a ∧ f a = .ok b := by
  cases x <;> simp [Except.bind]

/-- A step after another fails just where the first does, or where the second does after it. -/
theorem bind_eq_error_iff {ε α β : Type} {x : Except ε α} {f : α → Except ε β} {e : ε} :
    x.bind f = .error e ↔ x = .error e ∨ ∃ a, x = .ok a ∧ f a = .error e := by
  cases x <;> simp [Except.bind]

/-- A result that is worked on gives something just where it is there. -/
theorem map_eq_ok_iff {ε α β : Type} {x : Except ε α} {f : α → β} {b : β} :
    x.map f = .ok b ↔ ∃ a, x = .ok a ∧ f a = b := by
  cases x <;> simp [Except.map]

/-- It fails just where it fails before. -/
theorem map_eq_error_iff {ε α β : Type} {x : Except ε α} {f : α → β} {e : ε} :
    x.map f = .error e ↔ x = .error e := by
  cases x <;> simp [Except.map]

/-- What has a result is that result. -/
theorem exists_ok_of_isSome {ε α : Type} {x : Except ε α} (h : x.toOption.isSome = true) :
    ∃ a, x = .ok a := by
  cases x with
  | error e => cases h
  | ok a => exact ⟨a, rfl⟩

/-- A result that passes a test is there, and has what is tested. -/
theorem exists_ok_of_any {ε α : Type} {x : Except ε α} {p : α → Bool}
    (h : x.toOption.any p = true) : ∃ a, x = .ok a ∧ p a = true := by
  cases x with
  | error e => cases h
  | ok a => exact ⟨a, rfl, h⟩

/-- A certain failure shows in another wording if no other failure has that wording. -/
theorem mapError_eq_error_iff {ε η α : Type} {stop : ε} {wording : ε → η} {x : Except ε α}
    (hinjective : ∀ e, wording e = wording stop → e = stop) :
    x.mapError wording = .error (wording stop) ↔ x = .error stop := by
  cases x with
  | ok a => exact iff_of_false nofun nofun
  | error e =>
    refine Iff.trans (b := wording e = wording stop) ?_ ?_
    · exact ⟨Except.error.inj, congrArg Except.error⟩
    · rw [Except.error.injEq]
      exact ⟨hinjective e, congrArg wording⟩

/-- A resolution gives a configuration just where every stage gives its part. -/
theorem resolve_eq_ok_iff {w : World} {reader : Yaml.Reader} {explicit : List (String × Value)}
    {c : Config} :
    (resolve w reader explicit).outcome = .ok c ↔
      ∃ d₀ d₁ d₂, accept explicit = .ok d₀ ∧ mounted w (seed w.settings d₀).value = .ok d₁ ∧
        consulted w reader d₁ = .ok d₂ ∧ finish d₂ = .ok c := by
  rw [outcome_resolve]
  simp only [bind_eq_ok_iff]
  constructor
  · rintro ⟨d₀, h₀, d₁, h₁, d₂, h₂, h⟩
    exact ⟨d₀, d₁, d₂, h₀, h₁, h₂, h⟩
  · rintro ⟨d₀, d₁, d₂, h₀, h₁, h₂, h⟩
    exact ⟨d₀, h₀, d₁, h₁, d₂, h₂, h⟩

/-- A resolution fails just where one of the stages does, after those before it gave their part. -/
theorem resolve_eq_error_iff {w : World} {reader : Yaml.Reader} {explicit : List (String × Value)}
    {failure : Failure} :
    (resolve w reader explicit).outcome = .error failure ↔
      accept explicit = .error failure ∨ ∃ d₀, accept explicit = .ok d₀ ∧
        (mounted w (seed w.settings d₀).value = .error failure ∨
          ∃ d₁, mounted w (seed w.settings d₀).value = .ok d₁ ∧
            (consulted w reader d₁ = .error failure ∨
              ∃ d₂, consulted w reader d₁ = .ok d₂ ∧ finish d₂ = .error failure)) := by
  rw [outcome_resolve]
  simp only [bind_eq_error_iff]

/-! ## The caller and the settings -/

/-- A caller's values are turned down for their names alone. -/
theorem eq_of_accept_error {explicit : List (String × Value)} {failure : Failure}
    (h : accept explicit = .error failure) :
    failure = .resolverName ∨ ∃ names, failure = .unknownFields names := by
  unfold accept at h
  split at h
  · exact .inl (Except.error.inj h).symm
  · cases hexplicit : Draft.ofExplicit explicit with
    | ok d =>
      rw [hexplicit] at h
      cases h
    | error names =>
      rw [hexplicit] at h
      exact .inr ⟨names, (Except.error.inj h).symm⟩

/-- A caller's values that are accepted fill an empty draft. -/
theorem eq_of_accept {explicit : List (String × Value)} {d : Draft} (h : accept explicit = .ok d) :
    d = (Draft.empty.fill (Draft.knownValues explicit)).1 := by
  unfold accept at h
  split at h
  · cases h
  · unfold Draft.ofExplicit at h
    dsimp only at h
    split at h
    · exact (Except.ok.inj h).symm
    · cases h

/-- Accepted values are the fields of the draft that they make. -/
theorem values_accept {explicit : List (String × Value)} {d : Draft} (h : accept explicit = .ok d)
    (hmap : (explicit.map Prod.fst).Nodup) (f : Field) : d.values f = Draft.given explicit f := by
  rw [eq_of_accept h, Draft.values_fill, Draft.values_empty, Value.null_orElse,
    Draft.offered_knownValues hmap]

/-- A draft that was just made has no diagnostics. -/
theorem messages_accept {explicit : List (String × Value)} {d : Draft}
    (h : accept explicit = .ok d) : d.messages = [] := by
  rw [eq_of_accept h, Draft.messages_fill]
  rfl

/-- The settings give every open field what they have for it. -/
theorem values_seed (s : Settings) (d : Draft) (f : Field) :
    (seed s d).value.values f = (d.values f).orElse (s.field f).value := by
  have hoffered : Draft.offered f (seeds s seedOrder).value = (s.field f).value :=
    Draft.offered_map (fun g => (s.field g).value) (mem_seedOrder f) nodup_seedOrder
  rw [← hoffered]
  exact Draft.values_fill d (seeds s seedOrder).value f

/-- The settings leave no diagnostics. -/
@[simp]
theorem messages_seed (s : Settings) (d : Draft) : (seed s d).value.messages = d.messages :=
  Draft.messages_fill d (seeds s seedOrder).value

/-! ## The service account -/

/-- A draft takes the certificate authority of a service account as an offer among others. -/
theorem adoptCa_eq_fill (account : ServiceAccount) (d : Draft) :
    adoptCa account d =
      (d.fill [(.caCertFile, account.offer (d.values .clientCertFile) .caCertFile)]).1 := by
  have hnull : (d.fill [(.caCertFile, .null)]).1 = d := by
    rw [Draft.fill_cons_of_skip (.inl rfl), Draft.fill_nil]
  unfold adoptCa ServiceAccount.offer
  cases account.caCertFile with
  | none => simp [Value.ofText?, hnull]
  | some path =>
    by_cases hpath : path = ""
    · simp [hpath, hnull]
    · by_cases hset : d.values .clientCertFile = .null
      · simp [hpath, hset, Value.ofText?]
      · simp [hpath, hset, hnull]

/-- A service account gives every open field what it has for it. -/
theorem values_adoptAccount (account : ServiceAccount) (d : Draft) (f : Field) :
    (adoptAccount account d).value.values f =
      (d.values f).orElse (account.offer (d.values .clientCertFile) f) := by
  have hvalues : (adoptAccount account d).value.values =
      ((adoptCa account d).fill [(.oauthToken, Value.ofText? account.token)]).1.values := by
    unfold adoptAccount
    dsimp only
    split
    · rfl
    · exact Draft.values_explain _ _
  rw [hvalues, Draft.values_fill, adoptCa_eq_fill, Draft.values_fill, Value.orElse_assoc]
  congr 1
  cases f <;> simp [Draft.offered, ServiceAccount.offer]

/-- A draft without diagnostics gets all of those for a credential. -/
theorem messages_explain_of_nil {d : Draft} (h : d.messages = []) (hint : Hint) :
    (d.explain hint).messages = hint.messages := by
  simp [Draft.explain, Hint.messages, Draft.addMessage, h]

/-- A draft with the diagnostics for one credential gets none for another. -/
theorem messages_explain_of_explained {d : Draft} {first : Hint} (h : d.messages = first.messages)
    (hint : Hint) : (d.explain hint).messages = first.messages := by
  simp [Draft.explain, Hint.messages, Draft.addMessage, h]

/-- The token of a service account is taken just where there is one and the field is open. -/
theorem filled_token_isEmpty_iff (account : ServiceAccount) (d : Draft) :
    ((adoptCa account d).fill [(.oauthToken, Value.ofText? account.token)]).2.isEmpty = true ↔
      ¬(d.values .oauthToken = .null ∧ account.token ≠ none) := by
  have hca : (adoptCa account d).values .oauthToken = d.values .oauthToken := by
    rw [adoptCa_eq_fill, Draft.values_fill, Draft.offered_cons_of_ne (by decide),
      Draft.offered_nil, Value.orElse_null]
  rw [Draft.filled_singleton_isEmpty_iff, hca, ne_eq, Value.ofText?_eq_null_iff]

/-- A service account leaves diagnostics just where its token is taken. -/
theorem messages_adoptAccount {account : ServiceAccount} {d : Draft} (h : d.messages = []) :
    (adoptAccount account d).value.messages =
      if d.values .oauthToken = .null ∧ account.token ≠ none then Hint.serviceAccount.messages
      else [] := by
  have hmessages : ((adoptCa account d).fill
      [(.oauthToken, Value.ofText? account.token)]).1.messages = [] := by
    rw [Draft.messages_fill, adoptCa_eq_fill, Draft.messages_fill, h]
  have htaken := filled_token_isEmpty_iff account d
  unfold adoptAccount
  dsimp only
  split
  · rename_i hempty
    rw [if_neg (htaken.mp hempty)]
    exact hmessages
  · rename_i hfilled
    rw [if_pos (Classical.not_not.mp (mt htaken.mpr hfilled))]
    exact messages_explain_of_nil hmessages .serviceAccount

/-- An account without parts gives nothing. -/
theorem value_adoptAccount_none (d : Draft) : (adoptAccount ⟨none, none⟩ d).value = d := by
  have hfill : d.fill [(.oauthToken, Value.null)] = (d, []) := by
    rw [Draft.fill_cons_of_skip (.inl rfl), Draft.fill_nil]
  simp [adoptAccount, adoptCa, Value.ofText?, hfill]

/-- The token of a service account is none where it cannot be read; only a path that no file can
have is a fault. -/
theorem value_readToken (files : Files) (path : String) :
    (ServiceAccount.readToken files path).value =
      if (Path.ofText path).hasBadName then .error .badName
      else .ok (match files.readText (.ofText path) with
        | .ok text => ServiceAccount.usable? text
        | .error _ => none) := by
  have hname : files.readText (.ofText path) = .error .badName ↔
      (Path.ofText path).hasBadName = true := Files.readWith_eq_badName_iff
  unfold ServiceAccount.readToken
  cases hread : files.readText (.ofText path) with
  | ok text =>
    have hgood : (Path.ofText path).hasBadName = false := by
      simpa [hread] using hname
    simp [hgood]
  | error fault =>
    by_cases hfault : fault = .badName
    · subst hfault
      simp [hname.mp hread]
    · have hgood : (Path.ofText path).hasBadName = false := by
        simpa [hread, hfault] using hname
      cases fault <;> simp_all

/-- A service account that is asked is adopted with whatever parts it has. -/
theorem value_mergeServiceAccount (w : World) (d : Draft) :
    (mergeServiceAccount w d).value =
      match (ServiceAccount.readToken w.files w.mount.tokenPath).value with
      | .error _ => .error .badMount
      | .ok token =>
        .ok (adoptAccount ⟨token, ServiceAccount.caFile? w.files w.mount.caPath⟩ d).value := by
  unfold mergeServiceAccount ServiceAccount.read
  simp only [Noted.value_map]
  cases (ServiceAccount.readToken w.files w.mount.tokenPath).value with
  | error fault => rfl
  | ok token =>
    dsimp only [Except.map]
    cases hparts : ServiceAccount.ofParts? token
        (ServiceAccount.caFile? w.files w.mount.caPath) with
    | none =>
      obtain ⟨rfl, hca⟩ := ServiceAccount.ofParts?_eq_none_iff.mp hparts
      rw [hca, value_adoptAccount_none]
    | some account => rw [ServiceAccount.eq_of_ofParts? hparts]

/-- A service account that is asked makes notes on its token, and then those of its adoption, or the
one that there is no service account. -/
theorem notes_mergeServiceAccount (w : World) (d : Draft) :
    (mergeServiceAccount w d).notes =
      (ServiceAccount.readToken w.files w.mount.tokenPath).notes ++
        match (ServiceAccount.readToken w.files w.mount.tokenPath).value with
        | .error _ => []
        | .ok token =>
          if token = none ∧ ServiceAccount.caFile? w.files w.mount.caPath = none then
            [.noServiceAccount]
          else (adoptAccount ⟨token, ServiceAccount.caFile? w.files w.mount.caPath⟩ d).notes := by
  unfold mergeServiceAccount ServiceAccount.read
  simp only [Noted.value_map, Noted.notes_map]
  cases (ServiceAccount.readToken w.files w.mount.tokenPath).value with
  | error fault => exact (List.append_nil _).symm
  | ok token =>
    dsimp only [Except.map]
    cases hparts : ServiceAccount.ofParts? token
        (ServiceAccount.caFile? w.files w.mount.caPath) with
    | none => rw [if_pos (ServiceAccount.ofParts?_eq_none_iff.mp hparts)]
    | some account =>
      have hsome : ¬(token = none ∧ ServiceAccount.caFile? w.files w.mount.caPath = none) := by
        rw [← ServiceAccount.ofParts?_eq_none_iff, hparts]
        exact nofun
      rw [if_neg hsome, ServiceAccount.eq_of_ofParts? hparts]

/-- The service account that is found is adopted; the stage fails only where no file can have the
path of the token. -/
theorem mounted_eq (w : World) (d : Draft) :
    mounted w d =
      if w.wants Settings.tryServiceAccount = true ∧
          (Path.ofText w.mount.tokenPath).hasBadName = true then .error .badMount
      else .ok (adoptAccount w.account d).value := by
  unfold mounted World.account
  rw [unlessOff_eq]
  cases w.wants Settings.tryServiceAccount with
  | false => simp [value_adoptAccount_none]
  | true =>
    simp only [if_true, true_and]
    rw [value_mergeServiceAccount, value_readToken]
    cases (Path.ofText w.mount.tokenPath).hasBadName <;> rfl

theorem eq_of_mounted_error {w : World} {d : Draft} {failure : Failure}
    (h : mounted w d = .error failure) : failure = .badMount := by
  rw [mounted_eq] at h
  split at h <;> cases h
  rfl

/-- After the service account was asked, an open field has what the account has for it. -/
theorem values_mounted {w : World} {d d' : Draft} (h : mounted w d = .ok d') (f : Field) :
    d'.values f = (d.values f).orElse (w.account.offer (d.values .clientCertFile) f) := by
  rw [mounted_eq] at h
  split at h
  · cases h
  · rw [← Except.ok.inj h]
    exact values_adoptAccount w.account d f

/-- After the service account was asked, a draft has diagnostics just where it has the token of the
account. -/
theorem messages_mounted {w : World} {d d' : Draft} (h : mounted w d = .ok d')
    (hnone : d.messages = []) :
    d'.messages =
      if d.values .oauthToken = .null ∧ w.account.token ≠ none then Hint.serviceAccount.messages
      else [] := by
  rw [mounted_eq] at h
  split at h
  · cases h
  · rw [← Except.ok.inj h]
    exact messages_adoptAccount hnone

/-- Before the kubeconfig file is asked, a field has what the caller, the settings and the service
account have for it. -/
theorem values_before_kubeconfig {w : World} {explicit : List (String × Value)} {d₀ d₁ : Draft}
    (hmap : (explicit.map Prod.fst).Nodup) (h₀ : accept explicit = .ok d₀)
    (h₁ : mounted w (seed w.settings d₀).value = .ok d₁) (reader : Yaml.Reader) (f : Field) :
    d₁.values f = ((Draft.given explicit f).orElse (w.settings.field f).value).orElse
      (w.offer reader explicit f .serviceAccount) := by
  have hseeded : ∀ g, (seed w.settings d₀).value.values g =
      (Draft.given explicit g).orElse (w.settings.field g).value := by
    intro g
    rw [values_seed, values_accept h₀ hmap]
  rw [values_mounted h₁, hseeded, hseeded]
  rfl

/-! ## The kubeconfig file -/

/-- The candidates of a cluster are what it has for each field. -/
theorem offered_clusterValues (s : Snapshot) (c : Cluster) (f : Field) :
    Draft.offered f (clusterValues s c) = c.offer s f := by
  cases f
  case trustCerts =>
    rcases hflag : c.insecureSkipTlsVerify with _ | _ | _ <;>
      simp [Draft.offered, clusterValues, Cluster.offer, hflag]
  all_goals simp [Draft.offered, clusterValues, Cluster.offer]

/-- The candidates of a user are what it has for each field. -/
theorem offered_userValues (u : User) (f : Field) :
    Draft.offered f (userValues u) = u.offer f := by
  cases f <;> simp [Draft.offered, userValues, User.offer]

/-- A user gives every open field what it has for it. -/
theorem values_adoptUser (user : Option User) (d : Draft) (f : Field) :
    (adoptUser user d).1.values f = (d.values f).orElse (User.offerOf user f) := by
  cases user with
  | none => simp [adoptUser, User.offerOf]
  | some u =>
    have hvalues : (adoptUser (some u) d).1.values = (d.fill (userValues u)).1.values := by
      unfold adoptUser
      dsimp only
      split
      · rfl
      · exact Draft.values_explain _ _
    rw [hvalues, Draft.values_fill, offered_userValues, User.offerOf]

/-- A user leaves diagnostics, in a draft without any, just where it gives something to a field. -/
theorem messages_adoptUser (user : Option User) {d : Draft} (h : d.messages = []) :
    ((adoptUser user d).1.messages = Hint.kubeconfig.messages ∧
        ∃ f, d.values f = .null ∧ User.offerOf user f ≠ .null) ∨
      ((adoptUser user d).1.messages = [] ∧
        ∀ f, d.values f = .null → User.offerOf user f = .null) := by
  cases user with
  | none => exact .inr ⟨h, fun f _ => rfl⟩
  | some u =>
    have hmessages : (d.fill (userValues u)).1.messages = [] := by
      rw [Draft.messages_fill, h]
    have hempty := Draft.filled_isEmpty_iff d (userValues u)
    simp only [offered_userValues] at hempty
    unfold adoptUser
    dsimp only
    split
    · rename_i hnone
      exact .inr ⟨hmessages, hempty.mp hnone⟩
    · rename_i hsome
      refine .inl ⟨messages_explain_of_nil hmessages .kubeconfig, ?_⟩
      have hnot := mt hempty.mpr hsome
      simpa [User.offerOf] using hnot

/-- A user leaves diagnostics that are there already alone. -/
theorem messages_adoptUser_of_explained {user : Option User} {d : Draft} {first : Hint}
    (h : d.messages = first.messages) : (adoptUser user d).1.messages = first.messages := by
  cases user with
  | none => exact h
  | some u =>
    have hmessages : (d.fill (userValues u)).1.messages = first.messages := by
      rw [Draft.messages_fill, h]
    unfold adoptUser
    dsimp only
    split
    · exact hmessages
    · exact messages_explain_of_explained hmessages .kubeconfig

/-- A snapshot gives every open field what its cluster has for it, or else what its user has. -/
theorem values_adoptSnapshot (path : String) (s : Snapshot) (d : Draft) (f : Field) :
    (adoptSnapshot path s d).value.values f =
      (d.values f).orElse ((s.clusterOffer f).orElse (s.userOffer f)) := by
  unfold adoptSnapshot Snapshot.clusterOffer Snapshot.userOffer
  cases s.cluster with
  | none => simp
  | some c =>
    simp [values_adoptUser, Draft.values_fill, offered_clusterValues, Value.orElse_assoc]

/-- A snapshot leaves diagnostics, in a draft without any, just where its user gives something to a
field that its cluster leaves open. -/
theorem messages_adoptSnapshot {path : String} {s : Snapshot} {d : Draft} (h : d.messages = []) :
    ((adoptSnapshot path s d).value.messages = Hint.kubeconfig.messages ∧
        ∃ f, (d.values f).orElse (s.clusterOffer f) = .null ∧ s.userOffer f ≠ .null) ∨
      ((adoptSnapshot path s d).value.messages = [] ∧
        ∀ f, (d.values f).orElse (s.clusterOffer f) = .null → s.userOffer f = .null) := by
  unfold adoptSnapshot Snapshot.clusterOffer Snapshot.userOffer
  cases s.cluster with
  | none => simp [h]
  | some c =>
    have hmessages : (d.fill (clusterValues s c)).1.messages = [] := by
      rw [Draft.messages_fill, h]
    have huser := messages_adoptUser s.user hmessages
    simpa [Draft.values_fill, offered_clusterValues] using huser

/-- A snapshot leaves diagnostics that are there already alone. -/
theorem messages_adoptSnapshot_of_explained {path : String} {s : Snapshot} {d : Draft}
    {first : Hint} (h : d.messages = first.messages) :
    (adoptSnapshot path s d).value.messages = first.messages := by
  unfold adoptSnapshot
  cases s.cluster with
  | none => exact h
  | some c =>
    have hmessages : (d.fill (clusterValues s c)).1.messages = first.messages := by
      rw [Draft.messages_fill, h]
    exact messages_adoptUser_of_explained hmessages

/-- After the kubeconfig file was asked, a draft has taken what the file supplies. -/
theorem consulted_eq (w : World) (reader : Yaml.Reader) (d : Draft) :
    consulted w reader d = (supply w reader).map (take d) := by
  unfold consulted supply
  split
  · rw [mergeKubeconfig_eq, Finding.value_adopt]
  · rfl

/-- The kubeconfig file fails to be asked for nothing that is in a draft. -/
theorem consulted_eq_error_iff {w : World} {reader : Yaml.Reader} {d : Draft}
    {failure : Failure} :
    consulted w reader d = .error failure ↔ supply w reader = .error failure := by
  rw [consulted_eq, map_eq_error_iff]

theorem exists_consulted_congr {w : World} {reader : Yaml.Reader} {d d' : Draft}
    (h : consulted w reader d = .ok d') (e : Draft) : ∃ e', consulted w reader e = .ok e' := by
  rw [consulted_eq] at h
  obtain ⟨supplied, hsupply, -⟩ := map_eq_ok_iff.mp h
  exact ⟨take e supplied, by rw [consulted_eq, hsupply]; rfl⟩

/-- A draft that was consulted on has adopted the snapshot that the kubeconfig file supplies, if it
supplies one. -/
theorem eq_of_consulted {w : World} {reader : Yaml.Reader} {d d' : Draft}
    (h : consulted w reader d = .ok d') :
    (w.snapshot? reader = none ∧ d' = d) ∨
      ∃ s path, w.snapshot? reader = some s ∧ d' = (adoptSnapshot path s d).value := by
  rw [consulted_eq] at h
  obtain ⟨supplied, hsupply, rfl⟩ := map_eq_ok_iff.mp h
  rw [snapshot?_eq, hsupply]
  cases supplied with
  | none => exact .inl ⟨rfl, rfl⟩
  | some found => exact .inr ⟨found.2, found.1, rfl, rfl⟩

/-- The kubeconfig file gives every open field what its cluster has for it, or else what its user
has. -/
theorem values_consulted {w : World} {reader : Yaml.Reader} {d d' : Draft}
    (h : consulted w reader d = .ok d') (f : Field) :
    d'.values f =
      (d.values f).orElse ((w.clusterOffer reader f).orElse (w.userOffer reader f)) := by
  unfold World.clusterOffer World.userOffer
  rcases eq_of_consulted h with ⟨hnone, rfl⟩ | ⟨s, path, hsome, rfl⟩
  · simp [hnone]
  · rw [hsome]
    exact values_adoptSnapshot path s d f

/-- The kubeconfig file leaves diagnostics, in a draft without any, just where its user gives
something to a field that its cluster leaves open. -/
theorem messages_consulted {w : World} {reader : Yaml.Reader} {d d' : Draft}
    (h : consulted w reader d = .ok d') (hnone : d.messages = []) :
    (d'.messages = Hint.kubeconfig.messages ∧
        ∃ f, (d.values f).orElse (w.clusterOffer reader f) = .null ∧
          w.userOffer reader f ≠ .null) ∨
      (d'.messages = [] ∧
        ∀ f, (d.values f).orElse (w.clusterOffer reader f) = .null →
          w.userOffer reader f = .null) := by
  unfold World.clusterOffer World.userOffer
  rcases eq_of_consulted h with ⟨hmissing, rfl⟩ | ⟨s, path, hsome, rfl⟩
  · simp [hmissing, hnone]
  · rw [hsome]
    exact messages_adoptSnapshot hnone

/-- The kubeconfig file leaves diagnostics that are there already alone. -/
theorem messages_consulted_of_explained {w : World} {reader : Yaml.Reader} {d d' : Draft}
    {first : Hint} (h : consulted w reader d = .ok d') (hfirst : d.messages = first.messages) :
    d'.messages = first.messages := by
  rcases eq_of_consulted h with ⟨-, rfl⟩ | ⟨s, path, -, rfl⟩
  · exact hfirst
  · exact messages_adoptSnapshot_of_explained hfirst

/-! ## The defaults and the shape of a configuration -/

/-- The candidates of the last stage are the defaults; the one on certificates comes later. -/
theorem offered_defaults {f : Field} (h : f ≠ .trustCerts) :
    Draft.offered f defaults = f.default := by
  cases f <;> first | rfl | exact absurd rfl h

/-- The defaults give every open field what they have for it. -/
theorem values_fill_defaults (d : Draft) {f : Field} (h : f ≠ .trustCerts) :
    (d.fill defaults).1.values f = (d.values f).orElse f.default := by
  rw [Draft.values_fill, offered_defaults h]

/-- A value that counts as false has no elements. -/
theorem elements?_getD_of_not_isTrue {v : Value} (h : v.isTrue = false) :
    v.elements?.getD [] = [] := by
  cases v with
  | knot mark v =>
    cases v with
    | knot inner v =>
      by_cases hmark : inner = mark <;>
        simp [Value.elements?, Value.opened, Value.fill, hmark]
    | _ =>
      simp_all [Value.isTrue, Value.elements?, Value.opened, Value.fill, Value.fillItems,
        Value.fillMembers]
  | _ => simp_all [Value.isTrue, Value.elements?, Value.opened]

/-- A shaped draft has the full address of the server, and certificates are not trusted unless some
source says so. -/
theorem shape_eq_ok_iff {d d' : Draft} :
    shape d = .ok d' ↔ ∃ url, d.values .masterUrl = .text url ∧
      d' = ((d.set .masterUrl (.text (Url.appendApiPath url (d.values .apiVersion).asText))).fill
        [(.trustCerts, .bool false)]).1 := by
  unfold shape
  cases d.values .masterUrl <;> simp [Value.text?, eq_comm]

/-- Shaping leaves the other fields alone. -/
theorem values_shape_of_ne {d d' : Draft} (h : shape d = .ok d') {f : Field} (hurl : f ≠ .masterUrl)
    (htrust : f ≠ .trustCerts) : d'.values f = d.values f := by
  obtain ⟨url, -, rfl⟩ := shape_eq_ok_iff.mp h
  rw [Draft.values_fill, Draft.values_set_of_ne _ hurl, Draft.offered_cons_of_ne htrust.symm,
    Draft.offered_nil, Value.orElse_null]

/-- A frozen draft is a configuration with the same fields and diagnostics, the protocols made a
list. -/
theorem eq_of_freeze? {d : Draft} {c : Config} (h : d.freeze? = some c) :
    c.messages = d.messages ∧
      c.values .enabledProtocols =
        .list ((d.values .enabledProtocols).elements?.getD []) ∧
      ∀ f, f ≠ .enabledProtocols → c.values f = d.values f := by
  unfold Draft.freeze? at h
  obtain ⟨protocols, hprotocols, rfl⟩ := Option.map_eq_some_iff.mp h
  refine ⟨rfl, ?_, fun f hf => Draft.values_set_of_ne d hf protocols⟩
  dsimp only
  rw [Draft.values_set_self]
  unfold Draft.protocols? at hprotocols
  dsimp only at hprotocols
  split at hprotocols
  · obtain ⟨items, hitems, rfl⟩ := Option.map_eq_some_iff.mp hprotocols
    rw [hitems, Option.getD_some]
  · rename_i hfalse
    rw [elements?_getD_of_not_isTrue (by simpa using hfalse)]
    exact (Option.some.inj hprotocols).symm

/-- A draft is finished by filling it from the defaults, shaping it and freezing it. -/
theorem finish_eq (d : Draft) :
    finish d = (shape (d.fill defaults).1).bind fun shaped =>
      shaped.freeze?.elim (.error .protocolsNotCollection) .ok := by
  unfold finish
  cases shape (d.fill defaults).1 with
  | error failure => rfl
  | ok shaped =>
    dsimp only [Except.bind]
    cases shaped.freeze? <;> rfl

/-- It is finished just where, after the defaults, it can be shaped and then frozen. -/
theorem finish_eq_ok_iff {d : Draft} {c : Config} :
    finish d = .ok c ↔
      ∃ shaped, shape (d.fill defaults).1 = .ok shaped ∧ shaped.freeze? = some c := by
  rw [finish_eq, bind_eq_ok_iff]
  refine exists_congr fun shaped => and_congr_right fun _ => ?_
  cases shaped.freeze? <;> simp

/-- A finished configuration has what its draft has for each field, or else the default: the address
with the path of the API version after it, the protocols as a list. -/
theorem values_finish {d : Draft} {c : Config} (h : finish d = .ok c) :
    (∃ url, (d.values .masterUrl).orElse Field.masterUrl.default = .text url ∧
        c.values .masterUrl = .text (Url.appendApiPath url (c.values .apiVersion).asText)) ∧
      c.values .enabledProtocols =
        .list (((d.values .enabledProtocols).orElse
          Field.enabledProtocols.default).elements?.getD []) ∧
      ∀ f, f ≠ .masterUrl → f ≠ .enabledProtocols →
        c.values f = (d.values f).orElse f.default := by
  obtain ⟨shaped, hshape, hfreeze⟩ := finish_eq_ok_iff.mp h
  obtain ⟨url, hurl, hshaped⟩ := shape_eq_ok_iff.mp hshape
  obtain ⟨-, hprotocols, hfields⟩ := eq_of_freeze? hfreeze
  have hother := fun f hmaster htrust =>
    (values_shape_of_ne (f := f) hshape hmaster htrust).trans (values_fill_defaults d htrust)
  refine ⟨⟨url, ?_, ?_⟩, ?_, ?_⟩
  · rw [← values_fill_defaults d (by decide), hurl]
  · rw [hfields .masterUrl (by decide), hfields .apiVersion (by decide),
      hother .apiVersion (by decide) (by decide), hshaped, Draft.values_fill,
      Draft.values_set_self, values_fill_defaults d (by decide)]
    rfl
  · rw [hprotocols, hother .enabledProtocols (by decide) (by decide)]
  · intro f hmaster henabled
    rw [hfields f henabled]
    by_cases htrust : f = .trustCerts
    · subst htrust
      rw [hshaped, Draft.values_fill, Draft.values_set_of_ne _ hmaster,
        Draft.offered_cons_self, Draft.offered_nil, Value.orElse_null, Draft.values_fill]
      have hnone : Draft.offered .trustCerts defaults = .null := rfl
      rw [hnone, Value.orElse_null]
      rfl
    · exact hother f hmaster htrust

/-- A draft can be finished if, after the defaults, the address is a text and the protocols are a
list. -/
theorem exists_finish {d : Draft}
    (hurl : ∃ url, (d.values .masterUrl).orElse Field.masterUrl.default = .text url)
    (hlist : ∃ items,
      (d.values .enabledProtocols).orElse Field.enabledProtocols.default = .list items) :
    ∃ c, finish d = .ok c := by
  obtain ⟨url, hurl⟩ := hurl
  obtain ⟨items, hitems⟩ := hlist
  rw [← values_fill_defaults d (by decide)] at hurl hitems
  obtain ⟨shaped, hshape⟩ : ∃ shaped, shape (d.fill defaults).1 = .ok shaped :=
    ⟨_, shape_eq_ok_iff.mpr ⟨url, hurl, rfl⟩⟩
  rw [← values_shape_of_ne hshape (by decide) (by decide)] at hitems
  obtain ⟨c, hc⟩ : ∃ c, shaped.freeze? = some c := by
    unfold Draft.freeze? Draft.protocols?
    rw [hitems]
    dsimp only
    split
    · exact ⟨_, rfl⟩
    · exact ⟨_, rfl⟩
  exact ⟨c, finish_eq_ok_iff.mpr ⟨shaped, hshape, hc⟩⟩

/-- The protocols of a draft are taken from their field alone. -/
theorem protocols?_congr {d d' : Draft}
    (h : d.values .enabledProtocols = d'.values .enabledProtocols) :
    d.protocols? = d'.protocols? := by
  rw [Draft.protocols?, Draft.protocols?, h]

/-- A draft fails to be finished if, after the defaults, its address is no text, or its protocols
are no collection. -/
theorem finish_eq_error_iff {d : Draft} {failure : Failure} :
    finish d = .error failure ↔
      (((d.fill defaults).1.values .masterUrl).text? = none ∧ failure = .addressNotText) ∨
        (((d.fill defaults).1.values .masterUrl).text? ≠ none ∧
          (d.fill defaults).1.protocols? = none ∧ failure = .protocolsNotCollection) := by
  unfold finish
  cases htext : ((d.fill defaults).1.values .masterUrl).text? with
  | none => simp [shape, htext, eq_comm]
  | some url =>
    obtain ⟨shaped, hshape⟩ : ∃ shaped, shape (d.fill defaults).1 = .ok shaped := by
      simp [shape, htext]
    have hprotocols : shaped.protocols? = (d.fill defaults).1.protocols? :=
      protocols?_congr (values_shape_of_ne hshape (by decide) (by decide))
    rw [hshape]
    dsimp only
    rw [Draft.freeze?, hprotocols]
    cases (d.fill defaults).1.protocols? <;> simp [eq_comm]

/-- A finished configuration has the diagnostics of its draft. -/
theorem messages_finish {d : Draft} {c : Config} (h : finish d = .ok c) :
    c.messages = d.messages := by
  obtain ⟨shaped, hshape, hfreeze⟩ := finish_eq_ok_iff.mp h
  obtain ⟨url, -, rfl⟩ := shape_eq_ok_iff.mp hshape
  rw [(eq_of_freeze? hfreeze).1, Draft.messages_fill, Draft.messages_set, Draft.messages_fill]

end ClusterConfig.Resolve
