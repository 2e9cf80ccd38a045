import ClusterConfig.Proofs.Stages

/-!
# Diagnostics and where credentials come from

The diagnostics of a configuration tell a user what to do when a server turns a credential down.
They depend on nothing but which source supplied the credentials: the token of a service account
comes first, then anything that the user of the kubeconfig file supplied.

Main results:

- Theorems `supplier?_eq_serviceAccount_iff`, `supplier?_eq_user_iff`: a source supplies a field
  just where it has a value and those before it have none.
- Theorem `messages_before_kubeconfig`: the diagnostics after the service account was asked.
- Theorem `messages_iff_supplier`: each of the three sets of diagnostics has its own condition.
-/

namespace ClusterConfig

section Suppliers

variable (w : World) (reader : Yaml.Reader) (explicit : List (String × Value))

/-- The service account supplies the token just where it has one that can be used and neither the
caller nor the settings have any. -/
theorem supplier?_eq_serviceAccount_iff :
    w.supplier? reader explicit .oauthToken = some .serviceAccount ↔
      (Draft.given explicit .oauthToken).orElse (w.settings.field .oauthToken).value = .null ∧
        w.account.token ≠ none := by
  have hearlier : Source.serviceAccount.earlier = [.caller, .settings] := by
    decide
  rw [World.supplier?_eq_some_iff, hearlier]
  simp [World.offer, ServiceAccount.offer, and_comm]

/-- The user of the kubeconfig file supplies a field just where it has a value for it and neither
the caller, nor the settings, nor the service account, nor the cluster have one. -/
theorem supplier?_eq_user_iff (f : Field) :
    w.supplier? reader explicit f = some .user ↔
      ((((Draft.given explicit f).orElse (w.settings.field f).value).orElse
          (w.offer reader explicit f .serviceAccount)).orElse (w.clusterOffer reader f) = .null) ∧
        w.userOffer reader f ≠ .null := by
  have hearlier : Source.user.earlier = [.caller, .settings, .serviceAccount, .cluster] := by
    decide
  rw [World.supplier?_eq_some_iff, hearlier]
  simp [World.offer, and_comm, and_assoc]

end Suppliers

namespace Resolve

section Stages

variable {w : World} {explicit : List (String × Value)} {d₀ d₁ d₂ : Draft}

/-- After the service account was asked there are diagnostics just where it supplies the token. -/
theorem messages_before_kubeconfig (hmap : (explicit.map Prod.fst).Nodup)
    (h₀ : accept explicit = .ok d₀) (h₁ : mounted w (seed w.settings d₀).value = .ok d₁)
    (reader : Yaml.Reader) :
    d₁.messages =
      if w.supplier? reader explicit .oauthToken = some .serviceAccount then
        Hint.serviceAccount.messages
      else [] := by
  have hnone : (seed w.settings d₀).value.messages = [] := by
    rw [messages_seed, messages_accept h₀]
  rw [messages_mounted h₁ hnone, values_seed, values_accept h₀ hmap]
  simp only [supplier?_eq_serviceAccount_iff]

/-- Where the service account does not supply the token, there are diagnostics in the end just where
the user of the kubeconfig file supplies some part of the credentials. -/
theorem messages_of_not_serviceAccount {reader : Yaml.Reader}
    (hmap : (explicit.map Prod.fst).Nodup) (h₀ : accept explicit = .ok d₀)
    (h₁ : mounted w (seed w.settings d₀).value = .ok d₁) (h₂ : consulted w reader d₁ = .ok d₂)
    (htoken : w.supplier? reader explicit .oauthToken ≠ some .serviceAccount) :
    (d₂.messages = Hint.kubeconfig.messages ∧
        ∃ f ∈ credentialFields, w.supplier? reader explicit f = some .user) ∨
      (d₂.messages = [] ∧
        ∀ f ∈ credentialFields, w.supplier? reader explicit f ≠ some .user) := by
  have hempty : d₁.messages = [] := by
    rw [messages_before_kubeconfig hmap h₀ h₁ reader, if_neg htoken]
  rcases messages_consulted h₂ hempty with ⟨hhint, f, hopen, huser⟩ | ⟨hnone, hclosed⟩
  · left
    have hfield : f ∈ credentialFields :=
      Decidable.not_imp_comm.mp (w.userOffer_of_not_mem reader) huser
    rw [values_before_kubeconfig hmap h₀ h₁ reader] at hopen
    exact ⟨hhint, f, hfield, (supplier?_eq_user_iff w reader explicit f).mpr ⟨hopen, huser⟩⟩
  · right
    refine ⟨hnone, ?_⟩
    intro f _ hsupplied
    obtain ⟨hopen, huser⟩ := (supplier?_eq_user_iff w reader explicit f).mp hsupplied
    rw [← values_before_kubeconfig hmap h₀ h₁ reader] at hopen
    exact huser (hclosed f hopen)

end Stages

/-- The diagnostics of a configuration are those for a service account where that supplied the
token, those for a kubeconfig file where its user supplied any other part of the credentials or the
token, and none where neither did. -/
theorem messages_iff_supplier {w : World} {reader : Yaml.Reader} {explicit : List (String × Value)}
    {c : Config} (hmap : (explicit.map Prod.fst).Nodup)
    (h : (resolve w reader explicit).outcome = .ok c) :
    (c.messages = Hint.serviceAccount.messages ↔
        w.supplier? reader explicit .oauthToken = some .serviceAccount) ∧
      (c.messages = Hint.kubeconfig.messages ↔
        w.supplier? reader explicit .oauthToken ≠ some .serviceAccount ∧
          ∃ f ∈ credentialFields, w.supplier? reader explicit f = some .user) ∧
      (c.messages = [] ↔
        w.supplier? reader explicit .oauthToken ≠ some .serviceAccount ∧
          ∀ f ∈ credentialFields, w.supplier? reader explicit f ≠ some .user) := by
  obtain ⟨d₀, d₁, d₂, h₀, h₁, h₂, hfinish⟩ := resolve_eq_ok_iff.mp h
  have hdistinct : Hint.serviceAccount.messages ≠ Hint.kubeconfig.messages ∧
      Hint.serviceAccount.messages ≠ [] ∧ Hint.kubeconfig.messages ≠ [] := by
    decide
  rw [messages_finish hfinish]
  by_cases htoken : w.supplier? reader explicit .oauthToken = some .serviceAccount
  · -- nothing that comes later changes the diagnostics for the token of the account
    have hfirst : d₁.messages = Hint.serviceAccount.messages := by
      rw [messages_before_kubeconfig hmap h₀ h₁ reader, if_pos htoken]
    rw [messages_consulted_of_explained h₂ hfirst]
    simp [htoken, hdistinct]
  · rcases messages_of_not_serviceAccount hmap h₀ h₁ h₂ htoken with
      ⟨hhint, hsome⟩ | ⟨hnone, hother⟩
    · obtain ⟨f, hfield, hsupplied⟩ := hsome
      rw [hhint]
      refine ⟨?_, ?_, ?_⟩
      · simp [htoken, hdistinct.1.symm]
      · exact iff_of_true rfl ⟨htoken, f, hfield, hsupplied⟩
      · refine iff_of_false hdistinct.2.2 ?_
        rintro ⟨-, hother⟩
        exact hother f hfield hsupplied
    · rw [hnone]
      refine ⟨?_, ?_, iff_of_true rfl ⟨htoken, hother⟩⟩
      · simp [htoken, hdistinct.2.1.symm]
      · refine iff_of_false hdistinct.2.2.symm ?_
        rintro ⟨-, f, hfield, hsupplied⟩
        exact hother f hfield hsupplied

/-- A world with a mounted account and a kubeconfig file that is no document. -/
def mountedWorld : World where
  settings := { properties := [("kubeconfig", .text "broken")], environ := [] }
  files := fun path =>
    if path = .ofText "sa/token" then .file "secret".toUTF8
    else if path = .ofText "broken" then .file "[".toUTF8
    else .missing
  home := "home"
  mount := ⟨"sa/token", "sa/ca.crt"⟩

/-- The token of the account brings its diagnostics along, unless the caller has another one. -/
theorem messages_iff_supplier_mounted :
    (∃ c, (resolve mountedWorld .fresh []).outcome = .ok c ∧
        c.messages = Hint.serviceAccount.messages) ∧
      ∃ c, (resolve mountedWorld .fresh [("oauth_token", .text "own")]).outcome = .ok c ∧
        c.messages = [] := by
  constructor
  · obtain ⟨c, hc⟩ := exists_ok_of_isSome (x := (resolve mountedWorld .fresh []).outcome)
      (by decide +kernel)
    exact ⟨c, hc, (messages_iff_supplier (by decide) hc).1.mpr (by decide +kernel)⟩
  · obtain ⟨c, hc⟩ := exists_ok_of_isSome
      (x := (resolve mountedWorld .fresh [("oauth_token", .text "own")]).outcome)
      (by decide +kernel)
    exact ⟨c, hc, (messages_iff_supplier (by decide) hc).2.2.mpr (by decide +kernel)⟩

end Resolve

end ClusterConfig
