import ClusterConfig.Proofs.Addresses
import ClusterConfig.Proofs.Failures

/-!
# Resolving a configuration once more

A configuration that was resolved can be given back as the caller's own values. Nothing is filled
then that was open before: a field that no source filled has no source that would fill it now. Only
the address of the server gets the path of the API version once more, and there are no diagnostics,
because no source supplies a credential any longer.

Main definitions:

- `Config.carried`: a configuration as a caller's own values.

Main results:

- Theorem `given_carried`: what is carried for a field is the value of the field.
- Theorem `open_of_null`: a field that is null in the end was offered nothing by any source.
- Theorem `resolve_carried`: a resolved configuration resolves to itself, but for the address.
-/

namespace ClusterConfig

namespace Config

/-- A configuration as a caller's own values: its record without the diagnostics and without what is
null. -/
def carried (c : Config) : List (String × Value) :=
  (c.toRecord false).filter fun entry => entry.1 ≠ messagesName && !entry.2.isNull

/-- What is carried are the fields that are not null. -/
theorem carried_eq (c : Config) :
    c.carried = (Field.all.map fun f => (f.name, c.values f)).filter fun entry =>
      !entry.2.isNull := by
  have hnames : ∀ f : Field, f.name ≠ messagesName := by
    intro f
    cases f <;> decide
  have hfields : ∀ entry ∈ Field.all.map (fun f => (f.name, c.values f)),
      (decide (entry.1 ≠ messagesName) && !entry.2.isNull) = !entry.2.isNull := by
    intro entry hentry
    obtain ⟨f, -, rfl⟩ := List.mem_map.mp hentry
    simp [hnames f]
  unfold carried toRecord
  simp only [shown_false]
  rw [List.filter_append, List.filter_congr hfields]
  simp

/-- Only fields are carried. -/
theorem ofName?_of_mem_carried {c : Config} {entry : String × Value} (h : entry ∈ c.carried) :
    (Field.ofName? entry.1).isSome = true := by
  rw [carried_eq] at h
  obtain ⟨f, -, rfl⟩ := List.mem_map.mp (List.mem_filter.mp h).1
  simp

/-- No field is carried twice. -/
theorem nodup_carried (c : Config) : (c.carried.map Prod.fst).Nodup := by
  have hnames : ((Field.all.map fun f => (f.name, c.values f)).map Prod.fst).Nodup := by
    have hfirst : (Field.all.map fun f => (f.name, c.values f)).map Prod.fst =
        Field.all.map Field.name := rfl
    rw [hfirst]
    decide
  rw [carried_eq]
  exact hnames.sublist (List.filter_sublist.map Prod.fst)

/-- Among the fields that are not null, a name leads to the value of its field. -/
theorem lookup_fields (value : Field → Value) (f : Field) (fields : List Field) :
    (((fields.map fun g => (g.name, value g)).filter fun entry => !entry.2.isNull).lookup
        f.name).getD .null = if f ∈ fields then value f else .null := by
  induction fields with
  | nil => rfl
  | cons g fields ih =>
    rw [List.map_cons]
    by_cases hnull : value g = .null
    · rw [List.filter_cons_of_neg (by simp [hnull]), ih]
      by_cases hg : f = g
      · subst hg
        simp [hnull]
      · simp [hg]
    · rw [List.filter_cons_of_pos (by simpa [← Value.isNull_iff] using hnull), List.lookup_cons]
      by_cases hg : f = g
      · subst hg
        simp
      · simp only [Field.name_beq_of_ne hg, ih, List.mem_cons, hg, false_or]

/-- What is carried for a field is the value of the field. -/
theorem given_carried (c : Config) (f : Field) : Draft.given c.carried f = c.values f := by
  unfold Draft.given
  rw [carried_eq, lookup_fields, if_pos (Field.mem_all f)]

end Config

namespace Resolve

section Stages

variable {w : World} {reader : Yaml.Reader} {c : Config} {d₀ d₁ d₂ : Draft}

/-- A field that is null in a configuration was open at every stage, and no source has anything for
it. -/
theorem open_of_null (h₁ : mounted w (seed w.settings d₀).value = .ok d₁)
    (h₂ : consulted w reader d₁ = .ok d₂) (hfinish : finish d₂ = .ok c) {f : Field}
    (hnull : c.values f = .null) :
    (seed w.settings d₀).value.values f = .null ∧ (w.settings.field f).value = .null ∧
      w.account.offer ((seed w.settings d₀).value.values .clientCertFile) f = .null ∧
      w.clusterOffer reader f = .null ∧ w.userOffer reader f = .null ∧ f.default = .null := by
  obtain ⟨⟨url, -, hmaster⟩, hprotocols, hfields⟩ := values_finish hfinish
  have hurl : f ≠ .masterUrl := by
    rintro rfl
    rw [hmaster] at hnull
    cases hnull
  have hlist : f ≠ .enabledProtocols := by
    rintro rfl
    rw [hprotocols] at hnull
    cases hnull
  rw [hfields f hurl hlist, values_consulted h₂, values_mounted h₁] at hnull
  simp only [Value.orElse_eq_null_iff] at hnull
  obtain ⟨⟨⟨hseeded, haccount⟩, hcluster, huser⟩, hdefault⟩ := hnull
  have hsettings := hseeded
  rw [values_seed] at hsettings
  exact ⟨hseeded, (Value.orElse_eq_null_iff.mp hsettings).2, haccount, hcluster, huser, hdefault⟩

end Stages

section Again

variable {w : World} {reader : Yaml.Reader} {c : Config} {d₀ d₁ d₂ e₀ e₁ e₂ : Draft}

/-- The settings add nothing to a configuration that is carried. -/
theorem values_seed_again (h₁ : mounted w (seed w.settings d₀).value = .ok d₁)
    (h₂ : consulted w reader d₁ = .ok d₂) (hfinish : finish d₂ = .ok c)
    (g₀ : accept c.carried = .ok e₀) (f : Field) :
    (seed w.settings e₀).value.values f = c.values f := by
  rw [values_seed, values_accept g₀ c.nodup_carried, c.given_carried]
  by_cases hnull : c.values f = .null
  · obtain ⟨-, hsettings, -⟩ := open_of_null h₁ h₂ hfinish hnull
    rw [hnull, hsettings, Value.null_orElse]
  · exact Value.orElse_of_ne_null hnull _

/-- Neither does the service account: a certificate authority that did not count for a client
certificate then does not count now, and one that was not there is not there now. -/
theorem values_mounted_again (h₁ : mounted w (seed w.settings d₀).value = .ok d₁)
    (h₂ : consulted w reader d₁ = .ok d₂) (hfinish : finish d₂ = .ok c)
    (g₀ : accept c.carried = .ok e₀) (g₁ : mounted w (seed w.settings e₀).value = .ok e₁)
    (f : Field) : e₁.values f = c.values f := by
  have hseeded := values_seed_again h₁ h₂ hfinish g₀
  rw [values_mounted g₁, hseeded, hseeded]
  by_cases hnull : c.values f = .null
  · obtain ⟨-, -, haccount, -⟩ := open_of_null h₁ h₂ hfinish hnull
    have hagain : w.account.offer (c.values .clientCertFile) f = .null := by
      by_cases hcertificate : c.values .clientCertFile = .null
      · obtain ⟨hopen, -⟩ := open_of_null h₁ h₂ hfinish hcertificate
        rw [hopen] at haccount
        rw [hcertificate]
        exact haccount
      · cases f
        case caCertFile => simp [ServiceAccount.offer, hcertificate]
        all_goals exact haccount
    rw [hnull, hagain, Value.null_orElse]
  · exact Value.orElse_of_ne_null hnull _

/-- Neither does the kubeconfig file. -/
theorem values_consulted_again (h₁ : mounted w (seed w.settings d₀).value = .ok d₁)
    (h₂ : consulted w reader d₁ = .ok d₂) (hfinish : finish d₂ = .ok c)
    (hfields : ∀ f, e₁.values f = c.values f) (g₂ : consulted w reader e₁ = .ok e₂) (f : Field) :
    e₂.values f = c.values f := by
  rw [values_consulted g₂, hfields]
  by_cases hnull : c.values f = .null
  · obtain ⟨-, -, -, hcluster, huser, -⟩ := open_of_null h₁ h₂ hfinish hnull
    rw [hnull, hcluster, huser]
    rfl
  · exact Value.orElse_of_ne_null hnull _

/-- No source supplies a credential to a configuration that is carried, so there are no
diagnostics. -/
theorem messages_again (h₁ : mounted w (seed w.settings d₀).value = .ok d₁)
    (h₂ : consulted w reader d₁ = .ok d₂) (hfinish : finish d₂ = .ok c)
    (g₀ : accept c.carried = .ok e₀) (g₁ : mounted w (seed w.settings e₀).value = .ok e₁)
    (g₂ : consulted w reader e₁ = .ok e₂) : e₂.messages = [] := by
  have hnone : (seed w.settings e₀).value.messages = [] := by
    rw [messages_seed, messages_accept g₀]
  have hmounted : e₁.messages = [] := by
    rw [messages_mounted g₁ hnone, values_seed_again h₁ h₂ hfinish g₀]
    refine if_neg ?_
    rintro ⟨hopen, htoken⟩
    obtain ⟨-, -, haccount, -⟩ := open_of_null h₁ h₂ hfinish hopen
    exact htoken (Value.ofText?_eq_null_iff.mp haccount)
  rcases messages_consulted g₂ hmounted with ⟨-, f, hopen, huser⟩ | ⟨hsame, -⟩
  · rw [values_mounted_again h₁ h₂ hfinish g₀ g₁, Value.orElse_eq_null_iff] at hopen
    obtain ⟨-, -, -, -, hoffer, -⟩ := open_of_null h₁ h₂ hfinish hopen.1
    exact absurd hoffer huser
  · exact hsame

/-- A draft with the fields of a configuration is finished to that configuration, but for the
address, which gets the path of the API version once more. -/
theorem finish_again (hfinish : finish d₂ = .ok c) (hfields : ∀ f, e₂.values f = c.values f) :
    ∃ c' url, finish e₂ = .ok c' ∧ (∀ f, f ≠ .masterUrl → c'.values f = c.values f) ∧
      c.values .masterUrl = .text url ∧
      c'.values .masterUrl = .text (url ++ "api/" ++ (c.values .apiVersion).asText ++ "/") := by
  obtain ⟨⟨before, -, hmaster⟩, hprotocols, hothers⟩ := values_finish hfinish
  have hurl : (e₂.values .masterUrl).orElse Field.masterUrl.default =
      .text (Url.appendApiPath before (c.values .apiVersion).asText) := by
    rw [hfields, hmaster]
    rfl
  have hlist : (e₂.values .enabledProtocols).orElse Field.enabledProtocols.default =
      c.values .enabledProtocols := by
    rw [hfields, hprotocols]
    rfl
  obtain ⟨c', hfinish'⟩ := exists_finish ⟨_, hurl⟩ ⟨_, hlist.trans hprotocols⟩
  obtain ⟨⟨url, hgiven, hmaster'⟩, hprotocols', hothers'⟩ := values_finish hfinish'
  have hsame : ∀ f, f ≠ .masterUrl → c'.values f = c.values f := by
    intro f hf
    by_cases henabled : f = .enabledProtocols
    · subst henabled
      rw [hprotocols', hlist, hprotocols]
      rfl
    · rw [hothers' f hf henabled, hfields]
      by_cases hnull : c.values f = .null
      · have hdefault : f.default = .null := by
          rw [hothers f hf henabled] at hnull
          exact (Value.orElse_eq_null_iff.mp hnull).2
        rw [hdefault, Value.orElse_null]
      · exact Value.orElse_of_ne_null hnull _
  refine ⟨c', Url.appendApiPath before (c.values .apiVersion).asText, hfinish', hsame, hmaster, ?_⟩
  rw [hurl] at hgiven
  obtain rfl := Value.text.inj hgiven
  rw [hmaster', hsame .apiVersion (by decide)]
  exact congrArg Value.text (Url.appendApiPath_of_endsIn (Url.endsIn_slash_appendApiPath _ _) _)

/-- A configuration that was resolved, given back as the caller's own values, resolves in the same
world to itself, but for the address, which gets the path of the API version once more; what is null
stays null, and there are no diagnostics. -/
theorem resolve_carried {explicit : List (String × Value)}
    (h : (resolve w reader explicit).outcome = .ok c) :
    ∃ c' url, (resolve w reader c.carried).outcome = .ok c' ∧
      (∀ f, f ≠ .masterUrl → c'.values f = c.values f) ∧
      c.values .masterUrl = .text url ∧
      c'.values .masterUrl = .text (url ++ "api/" ++ (c.values .apiVersion).asText ++ "/") ∧
      c'.messages = [] := by
  obtain ⟨d₀, d₁, d₂, -, h₁, h₂, hfinish⟩ := resolve_eq_ok_iff.mp h
  obtain ⟨e₀, g₀⟩ := exists_accept fun entry hentry => Config.ofName?_of_mem_carried hentry
  -- whether the two sources can be asked does not depend on what is filled already
  obtain ⟨e₁, g₁⟩ : ∃ e₁, mounted w (seed w.settings e₀).value = .ok e₁ :=
    (exists_mounted_iff w _).mpr ((exists_mounted_iff w _).mp ⟨d₁, h₁⟩)
  obtain ⟨e₂, g₂⟩ : ∃ e₂, consulted w reader e₁ = .ok e₂ :=
    (exists_consulted_iff w reader e₁).mpr ((exists_consulted_iff w reader d₁).mp ⟨d₂, h₂⟩)
  have hmounted := values_mounted_again h₁ h₂ hfinish g₀ g₁
  have hconsulted := values_consulted_again h₁ h₂ hfinish hmounted g₂
  obtain ⟨c', url, hfinish', hsame, hmaster, hmaster'⟩ := finish_again hfinish hconsulted
  refine ⟨c', url, resolve_eq_ok_iff.mpr ⟨e₀, e₁, e₂, g₀, g₁, g₂, hfinish'⟩, hsame, hmaster,
    hmaster', ?_⟩
  rw [messages_finish hfinish', messages_again h₁ h₂ hfinish g₀ g₁ g₂]

end Again

/-- A client certificate of the caller keeps the certificate authority of the account out, the
second time as the first time. -/
theorem resolve_carried_sample :
    ∃ c c', (resolve sampleWorld .fresh [("client_cert_file", .text "own")]).outcome = .ok c ∧
      (resolve sampleWorld .fresh c.carried).outcome = .ok c' ∧
      c'.values .caCertFile = .null ∧ (c'.values .oauthToken).text? = some "secret" ∧
      (c'.values .masterUrl).text? = some "https://kubernetes.default.svc/api/v1/api/v1/" ∧
      c'.messages = [] := by
  have hfound : ((resolve sampleWorld .fresh
      [("client_cert_file", .text "own")]).outcome.toOption.any fun c =>
        (c.values .caCertFile).isNull &&
        (c.values .oauthToken).text? == some "secret" &&
        (c.values .masterUrl).text? == some "https://kubernetes.default.svc/api/v1/" &&
        (c.values .apiVersion).asText == "v1") = true := by
    rw [outcome_resolve_of_known (by decide)]
    decide
  cases hc : (resolve sampleWorld .fresh [("client_cert_file", .text "own")]).outcome with
  | error failure =>
    rw [hc] at hfound
    cases hfound
  | ok c =>
    rw [hc] at hfound
    simp only [Except.toOption, Option.any_some, Bool.and_eq_true, beq_iff_eq,
      Value.isNull_iff] at hfound
    obtain ⟨⟨⟨hauthority, htoken⟩, haddress⟩, hversion⟩ := hfound
    obtain ⟨c', url, hagain, hsame, hurl, hmaster, hmessages⟩ := resolve_carried hc
    have htext : url = "https://kubernetes.default.svc/api/v1/" := by
      rw [hurl] at haddress
      exact Option.some.inj haddress
    refine ⟨c, c', rfl, hagain, ?_, ?_, ?_, hmessages⟩
    · rw [hsame .caCertFile (by decide), hauthority]
    · rw [hsame .oauthToken (by decide), htoken]
    · rw [hmaster, htext, hversion]
      decide

end Resolve

end ClusterConfig
