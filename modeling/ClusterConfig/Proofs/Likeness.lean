import ClusterConfig.Proofs.Stages
import Mathlib.Data.List.Forall2

/-!
# Things that differ in secrets alone

Two drafts look alike if they differ in nothing but the values of secret fields, and a secret that
one of them has the other has too. What fills such drafts from sources that look alike leaves them
looking alike and fills the same fields; a configuration that is shown masked does not tell them
apart.

Main definitions:

- `Field.Alike`: values of a field that look alike.
- `Draft.Alike`, `Config.Alike`: drafts and configurations that look alike.
- `Kubeconfig.DocumentsAlike`: documents that differ in the secrets of their users alone.
- `OutcomesAlike`, `AlikeUnless`: outcomes that are alike, or that one certain failure tells apart.

Main results:

- Theorem `Draft.Alike.fill`: drafts that look alike are filled alike.
- Theorem `snapshot_alike`: documents that look alike have snapshots that do, unless a number that
  is too long stands in the way of one of them.
- Theorem `finish_alike`: drafts that look alike are finished alike.
- Theorem `Config.Alike.shown_eq`: masked configurations that look alike are shown as the same.
-/

namespace ClusterConfig

/-! ## Outcomes -/

section Outcomes

variable {ε α β γ δ : Type}

/-- Two outcomes are alike if they are the same failure or are results that look alike. -/
inductive OutcomesAlike (R : α → β → Prop) : Except ε α → Except ε β → Prop where
  | ok {a : α} {b : β} (h : R a b) : OutcomesAlike R (.ok a) (.ok b)
  | error (e : ε) : OutcomesAlike R (.error e) (.error e)

/-- Two outcomes are alike unless just one of them is a certain failure. -/
def AlikeUnless (stop : ε) (R : α → β → Prop) (x : Except ε α) (y : Except ε β) : Prop :=
  OutcomesAlike R x y ∨ ¬(x = .error stop ↔ y = .error stop)

/-- What is alike stays alike in steps that keep it so. -/
theorem OutcomesAlike.bind {R : α → β → Prop} {S : γ → δ → Prop} {x : Except ε α} {y : Except ε β}
    (h : OutcomesAlike R x y) {f : α → Except ε γ} {g : β → Except ε δ}
    (hstep : ∀ a b, R a b → OutcomesAlike S (f a) (g b)) :
    OutcomesAlike S (x.bind f) (y.bind g) := by
  cases h with
  | ok hab => exact hstep _ _ hab
  | error e => exact .error e

/-- What is alike stays alike in a function that keeps it so. -/
theorem OutcomesAlike.map {R : α → β → Prop} {S : γ → δ → Prop} {x : Except ε α} {y : Except ε β}
    (h : OutcomesAlike R x y) {f : α → γ} {g : β → δ} (hstep : ∀ a b, R a b → S (f a) (g b)) :
    OutcomesAlike S (x.map f) (y.map g) := by
  cases h with
  | ok hab => exact .ok (hstep _ _ hab)
  | error e => exact .error e

/-- The same outcome is alike if the results are. -/
theorem OutcomesAlike.of_eq {R : α → α → Prop} (hrefl : ∀ a, R a a) {x y : Except ε α}
    (h : x = y) : OutcomesAlike R x y := by
  subst h
  cases x with
  | ok a => exact .ok (hrefl a)
  | error e => exact .error e

/-- A step after results that look alike leaves the outcomes alike, unless the step fails in a
certain way after just one of them. -/
theorem OutcomesAlike.bindUnless {stop : ε} {R : α → β → Prop} {S : γ → δ → Prop} {x : Except ε α}
    {y : Except ε β} (h : OutcomesAlike R x y) {f : α → Except ε γ} {g : β → Except ε δ}
    (hstep : ∀ a b, R a b → AlikeUnless stop S (f a) (g b)) :
    AlikeUnless stop S (x.bind f) (y.bind g) := by
  cases h with
  | ok hab => exact hstep _ _ hab
  | error e => exact .inl (.error e)

/-- A function of the results changes nothing in the failures. -/
theorem AlikeUnless.map {stop : ε} {R : α → β → Prop} {S : γ → δ → Prop} {x : Except ε α}
    {y : Except ε β} (h : AlikeUnless stop R x y) {f : α → γ} {g : β → δ}
    (hstep : ∀ a b, R a b → S (f a) (g b)) : AlikeUnless stop S (x.map f) (y.map g) := by
  have hstop : ∀ {κ ι : Type} (z : Except ε κ) (k : κ → ι),
      z.map k = .error stop ↔ z = .error stop := by
    intro κ ι z k
    cases z <;> simp [Except.map]
  rcases h with halike | hdiffer
  · exact .inl (halike.map hstep)
  · right
    rwa [hstop, hstop]

/-- What is alike unless just one of two outcomes is a certain failure stays so in another wording
of the failures. -/
theorem AlikeUnless.mapError {η : Type} {stop : ε} {R : α → β → Prop} {x : Except ε α}
    {y : Except ε β} (h : AlikeUnless stop R x y) {wording : ε → η}
    (hinjective : ∀ e, wording e = wording stop → e = stop) :
    AlikeUnless (wording stop) R (x.mapError wording) (y.mapError wording) := by
  rcases h with halike | hdiffer
  · left
    cases halike with
    | ok hab => exact .ok hab
    | error e => exact .error (wording e)
  · right
    rwa [Resolve.mapError_eq_error_iff hinjective, Resolve.mapError_eq_error_iff hinjective]

end Outcomes

/-! ## Fields, drafts and configurations -/

/-- Two values of a field look alike if they are the same, or if the field is secret and both are
there. -/
def Field.Alike (f : Field) (v v' : Value) : Prop :=
  v = v' ∨ (f.isSecret = true ∧ v ≠ .null ∧ v' ≠ .null)

namespace Field

variable {f : Field} {v v' u u' : Value}

@[simp]
theorem Alike.refl (f : Field) (v : Value) : f.Alike v v :=
  .inl rfl

/-- Of values that look alike both are there or neither is. -/
theorem Alike.null_iff (h : f.Alike v v') : v = .null ↔ v' = .null := by
  rcases h with rfl | ⟨-, hv, hv'⟩
  · rfl
  · exact iff_of_false hv hv'

theorem Alike.isNull_eq (h : f.Alike v v') : v.isNull = v'.isNull := by
  rw [Bool.eq_iff_iff, Value.isNull_iff, Value.isNull_iff]
  exact h.null_iff

/-- Values of a field that is no secret look alike only if they are the same. -/
theorem Alike.eq (h : f.Alike v v') (hopen : f.isSecret = false) : v = v' := by
  rcases h with rfl | ⟨hsecret, -, -⟩
  · rfl
  · rw [hopen] at hsecret
    cases hsecret

/-- Two texts under a secret look alike if both are there or neither is. -/
theorem alike_ofText? (hsecret : f.isSecret = true) {o o' : Option String}
    (h : o.isSome = o'.isSome) : f.Alike (.ofText? o) (.ofText? o') := by
  cases o with
  | none =>
    cases o' with
    | none => exact .refl f .null
    | some t' => cases h
  | some t =>
    cases o' with
    | none => cases h
    | some t' => exact .inr ⟨hsecret, by simp [Value.ofText?], by simp [Value.ofText?]⟩

end Field

/-- Two drafts look alike if the values of all fields do and the diagnostics are the same. -/
structure Draft.Alike (d d' : Draft) : Prop where
  values : ∀ f : Field, f.Alike (d.values f) (d'.values f)
  messages : d.messages = d'.messages

/-- Two configurations look alike if the values of all fields do and the diagnostics are the
same. -/
structure Config.Alike (c c' : Config) : Prop where
  values : ∀ f : Field, f.Alike (c.values f) (c'.values f)
  messages : c.messages = c'.messages

/-- Masked, a field does not show which of two values that look alike it has. -/
theorem Config.Alike.shown_eq {c c' : Config} (h : c.Alike c') (f : Field) :
    c.shown true f = c'.shown true f := by
  unfold Config.shown
  rw [(h.values f).isNull_eq]
  cases hsecret : f.isSecret with
  | false =>
    rw [(h.values f).eq hsecret]
  | true =>
    cases hnull : (c'.values f).isNull with
    | false => rfl
    | true =>
      have hnone := Value.isNull_iff.mp hnull
      rw [hnone, (h.values f).null_iff.mpr hnone]

/-- Masked, the whole of a configuration does not show it either. -/
theorem Config.Alike.toRecord_eq {c c' : Config} (h : c.Alike c') :
    c.toRecord true = c'.toRecord true := by
  have hmessages : c.messagesValue = c'.messagesValue := by
    unfold Config.messagesValue
    rw [h.messages]
  unfold Config.toRecord
  rw [hmessages]
  simp only [h.shown_eq]

namespace Draft

/-- Two candidates look alike if they are for one field and their values look alike. -/
def CandidateAlike (candidate candidate' : Field × Value) : Prop :=
  candidate.1 = candidate'.1 ∧ candidate.1.Alike candidate.2 candidate'.2

variable {d d' : Draft}

theorem Alike.refl (d : Draft) : d.Alike d :=
  ⟨fun f => .refl f (d.values f), rfl⟩

theorem Alike.isSet_eq (h : d.Alike d') (f : Field) : d.isSet f = d'.isSet f := by
  unfold isSet
  rw [(h.values f).isNull_eq]

theorem Alike.set (h : d.Alike d') {f : Field} {v v' : Value} (hv : f.Alike v v') :
    (d.set f v).Alike (d'.set f v') := by
  refine ⟨?_, h.messages⟩
  intro g
  by_cases hg : g = f
  · subst hg
    rwa [values_set_self, values_set_self]
  · rw [values_set_of_ne d hg, values_set_of_ne d' hg]
    exact h.values g

/-- Drafts that look alike are filled alike from candidates that look alike, and in the same
fields. -/
theorem Alike.fill {candidates candidates' : List (Field × Value)} (h : d.Alike d')
    (hcandidates : List.Forall₂ CandidateAlike candidates candidates') :
    (d.fill candidates).1.Alike (d'.fill candidates').1 ∧
      (d.fill candidates).2 = (d'.fill candidates').2 := by
  induction hcandidates generalizing d d' with
  | nil => exact ⟨h, rfl⟩
  | @cons candidate candidate' rest rest' hfirst hrest ih =>
    obtain ⟨f, v⟩ := candidate
    obtain ⟨f', v'⟩ := candidate'
    obtain ⟨rfl, hv⟩ : f = f' ∧ f.Alike v v' := hfirst
    unfold Draft.fill
    rw [hv.isNull_eq, h.isSet_eq f]
    split
    · exact ih h
    · obtain ⟨hdraft, hfields⟩ := ih (h.set hv)
      exact ⟨hdraft, congrArg (f :: ·) hfields⟩

/-- The same candidates look alike. -/
theorem forall₂_candidateAlike_refl (candidates : List (Field × Value)) :
    List.Forall₂ CandidateAlike candidates candidates :=
  List.forall₂_same.mpr fun candidate _ => ⟨rfl, .refl candidate.1 candidate.2⟩

/-- A diagnostic depends on no field. -/
theorem messages_addMessage_congr (h : d.messages = d'.messages) (status : Int) (text : String) :
    (d.addMessage status text).messages = (d'.addMessage status text).messages := by
  unfold addMessage
  rw [h]
  split
  · exact h
  · rfl

theorem Alike.explain (h : d.Alike d') (hint : Hint) :
    (d.explain hint).Alike (d'.explain hint) := by
  refine ⟨?_, ?_⟩
  · intro f
    rw [values_explain, values_explain]
    exact h.values f
  · unfold Draft.explain Hint.messages
    exact messages_addMessage_congr (messages_addMessage_congr h.messages _ _) _ _

end Draft

/-! ## Documents -/

/-- Two users look alike if they differ in their token, password and key alone, and both have or
lack each of these. -/
structure User.Alike (u u' : User) : Prop where
  clientCertificate : u.clientCertificate = u'.clientCertificate
  clientCertificateData : u.clientCertificateData = u'.clientCertificateData
  clientKey : u.clientKey = u'.clientKey
  clientKeyData : u.clientKeyData.isSome = u'.clientKeyData.isSome
  token : u.token.isSome = u'.token.isSome
  username : u.username = u'.username
  password : u.password.isSome = u'.password.isSome

/-- Two snapshots look alike if they differ in the secrets of their users alone. -/
structure Snapshot.Alike (s s' : Snapshot) : Prop where
  contextName : s.contextName = s'.contextName
  namespaceName : s.namespaceName = s'.namespaceName
  cluster : s.cluster = s'.cluster
  user : Option.Rel User.Alike s.user s'.user

theorem User.Alike.refl (u : User) : u.Alike u :=
  ⟨rfl, rfl, rfl, rfl, rfl, rfl, rfl⟩

theorem Snapshot.Alike.refl (s : Snapshot) : s.Alike s := by
  refine ⟨rfl, rfl, rfl, ?_⟩
  cases s.user with
  | none => exact .none
  | some u => exact .some (.refl u)

namespace Kubeconfig

/-- The keys of a user's body under which secrets are. -/
def secretKeys : List String :=
  ["token", "password", "client-key-data"]

/-- Two bodies of users look alike if what they have under a key is the same, or if the key is a
secret one and both have something there. -/
def BodiesAlike (body body' : Value) : Prop :=
  ∀ key ∈ userKeys, get body key = get body' key ∨
    (key ∈ secretKeys ∧
      ∃ v v', get body key = .ok v ∧ get body' key = .ok v' ∧ v ≠ .null ∧ v' ≠ .null)

/-- Two entries of users look alike if they have the same name and their bodies look alike. -/
structure EntriesAlike (entry entry' : Value) : Prop where
  hasName : ∀ name, hasName name entry = hasName name entry'
  body : BodiesAlike (body "user" entry) (body "user" entry')

/-- Two documents look alike if they have the same current context, contexts and clusters, and if
their users look alike one by one. -/
structure DocumentsAlike (doc doc' : Value) : Prop where
  currentContext : get doc "current-context" = get doc' "current-context"
  contexts : entries doc "contexts" = entries doc' "contexts"
  clusters : entries doc "clusters" = entries doc' "clusters"
  users : OutcomesAlike (List.Forall₂ EntriesAlike) (entries doc "users") (entries doc' "users")

/-- The same body looks alike. -/
theorem BodiesAlike.refl (body : Value) : BodiesAlike body body :=
  fun _ _ => .inl rfl

/-- Under every key, both of two bodies that look alike have a text or neither has. -/
theorem BodiesAlike.isSome_textIn {body body' : Value} (h : BodiesAlike body body') {key : String}
    (hkey : key ∈ userKeys) : (textIn body key).isSome = (textIn body' key).isSome := by
  unfold textIn
  rcases h key hkey with hsame | ⟨-, v, v', hv, hv', hthere, hthere'⟩
  · rw [hsame]
  · have hsome : ∀ {u : Value}, u ≠ .null → u.asText?.isSome = true := by
      intro u hu
      rw [Option.isSome_iff_ne_none]
      exact fun hnone => hu (Value.asText?_eq_none_iff.mp hnone)
    simp only [hv, hv', hsome hthere, hsome hthere']

/-- Under a key that is not a secret one, bodies that look alike have the same. -/
theorem BodiesAlike.textIn_eq {body body' : Value} (h : BodiesAlike body body') {key : String}
    (hkey : key ∈ userKeys) (hopen : key ∉ secretKeys) : textIn body key = textIn body' key := by
  unfold textIn
  rcases h key hkey with hsame | ⟨hsecret, -⟩
  · rw [hsame]
  · exact absurd hsecret hopen

/-- Bodies that look alike describe users that do. -/
theorem BodiesAlike.userOf {body body' : Value} (h : BodiesAlike body body') (name : Value) :
    (userOf name body).Alike (userOf name body') where
  clientCertificate := h.textIn_eq (by decide) (by decide)
  clientCertificateData := h.textIn_eq (by decide) (by decide)
  clientKey := h.textIn_eq (by decide) (by decide)
  clientKeyData := h.isSome_textIn (by decide)
  token := h.isSome_textIn (by decide)
  username := h.textIn_eq (by decide) (by decide)
  password := h.isSome_textIn (by decide)

/-- What a name finds among entries that look alike are bodies that do. -/
theorem find?_alike {items items' : List Value} (h : List.Forall₂ EntriesAlike items items')
    (name : Value) :
    Option.Rel BodiesAlike ((items.find? (hasName name)).map (body "user"))
      ((items'.find? (hasName name)).map (body "user")) := by
  induction h with
  | nil => exact .none
  | @cons entry entry' rest rest' hfirst hrest ih =>
    rw [List.find?_cons, List.find?_cons, hfirst.hasName name]
    cases hasName name entry' with
    | true => exact .some hfirst.body
    | false => exact ih

variable {doc doc' : Value}

/-- A section that is the same has the same entries under every name. -/
theorem referredEntry_congr {sectionName : String}
    (h : entries doc sectionName = entries doc' sectionName) (name : Value) (bodyKey : String) :
    referredEntry doc sectionName name bodyKey = referredEntry doc' sectionName name bodyKey := by
  unfold referredEntry namedEntry
  rw [h]

/-- A value names users that look alike in documents that do. -/
theorem DocumentsAlike.referredUser (h : DocumentsAlike doc doc') (name : Value) :
    OutcomesAlike (Option.Rel BodiesAlike) (referredEntry doc "users" name "user")
      (referredEntry doc' "users" name "user") := by
  unfold referredEntry
  split
  · exact h.users.map fun items items' hitems => find?_alike hitems name
  · exact .ok .none

/-- Bodies that look alike describe users that do, unless a number in just one of them is too
long. -/
theorem describe_alike {found found' : Option Value} (h : Option.Rel BodiesAlike found found')
    (name : Value) :
    AlikeUnless .longNumber (Option.Rel User.Alike) (describe userKeys userOf name found)
      (describe userKeys userOf name found') := by
  cases h with
  | none => exact .inl (.ok .none)
  | @some body body' hbody =>
    unfold describe
    dsimp only
    by_cases hlong : (name.isWritable && isWritableUnder body userKeys) = true
    · by_cases hlong' : (name.isWritable && isWritableUnder body' userKeys) = true
      · rw [if_pos hlong, if_pos hlong']
        exact .inl (.ok (.some (hbody.userOf name)))
      · rw [if_pos hlong, if_neg hlong']
        exact .inr (by simp)
    · by_cases hlong' : (name.isWritable && isWritableUnder body' userKeys) = true
      · rw [if_neg hlong, if_pos hlong']
        exact .inr (by simp)
      · rw [if_neg hlong, if_neg hlong']
        exact .inl (.error _)

/-- A context names users that look alike in documents that do, unless a number in just one of them
is too long. -/
theorem DocumentsAlike.userFor (h : DocumentsAlike doc doc') (context : Value) :
    AlikeUnless .longNumber (Option.Rel User.Alike) (userFor doc context)
      (userFor doc' context) := by
  have hname : OutcomesAlike Eq (get context "user") (get context "user") :=
    .of_eq (fun _ => rfl) rfl
  refine hname.bindUnless ?_
  rintro name _ rfl
  refine (h.referredUser name).bindUnless ?_
  intro found found' hfound
  exact describe_alike hfound name

/-- A context is the whole of its snapshot if its namespace can be written. -/
theorem snapshotOf_eq (doc : Value) (name : Option String) (context : Value) :
    snapshotOf doc name context =
      if isWritableUnder context ["namespace"] then
        (clusterFor doc context).bind fun cluster =>
          (Kubeconfig.userFor doc context).map fun user =>
            ⟨name, textIn context "namespace", cluster, user⟩
      else .error .longNumber := by
  unfold snapshotOf
  cases isWritableUnder context ["namespace"] with
  | false => rfl
  | true =>
    cases clusterFor doc context with
    | error fault => rfl
    | ok cluster => cases Kubeconfig.userFor doc context <;> rfl

/-- A context has snapshots that look alike in documents that do, unless a number in just one of
them is too long. -/
theorem DocumentsAlike.snapshotOf (h : DocumentsAlike doc doc') (name : Option String)
    (context : Value) :
    AlikeUnless .longNumber Snapshot.Alike (snapshotOf doc name context)
      (snapshotOf doc' name context) := by
  have hclusters : clusterFor doc' context = clusterFor doc context := by
    unfold clusterFor
    simp only [referredEntry_congr h.clusters]
  rw [snapshotOf_eq, snapshotOf_eq, hclusters]
  split
  · have hcluster : OutcomesAlike Eq (clusterFor doc context) (clusterFor doc context) :=
      .of_eq (fun _ => rfl) rfl
    refine hcluster.bindUnless ?_
    rintro cluster _ rfl
    refine (h.userFor context).map ?_
    intro user user' huser
    exact ⟨rfl, rfl, rfl, huser⟩
  · exact .inl (.error _)

/-- Documents that look alike have snapshots that do, unless a number in just one of them is too
long; and the current context is found in both or in neither. -/
theorem snapshot_alike (h : DocumentsAlike doc doc') :
    (snapshot doc).1 = (snapshot doc').1 ∧
      AlikeUnless .longNumber Snapshot.Alike (snapshot doc).2 (snapshot doc').2 := by
  have hcontext : currentContext doc = currentContext doc' := by
    unfold Kubeconfig.currentContext
    rw [h.currentContext]
    simp only [referredEntry_congr h.contexts]
  have hname : contextName doc = contextName doc' := by
    unfold contextName
    rw [h.currentContext]
  have hnames : OutcomesAlike Eq (contextName doc') (contextName doc') :=
    .of_eq (fun _ => rfl) rfl
  unfold snapshot
  rw [hcontext, hname]
  cases currentContext doc' with
  | error fault => exact ⟨rfl, .inl (.error fault)⟩
  | ok found =>
    cases found with
    | none =>
      refine ⟨rfl, .inl (hnames.map ?_)⟩
      rintro name _ rfl
      exact .refl _
    | some context =>
      refine ⟨rfl, hnames.bindUnless ?_⟩
      rintro name _ rfl
      exact h.snapshotOf name context

end Kubeconfig

/-! ## Sources that look alike -/

namespace Resolve

variable {d d' : Draft}

/-- Users that look alike have candidates that do. -/
theorem userValues_alike {u u' : User} (h : u.Alike u') :
    List.Forall₂ Draft.CandidateAlike (userValues u) (userValues u') := by
  unfold userValues
  rw [h.clientCertificate, h.clientCertificateData, h.clientKey, h.username]
  refine .cons ⟨rfl, .refl _ _⟩ (.cons ⟨rfl, .refl _ _⟩ (.cons ⟨rfl, .refl _ _⟩ ?_))
  refine .cons ⟨rfl, Field.alike_ofText? rfl h.clientKeyData⟩ ?_
  refine .cons ⟨rfl, Field.alike_ofText? rfl h.token⟩ (.cons ⟨rfl, .refl _ _⟩ ?_)
  exact .cons ⟨rfl, Field.alike_ofText? rfl h.password⟩ .nil

/-- Users that look alike leave drafts alike, and fill the same fields. -/
theorem adoptUser_alike (h : d.Alike d') {user user' : Option User}
    (huser : Option.Rel User.Alike user user') :
    (adoptUser user d).1.Alike (adoptUser user' d').1 ∧
      (adoptUser user d).2 = (adoptUser user' d').2 := by
  cases huser with
  | none => exact ⟨h, rfl⟩
  | @some u u' hu =>
    obtain ⟨hdraft, hfields⟩ := h.fill (userValues_alike hu)
    unfold adoptUser
    dsimp only
    rw [hfields]
    split
    · exact ⟨hdraft, rfl⟩
    · exact ⟨hdraft.explain .kubeconfig, rfl⟩

/-- Snapshots that look alike leave drafts alike, and with the same notes. -/
theorem adoptSnapshot_alike (h : d.Alike d') {s s' : Snapshot} (hs : s.Alike s') (path : String) :
    (adoptSnapshot path s d).notes = (adoptSnapshot path s' d').notes ∧
      (adoptSnapshot path s d).value.Alike (adoptSnapshot path s' d').value := by
  unfold adoptSnapshot
  rw [hs.cluster]
  cases s'.cluster with
  | none => exact ⟨rfl, h⟩
  | some c =>
    have hvalues : clusterValues s c = clusterValues s' c := by
      unfold clusterValues
      rw [hs.namespaceName]
    obtain ⟨hfilled, hfields⟩ := h.fill (Draft.forall₂_candidateAlike_refl (clusterValues s' c))
    obtain ⟨hadopted, hsupplied⟩ := adoptUser_alike hfilled hs.user
    dsimp only
    rw [hvalues, hs.contextName, hfields, hsupplied]
    exact ⟨rfl, hadopted⟩

/-- Service accounts that differ in their tokens alone leave drafts alike, and with the same
notes. -/
theorem adoptAccount_alike (h : d.Alike d') {token token' : Option String}
    (htoken : token.isSome = token'.isSome) (caCertFile : Option String) :
    (adoptAccount ⟨token, caCertFile⟩ d).notes = (adoptAccount ⟨token', caCertFile⟩ d').notes ∧
      (adoptAccount ⟨token, caCertFile⟩ d).value.Alike
        (adoptAccount ⟨token', caCertFile⟩ d').value := by
  have hca : (adoptCa ⟨token, caCertFile⟩ d).Alike (adoptCa ⟨token', caCertFile⟩ d') := by
    unfold adoptCa
    rw [h.isSet_eq .clientCertFile]
    cases caCertFile with
    | none => exact h
    | some path =>
      dsimp only
      split
      · exact (h.fill (Draft.forall₂_candidateAlike_refl _)).1
      · exact h
  have hcandidates : List.Forall₂ Draft.CandidateAlike [(.oauthToken, Value.ofText? token)]
      [(.oauthToken, Value.ofText? token')] :=
    .cons ⟨rfl, Field.alike_ofText? rfl htoken⟩ .nil
  obtain ⟨hfilled, hfields⟩ := hca.fill hcandidates
  unfold adoptAccount
  dsimp only
  rw [hfields]
  split
  · exact ⟨rfl, hfilled⟩
  · exact ⟨rfl, hfilled.explain .serviceAccount⟩

/-- Drafts that look alike are shaped alike. -/
theorem shape_alike (h : d.Alike d') : OutcomesAlike Draft.Alike (shape d) (shape d') := by
  unfold shape
  rw [(h.values .masterUrl).eq rfl, (h.values .apiVersion).eq rfl]
  cases (d'.values .masterUrl).text? with
  | none => exact .error _
  | some url =>
    refine .ok ?_
    exact ((h.set (.refl .masterUrl _)).fill (Draft.forall₂_candidateAlike_refl _)).1

/-- Drafts that look alike freeze alike. -/
theorem freeze_alike (h : d.Alike d') (failure : Failure) :
    OutcomesAlike Config.Alike (d.freeze?.elim (.error failure) .ok)
      (d'.freeze?.elim (.error failure) .ok) := by
  have hprotocols : d.protocols? = d'.protocols? := by
    unfold Draft.protocols?
    rw [(h.values .enabledProtocols).eq rfl]
  unfold Draft.freeze?
  rw [hprotocols]
  cases d'.protocols? with
  | none => exact .error _
  | some protocols =>
    exact .ok ⟨(h.set (.refl .enabledProtocols protocols)).values, h.messages⟩

/-- Drafts that look alike are finished alike. -/
theorem finish_alike (h : d.Alike d') : OutcomesAlike Config.Alike (finish d) (finish d') := by
  obtain ⟨hfilled, -⟩ := h.fill (Draft.forall₂_candidateAlike_refl defaults)
  rw [finish_eq, finish_eq]
  exact (shape_alike hfilled).bind fun e e' he => freeze_alike he _

end Resolve

end ClusterConfig
