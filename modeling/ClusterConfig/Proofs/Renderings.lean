import ClusterConfig.Proofs.Inspector

/-!
# A configuration as a table and as a document

The program shows a configuration as a table or as a document. Both say the same: a row of the table
for every member of the document but the diagnostics, with the value of the same field, and a panel
where the document has diagnostics. They are there for the same resolutions, except that the table
also names the kubeconfig file: it asks for the path of the file even where a setting keeps
resolution from doing so, and a path that cannot be told ends the run.

Main definitions:

- `Config.IsExplained`: the diagnostics are those for one credential, or there are none.
- `Report.EndAlike`: two runs both end well, or end with the same failure.
- `Options.AsksInVain`: the path is asked for that cannot be told and is not needed.
- `SaysTheSame`: what is shown as a table and what is shown as a document agree.

Main results:

- Theorem `inOrder_pairwise`: diagnostics are listed once, the least status first.
- Theorem `Resolve.isExplained`: the diagnostics of a configuration are those for one credential.
- Theorem `renderings_agree_iff`: when a table and a document end alike, and that they say the same.
-/

namespace ClusterConfig

/-! ## The diagnostics of a configuration -/

/-- A configuration is explained by one credential: its diagnostics are those for the credential, or
there are none. -/
def Config.IsExplained (c : Config) : Prop :=
  c.messages = [] ∨ ∃ hint : Hint, c.messages = hint.messages

/-- What a resolution comes to is explained by one credential. -/
theorem Resolve.isExplained {w : World} {reader : Yaml.Reader} {explicit : List (String × Value)}
    {c : Config} (h : (resolve w reader explicit).outcome = .ok c) : c.IsExplained := by
  obtain ⟨d₀, d₁, d₂, h₀, h₁, h₂, hfinish⟩ := resolve_eq_ok_iff.mp h
  have hseeded : (seed w.settings d₀).value.messages = [] := by
    rw [messages_seed, messages_accept h₀]
  have hmounted := messages_mounted h₁ hseeded
  rw [Config.IsExplained, messages_finish hfinish]
  split at hmounted
  · exact .inr ⟨.serviceAccount, messages_consulted_of_explained h₂ hmounted⟩
  · rcases messages_consulted h₂ hmounted with ⟨hhint, -⟩ | ⟨hnone, -⟩
    · exact .inr ⟨.kubeconfig, hhint⟩
    · exact .inl hnone

namespace Config.IsExplained

variable {c : Config}

/-- No credential has two diagnostics for one status. -/
theorem nodup (h : c.IsExplained) : (c.messages.map Prod.fst).Nodup := by
  rcases h with hnone | ⟨hint, hhint⟩
  · simp [hnone]
  · rw [hhint]
    cases hint <;> decide

/-- The status of a diagnostic is read as it is written. -/
theorem joinedText_status (h : c.IsExplained) :
    ∀ m ∈ c.messages, Json.joinedText (Value.intText m.1) = Value.intText m.1 := by
  rcases h with hnone | ⟨hint, hhint⟩
  · simp [hnone]
  · rw [hhint]
    cases hint <;> decide

end Config.IsExplained

/-! ## Documents that are read -/

namespace Json

/-- The members of a document that is read are its members, one by one. -/
theorem joinedMembers_eq_map (members : List (String × Json)) :
    joinedMembers members = members.map fun m => (joinedText m.1, joined m.2) := by
  induction members with
  | nil => rfl
  | cons m members ih => rw [joinedMembers, ih, List.map_cons]

/-- The document of a mapping has the mapping's members, one by one. -/
theorem ofMembers_eq_map (members : List (Value × Value)) :
    ofMembers members = members.map fun m => (keyText m.1, ofValue m.2) := by
  induction members with
  | nil => rfl
  | cons m members ih => rw [ofMembers, ih, List.map_cons]

end Json

namespace CommandLine

namespace Item

/-- Diagnostics are listed in the order of their statuses. -/
theorem inOrder_sorted (messages : List (Int × String)) :
    (inOrder messages).Pairwise fun m n => m.1 ≤ n.1 := by
  unfold inOrder
  refine (List.pairwise_mergeSort ?_ ?_ messages).imp (fun h => of_decide_eq_true h)
  · intro a b c hab hbc
    simp only [decide_eq_true_eq] at hab hbc ⊢
    exact le_trans hab hbc
  · intro a b
    simp only [Bool.or_eq_true, decide_eq_true_eq]
    exact le_total a.1 b.1

/-- Diagnostics with different statuses are listed once, the least status first. -/
theorem inOrder_pairwise {messages : List (Int × String)}
    (h : (messages.map Prod.fst).Nodup) : (inOrder messages).Pairwise fun m n => m.1 < n.1 := by
  have hdistinct : ((inOrder messages).map Prod.fst).Nodup :=
    ((inOrder_perm messages).map Prod.fst).nodup_iff.mpr h
  rw [List.Nodup, List.pairwise_map] at hdistinct
  exact (inOrder_sorted messages).imp₂ (fun _ _ hle hne => lt_of_le_of_ne hle hne) hdistinct

end Item

/-! ## Tables and documents -/

namespace Item

/-- Whether something that is shown is a table. -/
def isGrid : Item → Bool
  | grid _ _ _ => true
  | _ => false

/-- The title of the panel of diagnostics. -/
def diagnosticsTitle : String :=
  "Diagnostics"

/-- Whether something that is shown is a panel of diagnostics. -/
def isDiagnostics : Item → Bool
  | panel title _ => title == diagnosticsTitle
  | _ => false

end Item

/-- A table agrees with the members of a document if it has one row for each member but the
diagnostics, with the value that the record has under the same name. -/
structure RowsAgree (record : List (String × Value)) (members : List (String × Json))
    (rows : List (String × String)) : Prop where
  keys : rows.map Prod.fst = (members.map Prod.fst).filter (· ≠ Config.messagesName)
  nodup : (members.map Prod.fst).Nodup
  cells : ∀ row ∈ rows, ∃ v, (row.1, v) ∈ record ∧ (row.1, (Json.ofValue v).joined) ∈ members ∧
    row.2 = cell v

/-- A panel agrees with the diagnostics of a document if it has one line for each of them, the least
status first, and if it is missing just where there are none. -/
structure PanelsAgree (entries : List (String × Json)) (panels : List Item) : Prop where
  eq_nil_iff : panels = [] ↔ entries = []
  lines : ∀ panel ∈ panels, panels = [panel] ∧ ∃ listed : List (Int × String),
    listed.Pairwise (fun m n => m.1 < n.1) ∧
      (listed.map fun m => (Value.intText m.1, (Json.text m.2).joined)).Perm entries ∧
        panel = .panel Item.diagnosticsTitle ("\n".intercalate (listed.map Item.messageLine))

/-- What is shown as a table agrees with what is shown as a document if there is one table, which
agrees with the document, and at most one panel, which agrees with the document's diagnostics. -/
structure SaysTheSame (record : List (String × Value)) (members : List (String × Json))
    (items : List Item) : Prop where
  table : ∃ title columns rows, items.filter Item.isGrid = [.grid title columns rows] ∧
    RowsAgree record members rows
  diagnostics : ∃ entries, (Config.messagesName, Json.object entries) ∈ members ∧
    PanelsAgree entries (items.filter Item.isDiagnostics)

/-- A record as the members of a document that is read. -/
def membersOf (record : List (String × Value)) : List (String × Json) :=
  record.map fun entry => (entry.1, (Json.ofValue entry.2).joined)

variable {c : Config} {masked : Bool}

/-- The name of a field has no halves of pairs. -/
theorem joinedText_name (f : Field) : Json.joinedText f.name = f.name := by
  cases f <;> decide

/-- No field goes by the name of the diagnostics. -/
theorem name_ne_messagesName (f : Field) : f.name ≠ Config.messagesName := by
  cases f <;> decide

/-- The names in a record are those of the fields, and that of the diagnostics. -/
theorem map_fst_toRecord (c : Config) (masked : Bool) :
    (c.toRecord masked).map Prod.fst = Field.all.map Field.name ++ [Config.messagesName] := by
  unfold Config.toRecord
  simp

/-- A document that shows a configuration is read as the record of the configuration. -/
theorem joined_document (c : Config) (masked : Bool) :
    (Item.document c masked).joined = .object (membersOf (c.toRecord masked)) := by
  unfold Item.document membersOf
  rw [Json.joined, Json.joinedMembers_eq_map, List.map_map]
  refine congrArg Json.object (List.map_congr_left ?_)
  intro entry hentry
  have hname : Json.joinedText entry.1 = entry.1 := by
    have hmem := List.mem_map_of_mem (f := Prod.fst) hentry
    rw [map_fst_toRecord] at hmem
    rcases List.mem_append.mp hmem with hfield | hlast
    · obtain ⟨f, -, hf⟩ := List.mem_map.mp hfield
      rw [← hf, joinedText_name]
    · rw [List.mem_singleton.mp hlast]
      decide
  exact Prod.ext hname rfl

/-- The rows of the table of a configuration agree with its document. -/
theorem rowsAgree (c : Config) (masked : Bool) :
    RowsAgree (c.toRecord masked) (membersOf (c.toRecord masked))
      (Field.all.map fun f => (f.name, cell (c.shown masked f))) := by
  have hkeys : (membersOf (c.toRecord masked)).map Prod.fst =
      Field.all.map Field.name ++ [Config.messagesName] := by
    rw [membersOf, List.map_map, ← map_fst_toRecord c masked]
    rfl
  constructor
  · rw [hkeys, List.filter_append]
    have hfields : (Field.all.map Field.name).filter (· ≠ Config.messagesName) =
        Field.all.map Field.name := by
      refine List.filter_eq_self.mpr ?_
      intro name hname
      obtain ⟨f, -, rfl⟩ := List.mem_map.mp hname
      simpa using name_ne_messagesName f
    rw [hfields, List.map_map]
    simp [Function.comp_def]
  · rw [hkeys]
    decide
  · intro row hrow
    obtain ⟨f, hf, rfl⟩ := List.mem_map.mp hrow
    have hrecord : (f.name, c.shown masked f) ∈ c.toRecord masked :=
      List.mem_append_left _ (List.mem_map_of_mem hf)
    exact ⟨_, hrecord, List.mem_map_of_mem hrecord, rfl⟩

/-- The panel of diagnostics agrees with the diagnostics of the document if no two of them have one
status. -/
theorem panelsAgree {messages : List (Int × String)} (h : (messages.map Prod.fst).Nodup) :
    PanelsAgree (messages.map fun m => (Value.intText m.1, (Json.text m.2).joined))
      (Item.diagnostics messages) := by
  unfold Item.diagnostics
  cases hempty : messages.isEmpty with
  | true =>
    rw [List.isEmpty_iff.mp hempty]
    exact ⟨by simp, by simp⟩
  | false =>
    have hmessages : messages ≠ [] := by
      simpa using hempty
    refine ⟨by simp [hmessages], ?_⟩
    intro panel hpanel
    obtain rfl := List.mem_singleton.mp hpanel
    exact ⟨rfl, Item.inOrder messages, Item.inOrder_pairwise h,
      (Item.inOrder_perm messages).map _, rfl⟩

/-- The diagnostics of a configuration are the last member of its document. -/
theorem joined_messagesValue (h : c.IsExplained) :
    (Json.ofValue c.messagesValue).joined =
      .object (c.messages.map fun m => (Value.intText m.1, (Json.text m.2).joined)) := by
  unfold Config.messagesValue
  rw [Json.ofValue, Json.joined, Json.ofMembers_eq_map, Json.joinedMembers_eq_map, List.map_map,
    List.map_map]
  refine congrArg Json.object (List.map_congr_left ?_)
  intro m hm
  exact Prod.ext (h.joinedText_status m hm) rfl

/-- What is shown beside a table and its diagnostics is neither. -/
def IsAside (items : List Item) : Prop :=
  ∀ item ∈ items, item.isGrid = false ∧ item.isDiagnostics = false

/-- What is shown of a configuration as a table agrees with its document, whatever is shown before
and below the table. -/
theorem saysTheSame (h : c.IsExplained) {before below : List Item} (hbefore : IsAside before)
    (hbelow : IsAside below) :
    SaysTheSame (c.toRecord masked) (membersOf (c.toRecord masked))
      (before ++ .table c masked :: (below ++ Item.diagnostics c.messages)) := by
  have hgrids : ∀ {items}, IsAside items → items.filter Item.isGrid = [] := by
    intro items haside
    exact List.filter_eq_nil_iff.mpr fun item hitem => by simp [(haside item hitem).1]
  have hpanels : ∀ {items}, IsAside items → items.filter Item.isDiagnostics = [] := by
    intro items haside
    exact List.filter_eq_nil_iff.mpr fun item hitem => by simp [(haside item hitem).2]
  constructor
  · refine ⟨"Resolved Client Configuration", ["Setting", "Value"], _, ?_, rowsAgree c masked⟩
    have hlast : (Item.diagnostics c.messages).filter Item.isGrid = [] := by
      unfold Item.diagnostics
      split <;> rfl
    rw [List.filter_append, hgrids hbefore, List.nil_append,
      List.filter_cons_of_pos (by rfl), List.filter_append, hgrids hbelow, hlast]
    rfl
  · refine ⟨c.messages.map fun m => (Value.intText m.1, (Json.text m.2).joined), ?_, ?_⟩
    · have hrecord : (Config.messagesName, c.messagesValue) ∈ c.toRecord masked :=
        List.mem_append_right _ (List.mem_singleton.mpr rfl)
      have hmember := List.mem_map_of_mem (f := fun entry : String × Value =>
        (entry.1, (Json.ofValue entry.2).joined)) hrecord
      rw [joined_messagesValue h] at hmember
      exact hmember
    · have hlast : (Item.diagnostics c.messages).filter Item.isDiagnostics =
          Item.diagnostics c.messages := by
        unfold Item.diagnostics
        split <;> rfl
      rw [List.filter_append, hpanels hbefore, List.nil_append,
        List.filter_cons_of_neg (by simp [Item.table, Item.isDiagnostics]), List.filter_append,
        hpanels hbelow, List.nil_append, hlast]
      exact panelsAgree h.nodup

/-! ## Runs that show a table and a document -/

/-- Two runs end alike if both end well or both end with the same failure. -/
def Report.EndAlike (r r' : Report) : Prop :=
  (r.ending = .exit 0 ∧ r'.ending = .exit 0) ∨
    ∃ failure, r.ending = .failed failure ∧ r'.ending = .failed failure

namespace Options

/-- Switches ask in vain for the path of the kubeconfig file: they do not turn the file off, but a
setting does, so that there is a configuration although the path cannot be told. -/
def AsksInVain (o : Options) (w : World) : Prop :=
  o.noKubeconfig = false ∧ (o.world w).wants Settings.tryKubeconfig = false ∧
    (∃ c, (o.resolve w).outcome = .ok c) ∧
      ∃ failure, Resolve.kubeconfigPath (o.world w).settings w.home = .error failure

/-- The switches with the one for a document, or without it. -/
def withJson (o : Options) (json : Bool) : Options :=
  { o with json }

end Options

section Runs

variable {o : Options} {w : World}

/-- Where there is a configuration although the path of the kubeconfig file cannot be told, the file
is turned off. -/
theorem not_wants_of_kubeconfigPath {failure : Failure} {c : Config}
    (hc : (o.resolve w).outcome = .ok c)
    (hpath : Resolve.kubeconfigPath (o.world w).settings w.home = .error failure) :
    (o.world w).wants Settings.tryKubeconfig = false := by
  obtain ⟨d₀, d₁, d₂, -, -, h₂, -⟩ := Resolve.resolve_eq_ok_iff.mp hc
  by_contra hwants
  rw [Bool.not_eq_false] at hwants
  obtain ⟨path, hknown, -⟩ := (Resolve.exists_consulted_iff _ _ d₁).mp ⟨d₂, h₂⟩ hwants
  have hhome : (o.world w).home = w.home := rfl
  rw [hhome, hpath] at hknown
  cases hknown

/-- Where the kubeconfig file is turned off and the token of the service account has a path that a
file can have, there is a configuration. -/
theorem exists_outcome_of_not_wants (hmount : (Path.ofText w.mount.tokenPath).hasBadName = false)
    (hwants : (o.world w).wants Settings.tryKubeconfig = false) :
    ∃ c, (o.resolve w).outcome = .ok c := by
  have hwants' : ¬(o.asEnvironment w).wants Settings.tryKubeconfig = true := by
    have hget : (o.asEnvironment w).settings.get Settings.tryKubeconfig =
        (o.world w).settings.get Settings.tryKubeconfig :=
      o.get_asEnvironment_of_mem w (by simp)
    unfold World.wants at hwants ⊢
    rw [Settings.flag_congr hget, hwants]
    simp
  obtain ⟨d₀, h₀⟩ := @Resolve.exists_accept [] (by simp)
  obtain ⟨d₁, h₁⟩ := (Resolve.exists_mounted_iff (o.asEnvironment w)
    (Resolve.seed (o.asEnvironment w).settings d₀).value).mpr fun _ => hmount
  obtain ⟨d₂, h₂⟩ := (Resolve.exists_consulted_iff (o.asEnvironment w) .fresh d₁).mpr
    fun h => absurd h hwants'
  have hnodup : (([] : List (String × Value)).map Prod.fst).Nodup := List.nodup_nil
  have hsupplied := Resolve.supplied_of_stages hnodup h₀ h₁ h₂
  obtain ⟨c, hc⟩ : ∃ c, Resolve.finish d₂ = .ok c := by
    refine Resolve.exists_finish ?_ ?_
    · rw [hsupplied]
      exact Resolve.exists_text_supplied .fresh (isText_asEnvironment o w) (.inl rfl)
    · rw [hsupplied]
      exact Resolve.exists_list_supplied _ .fresh (.inl rfl)
  rw [o.resolve_asEnvironment w]
  exact ⟨c, Resolve.resolve_eq_ok_iff.mpr ⟨d₀, d₁, d₂, h₀, h₁, h₂, hc⟩⟩

/-- A command line that shows a configuration is an inspection. -/
theorem run_of_showing {arguments : List String}
    (h : Invocation.ofArguments arguments = .ok ⟨o, .showing⟩) :
    run w arguments = inspect o w .showing := by
  cases arguments with
  | nil =>
    have hempty : Invocation.ofArguments [] = .ok ⟨.none, .unnamed⟩ := rfl
    rw [hempty] at h
    cases h
  | cons argument arguments => exact run_of_ok h

/-- The document of a configuration is shown, and the run ends well. -/
theorem inspect_document {c : Config} (hc : (o.resolve w).outcome = .ok c) :
    (inspect (o.withJson true) w .showing).items = [.documentText c (!o.showSecrets)] ∧
      (inspect (o.withJson true) w .showing).ending = .exit 0 := by
  have hsame : ((o.withJson true).resolve w).outcome = .ok c := hc
  obtain ⟨hitems, hending⟩ := inspect_of_ok .showing hsame
  rw [hitems, hending]
  exact ⟨rfl, rfl⟩

/-- What is shown of a configuration as a table, and how that ends. -/
theorem act_table (o : Options) (w : World) (c : Config) :
    act (o.withJson false) w c .showing =
      if o.noKubeconfig then
        (.header "Resolved Configuration" :: .table c (!o.showSecrets) ::
          Item.diagnostics c.messages, .exit 0)
      else
        match Resolve.kubeconfigPath (o.world w).settings w.home with
        | .ok path =>
          (.header "Resolved Configuration" :: .table c (!o.showSecrets) ::
            .source path.toText :: Item.diagnostics c.messages, .exit 0)
        | .error failure => ([.header "Resolved Configuration"], .failed failure) :=
  rfl

/-- The table of a configuration is shown, and the run ends well, unless the path of the kubeconfig
file is asked for and cannot be told. -/
theorem inspect_table {c : Config} (hc : (o.resolve w).outcome = .ok c)
    (hpath : o.noKubeconfig = true ∨
      ∃ path, Resolve.kubeconfigPath (o.world w).settings w.home = .ok path) :
    (inspect (o.withJson false) w .showing).ending = .exit 0 ∧
      ∃ before below, IsAside before ∧ IsAside below ∧
        (inspect (o.withJson false) w .showing).items =
          before ++ .table c (!o.showSecrets) :: (below ++ Item.diagnostics c.messages) := by
  have hsame : ((o.withJson false).resolve w).outcome = .ok c := hc
  obtain ⟨hitems, hending⟩ := inspect_of_ok .showing hsame
  have hhead : IsAside [Item.header "Resolved Configuration"] := by
    simp [IsAside, Item.header, Item.isGrid, Item.isDiagnostics, Item.diagnosticsTitle]
  rw [hitems, hending, act_table]
  cases hasks : o.noKubeconfig with
  | true => exact ⟨rfl, _, [], hhead, by simp [IsAside], rfl⟩
  | false =>
    obtain ⟨path, hknown⟩ := hpath.resolve_left (by simp [hasks])
    rw [hknown]
    refine ⟨rfl, _, [Item.source path.toText], hhead, ?_, rfl⟩
    simp [IsAside, Item.source, Item.isGrid, Item.isDiagnostics]

/-- The run that shows a table fails where the path of the kubeconfig file is asked for and cannot
be told. -/
theorem inspect_table_of_error {c : Config} (hc : (o.resolve w).outcome = .ok c)
    (hasks : o.noKubeconfig = false) {failure : Failure}
    (hpath : Resolve.kubeconfigPath (o.world w).settings w.home = .error failure) :
    (inspect (o.withJson false) w .showing).ending = .failed failure := by
  have hsame : ((o.withJson false).resolve w).outcome = .ok c := hc
  rw [(inspect_of_ok .showing hsame).2, act_table, hasks, hpath]
  rfl

/-- Where the run that shows a table ends well, the path of the kubeconfig file is not asked for, or
it can be told. -/
theorem kubeconfigPath_of_inspect_table {c : Config} (hc : (o.resolve w).outcome = .ok c)
    (hended : (inspect (o.withJson false) w .showing).ending = .exit 0) :
    o.noKubeconfig = true ∨
      ∃ path, Resolve.kubeconfigPath (o.world w).settings w.home = .ok path := by
  cases hasks : o.noKubeconfig with
  | true => exact .inl rfl
  | false =>
    cases hpath : Resolve.kubeconfigPath (o.world w).settings w.home with
    | ok path => exact .inr ⟨path, rfl⟩
    | error failure =>
      rw [inspect_table_of_error hc hasks hpath] at hended
      cases hended

/-- Runs that show a configuration as a table and as a document end alike, unless the table asks in
vain for a path. -/
theorem endAlike_inspect_iff :
    (inspect (o.withJson false) w .showing).EndAlike (inspect (o.withJson true) w .showing) ↔
      ¬o.AsksInVain w := by
  unfold Report.EndAlike Options.AsksInVain
  cases hc : (o.resolve w).outcome with
  | error failure =>
    have htable : ((o.withJson false).resolve w).outcome = .error failure := hc
    have hdocument : ((o.withJson true).resolve w).outcome = .error failure := hc
    refine iff_of_true (.inr ⟨failure, ending_inspect_of_error .showing htable,
      ending_inspect_of_error .showing hdocument⟩) ?_
    rintro ⟨-, -, ⟨c, hc'⟩, -⟩
    cases hc'
  | ok c =>
    have hdocument := (inspect_document hc).2
    rw [hdocument]
    cases hpath : Resolve.kubeconfigPath (o.world w).settings w.home with
    | ok path =>
      refine iff_of_true (.inl ⟨(inspect_table hc (.inr ⟨path, hpath⟩)).1, rfl⟩) ?_
      rintro ⟨-, -, -, failure, hfailure⟩
      cases hfailure
    | error failure =>
      cases hasks : o.noKubeconfig with
      | true =>
        refine iff_of_true (.inl ⟨(inspect_table hc (.inl hasks)).1, rfl⟩) ?_
        rintro ⟨h, -⟩
        cases h
      | false =>
        rw [inspect_table_of_error hc hasks hpath]
        refine iff_of_false ?_ ?_
        · rintro (⟨h, -⟩ | ⟨other, -, h⟩)
          · cases h
          · cases h
        · intro h
          exact h ⟨rfl, not_wants_of_kubeconfigPath hc hpath, ⟨c, rfl⟩, failure, rfl⟩

/-- A table and a document of one configuration agree. Two command lines that differ only in asking
for a document end alike, unless the table asks in vain for the path of a kubeconfig file that a
setting turns off. Where the table is shown the document is, and both say the same. -/
theorem renderings_agree_iff {asTable asDocument : List String}
    (htable : Invocation.ofArguments asTable = .ok ⟨o.withJson false, .showing⟩)
    (hdocument : Invocation.ofArguments asDocument = .ok ⟨o.withJson true, .showing⟩) :
    ((run w asTable).EndAlike (run w asDocument) ↔ ¬o.AsksInVain w) ∧
      ((run w asTable).ending = .exit 0 →
        ∃ c text members, (o.resolve w).outcome = .ok c ∧ (run w asDocument).ending = .exit 0 ∧
          (run w asDocument).items = [.json text] ∧ Json.parse? text = some (.object members) ∧
            SaysTheSame (c.toRecord (!o.showSecrets)) members (run w asTable).items) := by
  rw [run_of_showing htable, run_of_showing hdocument]
  refine ⟨endAlike_inspect_iff, ?_⟩
  intro hended
  cases hc : (o.resolve w).outcome with
  | error failure =>
    have hfailed : ((o.withJson false).resolve w).outcome = .error failure := hc
    rw [ending_inspect_of_error .showing hfailed] at hended
    cases hended
  | ok c =>
    have hpath := kubeconfigPath_of_inspect_table hc hended
    obtain ⟨-, before, below, hbefore, hbelow, hitems⟩ := inspect_table hc hpath
    obtain ⟨hshown, hending⟩ := inspect_document hc
    have hsettings := hc
    rw [o.resolve_asEnvironment w] at hsettings
    have hparse := Json.parse?_pretty
      (isWhole_document (isText_asEnvironment o w) hsettings (!o.showSecrets))
    rw [joined_document] at hparse
    refine ⟨c, _, _, rfl, hending, hshown, hparse, ?_⟩
    rw [hitems]
    exact saysTheSame (Resolve.isExplained hc) hbefore hbelow

end Runs

/-- With a mounted service account, the table and the document say the same. -/
theorem renderings_agree_iff_sample :
    (run worldOfToken ["show"]).EndAlike (run worldOfToken ["show", "--json"]) ∧
      ∃ record text members, (run worldOfToken ["show", "--json"]).items = [.json text] ∧
        Json.parse? text = some (.object members) ∧
          SaysTheSame record members (run worldOfToken ["show"]).items := by
  obtain ⟨halike, hshows⟩ := @renderings_agree_iff Options.none worldOfToken ["show"]
    ["show", "--json"] (by decide) (by decide)
  have hended : (run worldOfToken ["show"]).ending = .exit 0 := by
    decide +kernel
  obtain ⟨c, text, members, -, -, hitems, hparse, hsame⟩ := hshows hended
  refine ⟨halike.mpr ?_, _, text, members, hitems, hparse, hsame⟩
  rintro ⟨-, hwants, -⟩
  revert hwants
  decide

/-- A world where the kubeconfig file is that of an account that there is not, and is turned off. -/
def worldTurnedOff : World where
  settings :=
    { properties := []
      environ :=
        [("KUBECONFIG", "~nosuchuser/config"), ("KUBERNETES_AUTH_TRYKUBECONFIG", "false")] }
  files := fun _ => .missing
  home := Resolve.homesOfNobody
  mount := ⟨"sa/token", "sa/ca.crt"⟩

/-- Where the kubeconfig file is turned off by a setting, the document is shown and the table is not
if the path of the file cannot be told. -/
theorem renderings_disagree :
    ¬(run worldTurnedOff ["show"]).EndAlike (run worldTurnedOff ["show", "--json"]) := by
  have htable : Invocation.ofArguments ["show"] = .ok ⟨Options.none.withJson false, .showing⟩ := by
    decide
  have hdocument : Invocation.ofArguments ["show", "--json"] =
      .ok ⟨Options.none.withJson true, .showing⟩ := by
    decide
  have hwants : (Options.none.world worldTurnedOff).wants Settings.tryKubeconfig = false := by
    decide
  have hpath : Resolve.kubeconfigPath (Options.none.world worldTurnedOff).settings
      worldTurnedOff.home = .error .noHome := by
    decide
  rw [run_of_showing htable, run_of_showing hdocument, endAlike_inspect_iff, not_not]
  exact ⟨rfl, hwants, exists_outcome_of_not_wants (by decide) hwants, _, hpath⟩

end CommandLine

end ClusterConfig
