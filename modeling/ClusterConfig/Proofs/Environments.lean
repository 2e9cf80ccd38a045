import ClusterConfig.CommandLine.Inspection
import ClusterConfig.Proofs.Failures
import ClusterConfig.Proofs.Lookups

/-!
# Switches as variables of the environment

The switches of a command line reach resolution in two ways: the server and the namespace as a
caller's own values, the rest as properties. A program without switches can be told all of it by
variables of its environment, and then resolves alike.

Main definitions:

- `Options.assignments`: the variables that say what switches say.
- `Options.asEnvironment`: a world that has them in the place of switches and properties.

Main results:

- Theorem `get_asEnvironment`: what a setting comes to in that world.
- Theorem `seed_asEnvironment`: the caller's values and the settings make the same draft.
- Theorem `resolve_asEnvironment`: resolution comes to the same.
-/

namespace ClusterConfig

/-- Where no two entries have one name, only the entry of a name decides whether the name is left
out. -/
theorem lookup_filter_of_nodup {α : Type} {entries : List (String × α)}
    (h : (entries.map Prod.fst).Nodup) (keep : α → Bool) (name : String) :
    (entries.filter fun entry => keep entry.2).lookup name = (entries.lookup name).filter keep := by
  induction entries with
  | nil => rfl
  | cons entry entries ih =>
    obtain ⟨key, a⟩ := entry
    rw [List.map_cons, List.nodup_cons] at h
    have hrest := ih h.2
    by_cases hname : name = key
    · subst hname
      rw [lookup_eq_none_of_not_mem h.1] at hrest
      cases hkeep : keep a <;> simp [Option.filter, hkeep, hrest]
    · have hbeq : (name == key) = false := beq_false_of_ne hname
      cases hkeep : keep a <;> simp [List.lookup_cons, hkeep, hbeq, hrest]

/-- An entry that is there under a condition is found under its name where the condition holds. -/
theorem lookup_optional_append {α : Type} (p : Prop) [Decidable p] (key : String) (a : α)
    (rest : List (String × α)) (name : String) :
    ((if p then [(key, a)] else []) ++ rest).lookup name =
      if name = key ∧ p then some a else rest.lookup name := by
  by_cases hp : p <;> by_cases hname : name = key <;>
    simp [hp, hname, List.lookup_cons, beq_false_of_ne]

namespace Settings

/-! ## Several variables -/

/-- The settings with variables that take the place of others of their names. -/
def withVariables (s : Settings) (entries : List (String × String)) : Settings :=
  entries.foldr (fun v s => s.withVariable v.1 v.2) s

variable (s : Settings) (entries : List (String × String))

@[simp]
theorem properties_withVariables : (s.withVariables entries).properties = s.properties := by
  induction entries with
  | nil => rfl
  | cons v entries ih => exact ih

@[simp]
theorem digitLimit_withVariables : (s.withVariables entries).digitLimit = s.digitLimit := by
  induction entries with
  | nil => rfl
  | cons v entries ih => exact ih

/-- A variable is looked up among the new ones first. -/
theorem lookup_withVariables (name : String) :
    (s.withVariables entries).environ.lookup name =
      (entries.lookup name).or (s.environ.lookup name) := by
  induction entries with
  | nil => rfl
  | cons v entries ih =>
    have hassign : (s.withVariables (v :: entries)).environ =
        Session.assign (s.withVariables entries).environ v.1 (some v.2) := rfl
    rw [hassign, List.lookup_cons]
    by_cases hname : name = v.1
    · subst hname
      simp [Session.lookup_assign_self]
    · rw [Session.lookup_assign_of_ne _ hname, ih, beq_false_of_ne hname]

/-- The settings without properties. -/
def bare (s : Settings) : Settings :=
  { s with properties := [] }

/-- A setting without a property is what the environment says. -/
theorem get_eq_get_bare {s : Settings} {name : String} (h : s.properties.lookup name = none) :
    s.get name = s.bare.get name :=
  get_congr h rfl

/-- A variable that is not empty is the value of its setting, and the environment counts for the
others. -/
theorem get_bare_withVariables {entries : List (String × String)}
    (h : ∀ v ∈ entries, v.2 ≠ "") (s : Settings) (name : String) :
    (s.bare.withVariables entries).get name =
      ((entries.lookup (variableName name)).map Value.text).getD (s.bare.get name) := by
  have hproperty : (s.bare.withVariables entries).properties.lookup name = none := by
    rw [properties_withVariables]
    rfl
  unfold get
  rw [hproperty, lookup_withVariables]
  cases hvariable : entries.lookup (variableName name) with
  | none => rfl
  | some text =>
    have htext : text ≠ "" := h _ (mem_of_lookup_eq_some hvariable)
    simp [isAbsent, htext]

end Settings

namespace CommandLine.Options

/-! ## What switches say -/

/-- The variables that say what switches can say, with the texts that these switches give; the empty
text says nothing. -/
def sayings (o : Options) : List (String × String) :=
  [("KUBECONFIG", o.kubeconfig), ("KUBERNETES_MASTER", o.master),
    ("KUBERNETES_NAMESPACE", o.namespaceName),
    ("KUBERNETES_AUTH_TRYSERVICEACCOUNT", if o.noServiceAccount then "false" else ""),
    ("KUBERNETES_AUTH_TRYKUBECONFIG", if o.noKubeconfig then "false" else "")]

/-- The variables of the environment that say what switches say. -/
def assignments (o : Options) : List (String × String) :=
  o.sayings.filter fun saying => saying.2 ≠ ""

/-- The world of a program without switches and properties whose environment says the same. -/
def asEnvironment (o : Options) (w : World) : World :=
  { w with settings := w.settings.bare.withVariables o.assignments }

/-- The settings whose variables say what switches can say. -/
def sayingNames : List String :=
  [Settings.kubeconfig, "kubernetes.master", "kubernetes.namespace", Settings.tryServiceAccount,
    Settings.tryKubeconfig]

/-- The variables are those of the settings. -/
theorem map_variableName_sayingNames :
    sayingNames.map variableName = ["KUBECONFIG", "KUBERNETES_MASTER", "KUBERNETES_NAMESPACE",
      "KUBERNETES_AUTH_TRYSERVICEACCOUNT", "KUBERNETES_AUTH_TRYKUBECONFIG"] := by
  simp only [sayingNames, Settings.kubeconfig, Settings.tryServiceAccount, Settings.tryKubeconfig,
    List.map_cons, List.map_nil]
  repeat rw [Settings.variableName_ofList]
  rfl

theorem map_fst_sayings (o : Options) : o.sayings.map Prod.fst = sayingNames.map variableName := by
  rw [map_variableName_sayingNames]
  rfl

/-- Of what can be said, a variable has what is said and not empty. -/
theorem lookup_assignments (o : Options) (name : String) :
    o.assignments.lookup name = (o.sayings.lookup name).filter fun text => text ≠ "" := by
  refine lookup_filter_of_nodup ?_ (fun text => decide (text ≠ "")) name
  rw [map_fst_sayings, map_variableName_sayingNames]
  decide

/-- Nothing is said by other variables. -/
theorem lookup_assignments_eq_none {o : Options} {name : String}
    (h : name ∉ sayingNames.map variableName) : o.assignments.lookup name = .none := by
  have hnone : o.sayings.lookup name = .none := by
    rw [List.lookup_eq_none_iff]
    intro saying hsaying
    have hmem : saying.1 ∈ sayingNames.map variableName := by
      rw [← map_fst_sayings o]
      exact List.mem_map_of_mem hsaying
    have hne : name ≠ saying.1 := fun heq => h (heq ▸ hmem)
    simpa using hne
  rw [lookup_assignments, hnone]
  rfl

/-- What is found among the properties that switches set. -/
theorem lookup_properties (o : Options) (name : String) :
    o.properties.lookup name =
      if name = Settings.kubeconfig ∧ o.kubeconfig ≠ "" then some (.text o.kubeconfig)
      else if name = Settings.tryServiceAccount ∧ o.noServiceAccount then some (.text "false")
      else if name = Settings.tryKubeconfig ∧ o.noKubeconfig then some (.text "false")
      else .none := by
  have hproperties : o.properties =
      (if o.kubeconfig ≠ "" then [(Settings.kubeconfig, Value.text o.kubeconfig)] else []) ++
        ((if o.noServiceAccount then [(Settings.tryServiceAccount, Value.text "false")] else []) ++
          ((if o.noKubeconfig then [(Settings.tryKubeconfig, Value.text "false")] else []) ++
            [])) := by
    simp [properties]
  rw [hproperties, lookup_optional_append, lookup_optional_append, lookup_optional_append]
  rfl

/-- A property says what the variable of its setting says. -/
theorem lookup_properties_of_mem {o : Options} {name : String}
    (h : name ∈ [Settings.kubeconfig, Settings.tryServiceAccount, Settings.tryKubeconfig]) :
    o.properties.lookup name = (o.assignments.lookup (variableName name)).map Value.text := by
  have hnames := map_variableName_sayingNames
  simp only [sayingNames, List.map_cons, List.map_nil, List.cons.injEq, and_true] at hnames
  obtain ⟨hkubeconfig, -, -, haccount, htry⟩ := hnames
  simp only [List.mem_cons, List.not_mem_nil, or_false] at h
  rw [lookup_properties, lookup_assignments]
  rcases h with rfl | rfl | rfl
  · have hsaying : o.sayings.lookup "KUBECONFIG" = some o.kubeconfig := rfl
    rw [hkubeconfig, hsaying]
    by_cases hpath : o.kubeconfig = "" <;>
      simp [Option.filter, hpath, Settings.kubeconfig, Settings.tryServiceAccount,
        Settings.tryKubeconfig]
  · have hsaying : o.sayings.lookup "KUBERNETES_AUTH_TRYSERVICEACCOUNT" =
        some (if o.noServiceAccount then "false" else "") := rfl
    rw [haccount, hsaying]
    cases o.noServiceAccount <;>
      simp [Option.filter, Settings.kubeconfig, Settings.tryServiceAccount, Settings.tryKubeconfig]
  · have hsaying : o.sayings.lookup "KUBERNETES_AUTH_TRYKUBECONFIG" =
        some (if o.noKubeconfig then "false" else "") := rfl
    rw [htry, hsaying]
    cases o.noKubeconfig <;>
      simp [Option.filter, Settings.kubeconfig, Settings.tryServiceAccount, Settings.tryKubeconfig]

/-- Where no property can be set, none is. -/
theorem lookup_properties_eq_none {o : Options} {name : String}
    (h : name ∉ [Settings.tryServiceAccount, Settings.tryKubeconfig, Settings.kubeconfig]) :
    o.properties.lookup name = .none := by
  simp only [List.mem_cons, List.not_mem_nil, or_false, not_or] at h
  simp [lookup_properties, h]

/-! ## Settings as switches and as variables have them -/

variable (o : Options) (w : World)

/-- A setting of a program with switches is its property or else what the environment says. -/
theorem get_world (name : String) :
    (o.world w).settings.get name =
      (o.properties.lookup name).getD (w.settings.bare.get name) := by
  cases hproperty : o.properties.lookup name with
  | none => exact Settings.get_eq_get_bare hproperty
  | some v =>
    refine Settings.get_of_property hproperty ?_
    rw [lookup_properties] at hproperty
    split at hproperty
    · rename_i hpath
      obtain rfl := Option.some.inj hproperty
      simpa [Settings.isAbsent] using hpath.2
    · split at hproperty
      · obtain rfl := Option.some.inj hproperty
        rfl
      · split at hproperty
        · obtain rfl := Option.some.inj hproperty
          rfl
        · cases hproperty

/-- A setting of a program whose environment says what switches say is what they say there, or else
what the environment said before. -/
theorem get_asEnvironment (name : String) :
    (o.asEnvironment w).settings.get name =
      ((o.assignments.lookup (variableName name)).map Value.text).getD
        (w.settings.bare.get name) := by
  refine Settings.get_bare_withVariables ?_ w.settings name
  intro saying hsaying
  simpa using (List.mem_filter.mp hsaying).2

/-- The settings that say where to look are the same either way. -/
theorem get_asEnvironment_of_mem {name : String}
    (h : name ∈ [Settings.kubeconfig, Settings.tryServiceAccount, Settings.tryKubeconfig]) :
    (o.asEnvironment w).settings.get name = (o.world w).settings.get name := by
  rw [get_asEnvironment, get_world, lookup_properties_of_mem h]

/-- So are the fields other than the address of the server and the namespace. -/
theorem field_asEnvironment_of_ne {f : Field} (hmaster : f ≠ .masterUrl)
    (hnamespace : f ≠ .namespaceName) :
    (o.asEnvironment w).settings.field f = (o.world w).settings.field f := by
  refine Settings.field_congr (Settings.digitLimit_withVariables _ _) ?_
  intro name hname
  have hwhere := Settings.not_mem_of_mem_settings hname
  have hother : ∀ g : Field, g ≠ f → name ∉ g.settings :=
    fun g hg hmem => hg (Settings.eq_of_mem_settings hmem hname)
  have hmem := Settings.mem_names_of_mem_settings hname
  have hnone : variableName name ∉ sayingNames.map variableName := by
    intro hvariable
    obtain ⟨saying, hsaying, heq⟩ := List.mem_map.mp hvariable
    have hnames : ∀ saying ∈ sayingNames, saying ∈ Settings.names := by
      decide
    obtain rfl := Settings.eq_of_variableName_eq (hnames saying hsaying) hmem heq
    simp only [sayingNames, List.mem_cons, List.not_mem_nil, or_false] at hsaying
    rcases hsaying with rfl | rfl | rfl | rfl | rfl
    · exact hwhere (by simp)
    · exact hother .masterUrl hmaster.symm (by simp [Field.settings])
    · exact hother .namespaceName hnamespace.symm (by simp [Field.settings])
    · exact hwhere (by simp)
    · exact hwhere (by simp)
  rw [get_asEnvironment, get_world, lookup_assignments_eq_none hnone,
    lookup_properties_eq_none hwhere]
  rfl

/-- What a caller gives through switches. -/
theorem given_explicit (f : Field) :
    Draft.given o.explicit f =
      if f = .masterUrl ∧ o.master ≠ "" then .text o.master
      else if f = .namespaceName ∧ o.namespaceName ≠ "" then .text o.namespaceName
      else .null := by
  have hname : ∀ g : Field, f.name = g.name ↔ f = g :=
    fun g => ⟨Field.name_injective, congrArg Field.name⟩
  have hexplicit : o.explicit =
      (if o.master ≠ "" then [(Field.masterUrl.name, Value.text o.master)] else []) ++
        ((if o.namespaceName ≠ "" then [(Field.namespaceName.name, Value.text o.namespaceName)]
          else []) ++ []) := by
    simp [explicit]
  rw [Draft.given, hexplicit, lookup_optional_append, lookup_optional_append]
  simp only [hname]
  split_ifs <;> rfl

/-- A setting that no property says is what its variable says, or else what it was before. -/
theorem get_asEnvironment_of_saying {name text : String}
    (hname : name ∉ [Settings.tryServiceAccount, Settings.tryKubeconfig, Settings.kubeconfig])
    (hsaying : o.sayings.lookup (variableName name) = some text) :
    (o.asEnvironment w).settings.get name =
      if text = "" then (o.world w).settings.get name else .text text := by
  rw [get_asEnvironment, get_world, lookup_properties_eq_none hname, lookup_assignments, hsaying]
  by_cases htext : text = "" <;> simp [Option.filter, htext]

/-- A field has from the environment what a caller or the settings have for it. -/
theorem field_asEnvironment (f : Field) :
    ((o.asEnvironment w).settings.field f).value =
      (Draft.given o.explicit f).orElse ((o.world w).settings.field f).value := by
  have hnames := map_variableName_sayingNames
  simp only [sayingNames, List.map_cons, List.map_nil, List.cons.injEq, and_true] at hnames
  obtain ⟨-, hmasterName, hnamespaceName, -, -⟩ := hnames
  by_cases hmaster : f = .masterUrl
  · subst hmaster
    have hfield : ∀ s : Settings, (s.field .masterUrl).value = s.get "kubernetes.master" :=
      fun s => Value.orElse_null (s.get "kubernetes.master")
    have hsaying : o.sayings.lookup (variableName "kubernetes.master") = some o.master := by
      rw [hmasterName]
      rfl
    rw [hfield, hfield, get_asEnvironment_of_saying o w (by decide) hsaying, given_explicit]
    by_cases htext : o.master = "" <;> simp [htext, Value.orElse_of_ne_null]
  by_cases hnamespace : f = .namespaceName
  · subst hnamespace
    have hfield : ∀ s : Settings, (s.field .namespaceName).value = s.get "kubernetes.namespace" :=
      fun s => Value.orElse_null (s.get "kubernetes.namespace")
    have hsaying : o.sayings.lookup (variableName "kubernetes.namespace") =
        some o.namespaceName := by
      rw [hnamespaceName]
      rfl
    rw [hfield, hfield, get_asEnvironment_of_saying o w (by decide) hsaying, given_explicit]
    by_cases htext : o.namespaceName = "" <;> simp [htext, Value.orElse_of_ne_null]
  · have hnone : Draft.given o.explicit f = .null := by
      simp [given_explicit, hmaster, hnamespace]
    rw [field_asEnvironment_of_ne o w hmaster hnamespace, hnone, Value.null_orElse]

/-- Switches give values to known fields. -/
theorem isSome_ofName?_of_mem_explicit :
    ∀ entry ∈ o.explicit, (Field.ofName? entry.1).isSome = true := by
  intro entry hentry
  simp only [explicit, List.mem_append] at hentry
  rcases hentry with hmaster | hnamespace
  · split at hmaster
    · cases hmaster
    · obtain rfl := List.mem_singleton.mp hmaster
      simp
  · split at hnamespace
    · cases hnamespace
    · obtain rfl := List.mem_singleton.mp hnamespace
      simp

/-- A resolution with switches is the stages that start from what they give. -/
theorem outcome_resolve :
    (o.resolve w).outcome =
      (Resolve.mounted (o.world w) (Resolve.seed (o.world w).settings
        (Draft.empty.fill (Draft.knownValues o.explicit)).1).value).bind
          fun d => (Resolve.consulted (o.world w) .fresh d).bind Resolve.finish :=
  Resolve.outcome_resolve_of_known o.isSome_ofName?_of_mem_explicit

theorem nodup_explicit : (o.explicit.map Prod.fst).Nodup := by
  unfold explicit
  split <;> split <;> simp [Field.name]

/-- A caller and the settings make the draft that the environment makes alone. -/
theorem seed_asEnvironment {d : Draft} (h : Resolve.accept o.explicit = .ok d) :
    (Resolve.seed (o.asEnvironment w).settings .empty).value =
      (Resolve.seed (o.world w).settings d).value := by
  refine Draft.eq_of_fields ?_ ?_ ?_
  · intro f
    rw [Resolve.values_seed, Resolve.values_seed, Resolve.values_accept h o.nodup_explicit,
      Draft.values_empty, Value.null_orElse, field_asEnvironment]
  · rw [Resolve.messages_seed, Resolve.messages_seed, Resolve.messages_accept h]
    rfl
  · rw [Resolve.eq_of_accept h]
    simp only [Resolve.seed, Draft.spares_fill]

/-- Switches come to the same as an environment that says what they say. -/
theorem resolve_asEnvironment :
    (o.resolve w).outcome = (ClusterConfig.resolve (o.asEnvironment w) .fresh []).outcome := by
  obtain ⟨d, hd⟩ := Resolve.exists_accept o.isSome_ofName?_of_mem_explicit
  have hempty : Resolve.accept [] = .ok .empty := by
    obtain ⟨d₀, hd₀⟩ := @Resolve.exists_accept [] (by simp)
    rw [hd₀, Resolve.eq_of_accept hd₀]
    rfl
  have hmounted : ∀ d, Resolve.mounted (o.world w) d = Resolve.mounted (o.asEnvironment w) d :=
    Resolve.mounted_congr w (o.get_asEnvironment_of_mem w (by simp)).symm
  have hconsulted : ∀ d,
      Resolve.consulted (o.world w) .fresh d = Resolve.consulted (o.asEnvironment w) .fresh d :=
    Resolve.consulted_congr w (o.get_asEnvironment_of_mem w (by simp)).symm
      (o.get_asEnvironment_of_mem w (by simp)).symm .fresh
  rw [Options.resolve, Resolve.outcome_resolve, Resolve.outcome_resolve, hd, hempty]
  simp only [Except.bind, o.seed_asEnvironment w hd, hmounted, hconsulted]

end CommandLine.Options

end ClusterConfig
