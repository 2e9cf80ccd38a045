import ClusterConfig.Proofs.Stages
import ClusterConfig.Session
import Mathlib.Data.List.Nodup
import Mathlib.Data.List.Pairwise

/-!
# Settings that are looked up

A reading of the settings depends on them only through the names that it looks up. Two settings that
agree on those names are read alike, whatever else they hold; and what is assigned to one name
changes the look-up of no other.

Main definitions:

- `Settings.HasText`: settings that have a text.
- `Settings.withProperty`, `Settings.withVariable`: settings with one more property or variable.

Main results:

- Theorem `get_of_hasText`: what is looked up of a setting that has a text.
- Theorem `field_congr`: the value of a field depends on the settings of that field alone.
- Theorems `get_withProperty_self`, `get_withProperty_of_ne`: a property counts under its own name.
- Theorem `seed_congr`: settings that agree on the fields fill a draft alike.
- Theorems `mounted_congr`, `consulted_congr`: the other stages depend on the settings that say
  where to look.
-/

namespace ClusterConfig

namespace Session

variable {α : Type}

/-- What was assigned to a name is found there. -/
theorem lookup_assign_self (entries : List (String × α)) (name : String) (a : α) :
    (assign entries name (some a)).lookup name = some a := by
  have hothers : (entries.filter fun entry => entry.1 ≠ name).lookup name = none := by
    rw [List.lookup_eq_none_iff]
    intro entry hentry
    have hne := (List.mem_filter.mp hentry).2
    simp only [ne_eq, decide_not, Bool.not_eq_eq_eq_not, Bool.not_true,
      decide_eq_false_iff_not] at hne
    simpa using Ne.symm hne
  simp only [assign]
  rw [List.lookup_append, hothers]
  simp

/-- What was assigned to a name is not found under another one. -/
theorem lookup_assign_of_ne (entries : List (String × α)) {name other : String} (h : other ≠ name)
    (value : Option α) : (assign entries name value).lookup other = entries.lookup other := by
  have hothers :
      (entries.filter fun entry => entry.1 ≠ name).lookup other = entries.lookup other := by
    induction entries with
    | nil => rfl
    | cons entry entries ih =>
      obtain ⟨first, a⟩ := entry
      by_cases hfirst : first = name
      · subst hfirst
        have hbeq : (other == first) = false := by
          simpa using h
        rw [List.filter_cons_of_neg (by simp), ih, List.lookup_cons, hbeq]
      · rw [List.filter_cons_of_pos (by simpa using hfirst), List.lookup_cons, List.lookup_cons, ih]
  have hbeq : (other == name) = false := by
    simpa using h
  cases value with
  | none => simpa only [assign] using hothers
  | some a =>
    simp only [assign]
    rw [List.lookup_append, hothers, List.lookup_cons, hbeq]
    simp

end Session

namespace Settings

/-! ## Readings of settings that agree -/

variable {s s' : Settings}

/-- A value depends on what is found among the properties and the variables under its name. -/
theorem get_congr {name : String} (hproperty : s.properties.lookup name = s'.properties.lookup name)
    (hvariable :
      s.environ.lookup (variableName name) = s'.environ.lookup (variableName name)) :
    s.get name = s'.get name := by
  unfold get
  rw [hproperty, hvariable]

theorem flag_congr {name : String} (h : s.get name = s'.get name) : s.flag name = s'.flag name := by
  unfold flag
  rw [h]

theorem number_congr {name : String} (hlimit : s.digitLimit = s'.digitLimit)
    (h : s.get name = s'.get name) : s.number name = s'.number name := by
  unfold number
  rw [h, hlimit]

theorem parts_congr {name : String} (h : s.get name = s'.get name) :
    s.parts name = s'.parts name := by
  unfold parts
  rw [h]

theorem first_congr {names : List String} (h : ∀ name ∈ names, s.get name = s'.get name) :
    s.first names = s'.first names := by
  induction names with
  | nil => rfl
  | cons name names ih =>
    rw [first_cons, first_cons, h name List.mem_cons_self,
      ih fun other hother => h other (List.mem_cons_of_mem name hother)]

/-- The value of a field depends on the settings of that field alone. -/
theorem field_congr {f : Field} (hlimit : s.digitLimit = s'.digitLimit)
    (h : ∀ name ∈ f.settings, s.get name = s'.get name) : s.field f = s'.field f := by
  unfold field readAs
  split
  · rw [first_congr h]
  · rename_i name _ _ hsettings
    rw [parts_congr (h name (by simp [hsettings]))]
  · rename_i name _ _ hsettings
    rw [flag_congr (h name (by simp [hsettings]))]
  · rename_i name _ _ hsettings
    rw [number_congr hlimit (h name (by simp [hsettings]))]
  · rfl

/-! ## Settings that have a text -/

/-- A setting has the text of its property, if there is one that is not empty, and otherwise the
text of its variable, which is empty if there is none. -/
inductive HasText (s : Settings) (name : String) : String → Prop
  | ofProperty {text : String} (h : s.properties.lookup name = some (.text text))
      (hne : text ≠ "") : HasText s name text
  | ofVariable {text : String} (hnone : isAbsent ((s.properties.lookup name).getD .null) = true)
      (h : (s.environ.lookup (variableName name)).getD "" = text) : HasText s name text

/-- The text of a setting is what is looked up, unless it is empty. -/
theorem get_of_hasText {name text : String} (h : s.HasText name text) :
    s.get name = if text = "" then .null else .text text := by
  cases h with
  | ofProperty h hne =>
    rw [if_neg hne]
    exact get_of_property h (by simpa [isAbsent] using hne)
  | ofVariable hnone h =>
    subst h
    unfold get
    dsimp only
    rw [if_pos hnone]
    cases s.environ.lookup (variableName name) <;> rfl

/-! ## Names of settings -/

/-- The name of a setting in the environment, character by character. -/
theorem variableName_ofList (cs : List Char) :
    variableName (String.ofList cs) =
      String.ofList ((cs.flatMap Text.capital).map variableChar) := by
  simp [variableName, Text.upper]

/-- No two settings have the same name in the environment. -/
theorem nodup_variableNames : (names.map variableName).Nodup := by
  simp only [names, Field.all, Field.settings, tryServiceAccount, tryKubeconfig, kubeconfig,
    List.flatMap_cons, List.flatMap_nil, List.append_nil, List.cons_append, List.nil_append,
    List.map_cons, List.map_nil]
  -- Lists of characters are compared in place of texts, which are costly to take apart.
  repeat rw [variableName_ofList]
  refine List.Nodup.of_map String.toList ?_
  simp only [List.map_cons, List.map_nil, String.toList_ofList]
  decide

/-- A setting is told by its name in the environment. -/
theorem eq_of_variableName_eq {name other : String} (hname : name ∈ names) (hother : other ∈ names)
    (h : variableName name = variableName other) : name = other :=
  List.inj_on_of_nodup_map nodup_variableNames hname hother h

theorem nodup_names : names.Nodup :=
  List.Nodup.of_map variableName nodup_variableNames

/-- The settings of fields are settings. -/
theorem mem_names_of_mem_settings {f : Field} {name : String} (h : name ∈ f.settings) :
    name ∈ names := by
  unfold names
  exact List.mem_append_left _ (List.mem_flatMap.mpr ⟨f, Field.mem_all f, h⟩)

/-- A setting belongs to one field at most. -/
theorem eq_of_mem_settings {f g : Field} {name : String} (hf : name ∈ f.settings)
    (hg : name ∈ g.settings) : f = g := by
  have hfields : (Field.all.flatMap Field.settings).Nodup :=
    (List.nodup_append'.mp nodup_names).1
  have hdisjoint := (List.nodup_flatMap.mp hfields).2
  have hsymm : Std.Symm (Function.onFun List.Disjoint Field.settings) :=
    ⟨fun _ _ h => List.disjoint_comm.mp h⟩
  by_contra hne
  exact hdisjoint.forall (Field.mem_all f) (Field.mem_all g) hne hf hg

/-- A setting of a field is none of the settings that say where to look. -/
theorem not_mem_of_mem_settings {f : Field} {name : String} (h : name ∈ f.settings) :
    name ∉ [tryServiceAccount, tryKubeconfig, kubeconfig] := by
  have hdisjoint := List.disjoint_of_nodup_append nodup_names
  exact hdisjoint (List.mem_flatMap.mpr ⟨f, Field.mem_all f, h⟩)

/-! ## One more property or variable -/

/-- The settings with a property of the given name and value. -/
def withProperty (s : Settings) (name : String) (v : Value) : Settings :=
  { s with properties := Session.assign s.properties name (some v) }

/-- The settings with a variable of the given name and text. -/
def withVariable (s : Settings) (name text : String) : Settings :=
  { s with environ := Session.assign s.environ name (some text) }

/-- A property that is neither null nor empty is the value of its setting. -/
theorem get_withProperty_self (s : Settings) (name : String) {v : Value}
    (h : isAbsent v = false) : (s.withProperty name v).get name = v :=
  get_of_property (Session.lookup_assign_self s.properties name v) h

/-- A property changes no other setting. -/
theorem get_withProperty_of_ne (s : Settings) {name other : String} (h : other ≠ name)
    (v : Value) : (s.withProperty name v).get other = s.get other :=
  get_congr (Session.lookup_assign_of_ne s.properties h (some v)) rfl

end Settings

namespace Resolve

/-- Settings that agree on the fields fill a draft alike, and with the same notes. -/
theorem seed_congr {s s' : Settings} (h : ∀ f, s.field f = s'.field f) (d : Draft) :
    seed s d = seed s' d := by
  have hseeds : seeds s seedOrder = seeds s' seedOrder := by
    unfold seeds
    simp only [h]
  unfold seed
  rw [hseeds]

/-- A path that the settings give is the path of the kubeconfig file, once it is expanded. -/
theorem kubeconfigPath_of_get {s : Settings} {home : Homes} {text : String}
    {path : Path} (hget : s.get Settings.kubeconfig = .text text) (htext : text ≠ "")
    (hexpand : (Path.ofText text).expand home = .ok path) :
    kubeconfigPath s home = .ok path := by
  unfold kubeconfigPath
  simp [hget, Value.isTrue, Value.text?, htext, hexpand, Except.mapError]

section Stages

variable {s s' : Settings} (w : World)

/-- Whether and where a service account is looked for depends on one setting. -/
theorem mounted_congr (h : s.get Settings.tryServiceAccount = s'.get Settings.tryServiceAccount)
    (d : Draft) : mounted { w with settings := s } d = mounted { w with settings := s' } d := by
  unfold mounted unlessOff
  rw [Settings.flag_congr h]
  rfl

/-- Whether and where a kubeconfig file is looked for depends on two settings. -/
theorem consulted_congr (htry : s.get Settings.tryKubeconfig = s'.get Settings.tryKubeconfig)
    (hpath : s.get Settings.kubeconfig = s'.get Settings.kubeconfig) (reader : Yaml.Reader)
    (d : Draft) :
    consulted { w with settings := s } reader d = consulted { w with settings := s' } reader d := by
  have hlook : look { w with settings := s } reader = look { w with settings := s' } reader := by
    refine look_congr ?_ fun _ _ => ⟨rfl, fun _ => rfl⟩
    rw [kubeconfigPath, kubeconfigPath, hpath]
  rw [consulted_eq, consulted_eq, supply, supply, hlook, World.wants, World.wants,
    Settings.flag_congr htry]

end Stages

end Resolve

end ClusterConfig
