import ClusterConfig.Proofs.Lookups
import ClusterConfig.Proofs.Trimming

/-!
# Lists between commas

A setting can hold a list: its items stand between commas, with any blanks around them and with
blank segments anywhere. Whatever the blanks are, the items are read, and what is read are items
that can be joined and read again.

Main definitions:

- `Settings.IsItem`: the texts that a list can hold.
- `Settings.Holds`: segments that hold items in order.

Main results:

- Theorem `splitParts_of_holds`: the parts of joined segments are the items that these hold.
- Theorem `isItem_of_mem_splitParts`: whatever a text is, its parts are items.
- Theorem `isItem_of_parts`: what is read from a setting are items, at least one.
- Theorem `parts_decodes`: a list is read from a setting just as it was written there, and once more
  from what it is joined to.
-/

namespace ClusterConfig.Settings

/-- A text that a list can hold: it is not empty, has no comma, and neither starts nor ends with a
blank. -/
structure IsItem (item : String) : Prop where
  ne_empty : item ≠ ""
  no_comma : ',' ∉ item.toList
  head : ∀ c ∈ item.toList.head?, Text.isBlank c = false
  last : ∀ c ∈ item.toList.getLast?, Text.isBlank c = false

/-- Segments hold items in order if each of them is blank, or is the next item with nothing but
blanks around it. -/
inductive Holds : List String → List String → Prop
  | nil : Holds [] []
  | blank {segment : String} {segments items : List String}
      (h : ∀ c ∈ segment.toList, Text.isBlank c = true) (hrest : Holds segments items) :
      Holds (segment :: segments) items
  | item {before item after : String} {segments items : List String}
      (hbefore : ∀ c ∈ before.toList, Text.isBlank c = true)
      (hafter : ∀ c ∈ after.toList, Text.isBlank c = true) (hrest : Holds segments items) :
      Holds ((before ++ item ++ after) :: segments) (item :: items)

/-! ## Segments and their items -/

/-- A comma is no blank. -/
theorem comma_not_mem_of_blank {segment : String}
    (h : ∀ c ∈ segment.toList, Text.isBlank c = true) : ',' ∉ segment.toList := by
  intro hcomma
  exact absurd (h ',' hcomma) (by decide)

/-- Segments that hold items have no commas. -/
theorem Holds.no_comma {segments items : List String} (h : Holds segments items)
    (hitems : ∀ item ∈ items, IsItem item) : ∀ segment ∈ segments, ',' ∉ segment.toList := by
  induction h with
  | nil => exact nofun
  | blank hblank _ ih =>
    exact List.forall_mem_cons.mpr ⟨comma_not_mem_of_blank hblank, ih hitems⟩
  | item hbefore hafter _ ih =>
    obtain ⟨hitem, hrest⟩ := List.forall_mem_cons.mp hitems
    refine List.forall_mem_cons.mpr ⟨?_, ih hrest⟩
    simp only [String.toList_append, List.mem_append, not_or]
    exact ⟨⟨comma_not_mem_of_blank hbefore, hitem.no_comma⟩, comma_not_mem_of_blank hafter⟩

/-- Nothing is left of a blank segment. -/
theorem trim_of_blank {segment : String} (h : ∀ c ∈ segment.toList, Text.isBlank c = true) :
    Text.trim segment = "" := by
  rw [Text.trim, Text.trimChars_eq_nil_iff.mpr h]

/-- The item is left of a segment that holds one. -/
theorem trim_of_item {before item after : String} (hitem : IsItem item)
    (hbefore : ∀ c ∈ before.toList, Text.isBlank c = true)
    (hafter : ∀ c ∈ after.toList, Text.isBlank c = true) :
    Text.trim (before ++ item ++ after) = item := by
  have hcore : Text.IsCore item.toList (before ++ item ++ after).toList := by
    refine ⟨⟨before.toList, after.toList, ?_, hbefore, hafter⟩, hitem.head, hitem.last⟩
    rw [String.toList_append, String.toList_append]
  rw [Text.trim, hcore.trimChars_eq, String.ofList_toList]

/-- Segments that hold items hold just those that are left of them. -/
theorem Holds.filter_trim {segments items : List String} (h : Holds segments items)
    (hitems : ∀ item ∈ items, IsItem item) :
    (segments.map Text.trim).filter (fun part => part ≠ "") = items := by
  induction h with
  | nil => rfl
  | blank hblank _ ih =>
    rw [List.map_cons, trim_of_blank hblank, List.filter_cons_of_neg (by simp)]
    exact ih hitems
  | item hbefore hafter _ ih =>
    obtain ⟨hitem, hrest⟩ := List.forall_mem_cons.mp hitems
    rw [List.map_cons, trim_of_item hitem hbefore hafter,
      List.filter_cons_of_pos (by simpa using hitem.ne_empty), ih hrest]

/-- Items hold themselves. -/
theorem holds_self (items : List String) : Holds items items := by
  induction items with
  | nil => exact .nil
  | cons item items ih =>
    have hholds : Holds (("" ++ item ++ "") :: items) (item :: items) := .item nofun nofun ih
    rwa [String.empty_append, String.append_empty] at hholds

/-! ## Parts of texts -/

/-- The parts of a text are what is left of its pieces between commas. -/
theorem splitParts_eq (text : String) :
    splitParts text =
      (((text.toList.splitOn ',').map String.ofList).map Text.trim).filter
        (fun part => part ≠ "") := by
  have hkept : ∀ cs : List Char, (!cs.isEmpty) = decide (String.ofList cs ≠ "") := by
    intro cs
    cases cs <;> simp
  have htrim : Text.trim ∘ String.ofList = String.ofList ∘ Text.trimChars := by
    funext piece
    simp [Text.trim]
  unfold splitParts
  simp only [hkept]
  rw [List.map_map, htrim, ← List.map_map, List.filter_map (f := String.ofList)]
  rfl

/-- The parts of joined segments are the items that these hold. -/
theorem splitParts_of_holds {segments items : List String} (h : Holds segments items)
    (hitems : ∀ item ∈ items, IsItem item) :
    splitParts (",".intercalate segments) = items := by
  cases segments with
  | nil =>
    cases h
    rfl
  | cons first rest =>
    have hcommas : ∀ piece ∈ (first :: rest).map String.toList, ',' ∉ piece := by
      intro piece hpiece
      obtain ⟨segment, hsegment, rfl⟩ := List.mem_map.mp hpiece
      exact h.no_comma hitems segment hsegment
    have hpieces : (",".intercalate (first :: rest)).toList.splitOn ',' =
        (first :: rest).map String.toList := by
      rw [String.toList_intercalate]
      exact List.splitOn_intercalate ',' hcommas (List.cons_ne_nil _ _)
    have hback : ((first :: rest).map String.toList).map String.ofList = first :: rest := by
      rw [List.map_map]
      exact List.map_id'' (fun _ => String.ofList_toList) _
    rw [splitParts_eq, hpieces, hback]
    exact h.filter_trim hitems

/-- Whatever a text is, its parts are items. -/
theorem isItem_of_mem_splitParts {text item : String} (h : item ∈ splitParts text) :
    IsItem item := by
  rw [splitParts_eq] at h
  obtain ⟨hmem, hne⟩ := List.mem_filter.mp h
  obtain ⟨segment, hsegment, rfl⟩ := List.mem_map.mp hmem
  obtain ⟨piece, hpiece, rfl⟩ := List.mem_map.mp hsegment
  have hcore : Text.IsCore (Text.trim (String.ofList piece)).toList piece := by
    rw [Text.toList_trim, String.toList_ofList]
    exact Text.isCore_trimChars piece
  refine ⟨by simpa using hne, ?_, hcore.head, hcore.last⟩
  intro hcomma
  obtain ⟨⟨before, after, hwhole, -, -⟩, -, -⟩ := hcore
  have hinside : ',' ∈ piece := by
    rw [hwhole]
    exact List.mem_append_left after (List.mem_append_right before hcomma)
  rw [List.splitOn_eq_splitOnP] at hpiece
  exact absurd (Text.exists_mem_splitOnP_iff.mp ⟨piece, hpiece, hinside⟩).2 (by decide)

/-! ## Settings that are lists -/

/-- A setting is read as the parts of its text, if there are any. -/
theorem parts_of_hasText {s : Settings} {name text : String} (h : s.HasText name text) :
    s.parts name = if splitParts text = [] then none else some (splitParts text) := by
  unfold parts
  rw [get_of_hasText h]
  by_cases hempty : text = ""
  · subst hempty
    rfl
  · simp [hempty, Value.isNull, Value.asText]

/-- Whatever is read as a list are items, and at least one. -/
theorem isItem_of_parts {s : Settings} {name : String} {items : List String}
    (h : s.parts name = some items) : items ≠ [] ∧ ∀ item ∈ items, IsItem item := by
  unfold parts at h
  dsimp only at h
  split at h
  · cases h
  · split at h
    · cases h
    · rename_i hnonempty
      obtain rfl := Option.some.inj h
      exact ⟨fun hnil => hnonempty (List.isEmpty_iff.mpr hnil),
        fun item => isItem_of_mem_splitParts⟩

/-- The items that segments hold are read from a setting whose text is joined from these. -/
theorem parts_of_holds {s : Settings} {name : String} {segments items : List String}
    (hholds : Holds segments items) (hitems : ∀ item ∈ items, IsItem item)
    (htext : s.HasText name (",".intercalate segments)) :
    s.parts name = if items = [] then none else some items := by
  rw [parts_of_hasText htext, splitParts_of_holds hholds hitems]

/-- How a setting is read as a list, where `usual` is taken if there are no items. If its text is
joined from segments that hold items, these items are read and nothing else. And whatever the
setting is, what is read in place of `usual` are items, at least one, that are read once more from
every setting whose text is joined from them. -/
theorem parts_decodes (s : Settings) (name : String) (usual : Option (List String)) :
    (∀ segments items, Holds segments items → (∀ item ∈ items, IsItem item) →
      s.HasText name (",".intercalate segments) →
        (s.parts name).or usual = if items = [] then usual else some items) ∧
    ∀ items, (s.parts name).or usual = some items → usual ≠ some items →
      (items ≠ [] ∧ ∀ item ∈ items, IsItem item) ∧
      ∀ (s' : Settings) (name' : String) (usual' : Option (List String)),
        s'.HasText name' (",".intercalate items) → (s'.parts name').or usual' = some items := by
  constructor
  · intro segments items hholds hitems htext
    rw [parts_of_holds hholds hitems htext]
    split <;> rfl
  · intro items hread hother
    have hparts : s.parts name = some items := by
      cases hnone : s.parts name with
      | none => exact absurd (by simpa [hnone] using hread) hother
      | some _ => simpa [hnone] using hread
    have hitems := isItem_of_parts hparts
    refine ⟨hitems, ?_⟩
    intro s' name' usual' htext
    rw [parts_of_holds (holds_self items) hitems.2 htext, if_neg hitems.1]
    rfl

/-- Two protocols with blanks around them, between blank segments. -/
def samplePadded : Settings where
  properties := [("kubernetes.tls.protocols", .text ",\t, TLSv1.2\u3000,,TLS v1\n,")]
  environ := []

/-- Both protocols are read from that setting, and from one whose text is just joined from them. -/
theorem parts_decodes_sample :
    (samplePadded.parts "kubernetes.tls.protocols").or (some ["TLSv1.1"]) =
      some ["TLSv1.2", "TLS v1"] ∧
    (⟨[("joined", .text "TLSv1.2,TLS v1")], [], none⟩ : Settings).parts "joined" =
      some ["TLSv1.2", "TLS v1"] := by
  have hitems : ∀ item ∈ ["TLSv1.2", "TLS v1"], IsItem item := by
    intro item hitem
    have hcases : item = "TLSv1.2" ∨ item = "TLS v1" := by simpa using hitem
    rcases hcases with rfl | rfl <;>
      exact ⟨by decide, by decide, by simp [Text.isBlank], by simp [Text.isBlank]⟩
  have hblank : ∀ segment ∈ ["", "\t", " ", "\u3000", "\n"], ∀ c ∈ segment.toList,
      Text.isBlank c = true := by
    simp [Text.isBlank]
  have hholds : Holds ["", "\t", " " ++ "TLSv1.2" ++ "\u3000", "", "" ++ "TLS v1" ++ "\n", ""]
      ["TLSv1.2", "TLS v1"] :=
    .blank (hblank "" (by simp)) (.blank (hblank "\t" (by simp))
      (.item (hblank " " (by simp)) (hblank "\u3000" (by simp)) (.blank (hblank "" (by simp))
        (.item (hblank "" (by simp)) (hblank "\n" (by simp))
          (.blank (hblank "" (by simp)) .nil)))))
  have hread := (parts_decodes samplePadded "kubernetes.tls.protocols" (some ["TLSv1.1"])).1 _ _
    hholds hitems (.ofProperty rfl (by decide))
  refine ⟨hread, ?_⟩
  have hagain :=
    ((parts_decodes samplePadded "kubernetes.tls.protocols" (some ["TLSv1.1"])).2 _ hread
      (by decide)).2
  simpa using hagain ⟨[("joined", .text "TLSv1.2,TLS v1")], [], none⟩ "joined" none
    (.ofProperty rfl (by decide))

end ClusterConfig.Settings
