import SplitPanel.Proofs.AcceptedDescriptions
import SplitPanel.Proofs.UsedLayers

/-!
# Numbers of layer names

The place of a name among the layer names is meant to be the number of its layer.  Values that are
no texts are left out of the names without a word, and every name behind them moves down by one
layer for each of them.  So a name stands for its own layer as long as there are only texts up to
it.
-/

namespace SplitPanel

/-- The name of the highest layer that is on is shown, if that layer has one. -/
theorem Screen.NamedLayers.source_of_isGreatest {table : NamedLayers} {number : ℕ} {name : String}
    (hgreatest : IsGreatest {layer | table.state.getLsbD layer = true} number)
    (hname : table.names[number]? = some name) : table.source = .ofText name := by
  have hactive : table.active = number := table.state.isHighest_highest.unique (.inl hgreatest)
  rw [source, text, nameOfActive?, hactive, hname, Option.getD_some]

theorem Toml.Value.isSome_text?_iff {value : Value} :
    value.text?.isSome ↔ ∃ content, value = .text content := by
  cases value <;> simp [text?]

namespace Board

open Screen (LayerMask NamedLayers)
open Toml (Value)

/-- The values in the array of layer names, texts and others. -/
def nameItems? (document : Value) : Option (List Value) :=
  (valueAt? document .layers "names").bind Value.array?

/-- What is kept of an element stands behind all that is kept of the elements before it. -/
theorem getElem?_filterMap_of_kept {α β : Type} {kept? : α → Option β} {items : List α} {place : ℕ}
    {result : β} (hkept : items[place]?.bind kept? = some result) :
    (items.filterMap kept?)[(items.take place).countP fun item => (kept? item).isSome]? =
      some result := by
  obtain ⟨item, hitem, hresult⟩ := Option.bind_eq_some_iff.mp hkept
  obtain ⟨hplace, rfl⟩ := List.getElem?_eq_some_iff.mp hitem
  have hsplit : items = items.take place ++ items[place] :: items.drop (place + 1) := by
    rw [← List.drop_eq_getElem_cons hplace, List.take_append_drop]
  have hfiltered := congrArg (List.filterMap kept?) hsplit
  rw [List.filterMap_append, List.filterMap_cons_some hresult] at hfiltered
  rw [hfiltered, ← List.length_filterMap_eq_countP, List.getElem?_append_right (Nat.le_refl _),
    Nat.sub_self, List.getElem?_cons_zero]

theorem writtenNames_eq {document : Value} {items : List Value}
    (hitems : nameItems? document = some items) :
    writtenNames document = items.filterMap Value.text? := by
  rw [writtenNames, ← nameItems?, hitems]

namespace Config

variable {document : Value} {config : Config}

/-- A description is only accepted with an array of layer names. -/
theorem exists_nameItems (haccepted : ofDocument document = .ok config) :
    ∃ items, nameItems? document = some items ∧
      config.layerNames = items.filterMap Value.text? := by
  have hwritten := (describes_of_ofDocument haccepted).layerNames
  have hsome := (ofDocument_isOk_iff.mp ⟨config, haccepted⟩).someLayers
  cases hitems : nameItems? document with
  | none =>
      rw [writtenNames, ← nameItems?, hitems] at hsome
      contradiction
  | some items => exact ⟨items, rfl, hwritten.symm.trans (writtenNames_eq hitems)⟩

/-- The names of an accepted description are the texts of an array, one for each of its values if
they are all texts.  A text moves down by the values before it that are none.  So it stands for the
layer of its own number if there is none before it, and is then what is shown whenever that layer is
the highest one that is on. -/
theorem layer_names_numbered_as_written (haccepted : ofDocument document = .ok config) :
    ∃ items, nameItems? document = some items ∧
      (config.layerNames.length = items.length ↔ ∀ item ∈ items, item.text?.isSome) ∧
      (∀ number name, items[number]? = some (.text name) →
        config.layerNames[(items.take number).countP fun item => item.text?.isSome]? =
          some name) ∧
      ∀ number, number < items.length →
        (∀ item ∈ items.take (number + 1), item.text?.isSome) →
        ∃ name, items[number]? = some (.text name) ∧ config.layerNames[number]? = some name ∧
          ∀ state : LayerMask, IsGreatest {layer | state.getLsbD layer = true} number →
            NamedLayers.source { names := config.layerNames, state } = .ofText name := by
  obtain ⟨items, hitems, hnames⟩ := exists_nameItems haccepted
  have hmoved : ∀ number name, items[number]? = some (.text name) →
      config.layerNames[(items.take number).countP fun item => item.text?.isSome]? =
        some name := by
    intro number name hitem
    rw [hnames]
    apply getElem?_filterMap_of_kept
    rw [hitem]
    rfl
  refine ⟨items, hitems, ?_, hmoved, ?_⟩
  · rw [hnames]
    exact List.filterMap_length_eq_length
  · intro number hnumber htexts
    have hlast : items[number] ∈ items.take (number + 1) := by
      rw [← List.take_append_getElem hnumber]
      exact List.mem_append_right _ (List.mem_singleton_self _)
    obtain ⟨name, hname⟩ := Value.isSome_text?_iff.mp (htexts _ hlast)
    have hitem : items[number]? = some (.text name) := by
      rw [List.getElem?_eq_getElem hnumber, hname]
    -- Nothing is left out before this place, so that it is not moved at all.
    have hcount : ((items.take number).countP fun item => item.text?.isSome) = number := by
      have hall : ∀ item ∈ items.take number, item.text?.isSome := fun item hmem =>
        htexts item (List.take_subset_take_left items (Nat.le_succ number) hmem)
      rw [List.countP_eq_length.mpr hall, List.length_take, Nat.min_eq_left hnumber.le]
    have hown := hmoved number name hitem
    rw [hcount] at hown
    exact ⟨name, hitem, hown, fun _ hgreatest => NamedLayers.source_of_isGreatest hgreatest hown⟩

/-- A number among the names leaves those before it alone, and the one behind it moves down. -/
theorem layer_names_numbered_as_written_before_number :
    let items : List Value := [.text "Default", .text "Lower", .integer 7, .text "Raise"]
    let config := { Half.Shipped.config with layerNames := ["Default", "Lower", "Raise"] }
    ofDocument (shippedWith items) = .ok config ∧
      nameItems? (shippedWith items) = some items ∧
      config.layerNames[1]? = some "Lower" ∧
      NamedLayers.source { names := config.layerNames, state := 0b11 } = .ofText "Lower" ∧
      items[3]? = some (.text "Raise") ∧ config.layerNames[2]? = some "Raise" := by
  intro items config
  have haccepted : ofDocument (shippedWith items) = .ok config := rfl
  have hitems : nameItems? (shippedWith items) = some items := rfl
  obtain ⟨found, hfound, -, hmoved, hkept⟩ := layer_names_numbered_as_written haccepted
  obtain rfl : items = found := Option.some.inj (hitems.symm.trans hfound)
  have hgreatest : IsGreatest {layer | (0b11 : LayerMask).getLsbD layer = true} 1 := by
    have hle : ∀ layer < 32, (0b11 : LayerMask).getLsbD layer = true → layer ≤ 1 := by decide
    exact ⟨rfl, fun layer hon => hle layer (BitVec.lt_of_getLsbD hon) hon⟩
  obtain ⟨name, hlower, hown, hshown⟩ := hkept 1 (by decide) (by decide)
  obtain rfl : name = "Lower" := by
    injection hlower with hlower
    injection hlower with hlower
    exact hlower.symm
  exact ⟨haccepted, hitems, hown, hshown 0b11 hgreatest, rfl, hmoved 3 "Raise" rfl⟩

/-- The name written for layer 2 is the one of layer 1 if there is a number before it: it is shown
for layer 1, and layer 2 has no name. -/
theorem layer_name_moved_by_number :
    let items : List Value := [.text "Default", .integer 7, .text "Raise"]
    let config := { Half.Shipped.config with layerNames := ["Default", "Raise"] }
    ofDocument (shippedWith items) = .ok config ∧
      nameItems? (shippedWith items) = some items ∧
      config.layerNames.length ≠ items.length ∧
      items[2]? = some (.text "Raise") ∧ config.layerNames[2]? ≠ some "Raise" ∧
      NamedLayers.source { names := config.layerNames, state := 0b100 } = .ofText "Undef-4" ∧
      NamedLayers.source { names := config.layerNames, state := 0b10 } = .ofText "Raise" := by
  intro items config
  exact ⟨rfl, rfl, by decide, rfl, by decide, by decide, by decide⟩

end Config

end Board

end SplitPanel
