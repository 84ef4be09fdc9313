/-
# A repaired plan needs no repair

Section 8 of `SPEC_FULL.md`: "Sanitize is idempotent."

A second repair finds nothing to do (`repair_repair`).  The elements of a
repaired plan are kept and given back as they are, so they are declared under
their own identifiers (`declarations_self`), and an end of a surviving link,
which is such an identifier, means itself (`resolve?_repaired`).  A link that
was rewired once is therefore rewired to itself.
-/

import CodeDiagram.Proofs.Repair.Collections
import Mathlib.Data.List.Basic

namespace CodeDiagram

open Json (Fields)
open Identifier (Entry Table)

namespace Repair

variable {kind : Kind} {table : Table} {plan : Fields} {item item' : Json} {id raw : String}

/-! ### The elements -/

theorem isUsableNode_object (node : Fields) :
    isUsableNode (.object node) = ((node.text? "id").isSome &&
      ((node.text? "type").bind (Vocabulary.ofLoose? (α := NodeKind))).isSome) := rfl

/-- A repaired element is kept if it was kept before. -/
theorem keeps_declareItem (table : Table) (h : (recipe kind).keeps item = true) :
    (recipe kind).keeps ((recipe kind).declareItem table item).1 = true := by
  cases kind with
  | flowchart =>
      cases item with
      | object node =>
          replace h : isUsableNode (.object node) = true := h
          rw [isUsableNode_object, Bool.and_eq_true] at h
          obtain ⟨raw, hraw⟩ := Option.isSome_iff_exists.1 h.1
          have hid := text?_nameField_declare .flowchart table hraw
          have htype := ((recipe .flowchart).declare_local table).text?
            (show "type" ∉ _ by decide) node
          show isUsableNode (.object (canonicalWord NodeKind "type" _)) = true
          rw [isUsableNode_object, ofLoose?_canonicalWord, htype, h.2, Bool.and_true]
          exact Option.isSome_iff_exists.2 ⟨_, hid⟩
      | _ => exact h
  | sequence => rfl
  | classes => rfl
  | entityRelation => rfl

theorem keeps_of_mem_declareAll : ∀ {table : Table} {items : List Json},
    (∀ item ∈ items, (recipe kind).keeps item = true) →
      ∀ item ∈ ((recipe kind).declareAll table items).1, (recipe kind).keeps item = true
  | _, [], _, _, h => nomatch h
  | table, item :: rest, hkeeps, item', h => by
      rw [Recipe.declareAll_cons] at h
      rcases List.mem_cons.1 h with rfl | hrest
      · exact keeps_declareItem table (hkeeps item (List.mem_cons_self ..))
      · exact keeps_of_mem_declareAll (fun item h => hkeeps item (List.mem_cons_of_mem _ h)) item'
          hrest

/-- **Repaired elements are kept.** -/
theorem keeps_of_mem_repairedElements {plan : Json} (h : item ∈ repairedElements kind plan) :
    (recipe kind).keeps item = true := by
  cases plan with
  | object fields =>
      rw [repairedElements_object] at h
      exact keeps_of_mem_declareAll (fun item h => (List.mem_filter.1 h).2) item h
  | _ => cases h

theorem keptElements_applyFields (kind : Kind) (plan : Fields) :
    keptElements kind (.object ((recipe kind).applyFields plan)) =
      repairedElements kind (.object plan) := by
  have hkeeps : ∀ item ∈ repairedElements kind (.object plan), (recipe kind).keeps item = true :=
    fun _ h => keeps_of_mem_repairedElements h
  exact List.filter_eq_self.2 hkeeps

/-- **Repaired elements are declared as they stand.** -/
theorem declareAll_repairedElements (kind : Kind) (plan : Fields) :
    ((recipe kind).declareAll (.empty (recipe kind).naming)
      (repairedElements kind (.object plan))).1 = repairedElements kind (.object plan) :=
  declareAll_of_settled (recipe_naming kind) fun _ h => settled_of_mem_repairedElements h

theorem repairedElements_applyFields (kind : Kind) (plan : Fields) :
    repairedElements kind (.object ((recipe kind).applyFields plan)) =
      repairedElements kind (.object plan) := by
  rw [repairedElements_object, keptElements_applyFields, declareAll_repairedElements]

/-- The elements of a repaired plan are not replaced by others. -/
theorem declared_applyFields (kind : Kind) (plan : Fields) :
    ((recipe kind).declared ((recipe kind).applyFields plan)).1 =
      ((recipe kind).applyFields plan).items? (recipe kind).elements := by
  rw [Recipe.declared_fst]
  cases hitems : ((recipe kind).applyFields plan).items? (recipe kind).elements with
  | none => rfl
  | some items =>
      have hrepaired : items = repairedElements kind (.object plan) := eq_repairedElements hitems
      have hkept := keptElements_applyFields kind plan
      have hagain := declareAll_repairedElements kind plan
      rw [keptElements_object, hitems, Option.getD_some, ← hrepaired] at hkept
      rw [← hrepaired] at hagain
      rw [Option.map_some, hkept, hagain]

/-! ### The table -/

/-- Elements that stay as they are are declared under their own identifiers. -/
theorem declarations_self (recipe : Recipe) : ∀ items : List Json,
    recipe.declarations items items = (items.filterMap recipe.nameOf?).map fun id =>
      ⟨Text.trim id, id⟩
  | [] => rfl
  | item :: rest => by
      have hrest := declarations_self recipe rest
      rw [Recipe.declarations] at hrest ⊢
      rw [List.zip_cons_cons, List.filterMap_cons, List.filterMap_cons, hrest]
      cases hname : recipe.nameOf? item <;> simp [Recipe.declaration?, hname]

theorem table_entries_applyFields (kind : Kind) (plan : Fields) :
    ((recipe kind).declared ((recipe kind).applyFields plan)).2.entries =
      (((repairedElements kind (.object plan)).filterMap (recipe kind).nameOf?).map fun id =>
        (⟨Text.trim id, id⟩ : Entry)).reverse := by
  rw [table_entries, declarations, keptElements_applyFields, repairedElements_applyFields,
    declarations_self]

/-- **An end of a surviving link means itself in the repaired plan.** -/
theorem resolve?_repaired (h : ((recipe kind).declared plan).2.resolve? raw = some id) :
    ((recipe kind).declared ((recipe kind).applyFields plan)).2.resolve? id = some id := by
  have hnames := mem_names_of_resolve? h
  refine Table.resolve?_of_settled (fun entry hentry => ?_) ?_ (admits_of_mem_names hnames).trim
  · rw [table_entries_applyFields, List.mem_reverse] at hentry
    obtain ⟨name, hname, rfl⟩ := List.mem_map.1 hentry
    exact (admits_of_mem_names hname).trim
  · rw [Table.ids, table_entries_applyFields, List.map_reverse, List.mem_reverse, List.map_map]
    exact List.mem_map.2 ⟨id, hnames, rfl⟩

/-! ### The links -/

/-- A rewired link is rewired to itself. -/
theorem rewire?_rewired
    (h : (recipe kind).rewire? ((recipe kind).declared plan).2 item = some item') :
    (recipe kind).rewire? ((recipe kind).declared ((recipe kind).applyFields plan)).2 item' =
      some item' := by
  obtain ⟨link, source, target, -, hsource, htarget, rfl⟩ :=
    (Recipe.rewire?_eq_some_iff _).1 h
  obtain ⟨_, -, hsource⟩ := Option.bind_eq_some_iff.1 hsource
  obtain ⟨_, -, htarget⟩ := Option.bind_eq_some_iff.1 htarget
  refine (Recipe.rewire?_eq_some_iff _).2 ⟨_, source, target, rfl, ?_, ?_, ?_⟩
  · rw [text?_from_rewired, Option.bind_some, resolve?_repaired hsource]
  · rw [text?_to_rewired, Option.bind_some, resolve?_repaired htarget]
  · rw [rewired_rewired]

theorem filterMap_rewire?_rewired (links : List Json) :
    (links.filterMap ((recipe kind).rewire? ((recipe kind).declared plan).2)).filterMap
        ((recipe kind).rewire? ((recipe kind).declared ((recipe kind).applyFields plan)).2) =
      links.filterMap ((recipe kind).rewire? ((recipe kind).declared plan).2) := by
  refine (List.filterMap_congr fun link hlink => ?_).trans List.filterMap_some
  obtain ⟨_, -, hlink⟩ := List.mem_filterMap.1 hlink
  exact rewire?_rewired hlink

theorem applyFields_applyFields (kind : Kind) (plan : Fields) :
    (recipe kind).applyFields ((recipe kind).applyFields plan) =
      (recipe kind).applyFields plan := by
  have hlinks : (((recipe kind).applyFields plan).items? (recipe kind).links).map (fun links =>
        links.filterMap
          ((recipe kind).rewire? ((recipe kind).declared ((recipe kind).applyFields plan)).2)) =
      ((recipe kind).applyFields plan).items? (recipe kind).links := by
    rw [items?_links_applyFields, Option.map_map]
    exact Option.map_congr fun links _ => filterMap_rewire?_rewired links
  rw [Recipe.applyFields_eq, hlinks, declared_applyFields, Recipe.replaceItems_eq_self,
    Recipe.replaceItems_eq_self]

end Repair

/-- **Repair is idempotent**, for every kind and every JSON value. -/
theorem Json.repair_repair (kind : Kind) (plan : Json) :
    (plan.repair kind).repair kind = plan.repair kind := by
  cases plan with
  | object fields => exact congrArg Json.object (Repair.applyFields_applyFields kind fields)
  | _ => rfl

end CodeDiagram
