/-
# Which elements a repair merges

Two elements that end up with one name are one box of the diagram.  The table
of a repair is a history of declarations (`history_declareAll`), so two
elements share a name only as such a history allows (`names_sharing`): where
something is kept of both names, exactly when it is the same or the one is the
other with its mark, and never when the later name is a generated one.
-/

import CodeDiagram.Proofs.Identifier.Sharing
import CodeDiagram.Proofs.Repair.Collections

namespace CodeDiagram

open Json (Fields)
open Identifier (Entry History Sharing Table strip)

namespace Repair

variable {kind : Kind} {plan : Json} {i j : Nat} {a b : String}

/-! ### The table as a history -/

namespace Recipe

variable (recipe : Recipe)

/-- Declaring an item continues the history, if the item has a name. -/
theorem history_declareItem {table : Table} (h : History table.naming table.entries)
    (item : Json) : History table.naming (recipe.declareItem table item).2.entries := by
  cases item with
  | object element =>
      show History table.naming (recipe.declare table element).2.entries
      cases hraw : Fields.text? recipe.nameField element with
      | none => rwa [declare_of_unnamed recipe hraw]
      | some raw =>
          simp only [declare_of_named recipe hraw]
          exact table.history_declare h raw
  | _ => exact h

/-- **Declaring a collection continues the history.** -/
theorem history_declareAll (table : Table) (items : List Json)
    (h : History table.naming table.entries) :
    History table.naming (recipe.declareAll table items).2.entries := by
  induction items generalizing table with
  | nil => exact h
  | cons item rest ih =>
      have hitem := recipe.history_declareItem h item
      rw [← recipe.declareItem_naming table item] at hitem
      have hrest := ih _ hitem
      rw [declareItem_naming] at hrest
      rwa [declareAll_cons]

/-- Each item of a collection is declared in its place, over some table. -/
theorem getElem?_declareAll {item : Json} {items : List Json} (h : items[i]? = some item)
    (table : Table) : ∃ table' : Table,
      (recipe.declareAll table items).1[i]? = some (recipe.declareItem table' item).1 := by
  induction items generalizing table i with
  | nil => cases h
  | cons head rest ih =>
      rw [declareAll_cons]
      cases i with
      | zero =>
          rw [List.getElem?_cons_zero, Option.some_inj] at h
          exact ⟨table, by rw [h, List.getElem?_cons_zero]⟩
      | succ i => exact ih h _

end Recipe

/-! ### The elements of a repaired plan -/

/-- **Of two elements of a repaired plan the earlier was declared first.** -/
theorem pairwise_declarations (kind : Kind) (plan : Json) :
    (declarations kind plan).Pairwise fun earlier later =>
      Sharing kind.naming earlier.name later.name earlier.id later.id := by
  cases plan with
  | object fields =>
      have hhistory := (recipe kind).history_declareAll (.empty (recipe kind).naming)
        (keptElements kind (.object fields)) .nil
      rw [keptElements_object, ← Recipe.declared_snd, table_entries] at hhistory
      rw [show (Table.empty (recipe kind).naming).naming = kind.naming from recipe_naming kind]
        at hhistory
      exact List.pairwise_reverse.1 (hhistory.pairwise_sharing kind.naming_sound)
  | _ => exact .nil

/-- An element with a name has a name in the repaired plan. -/
theorem exists_name_repaired
    (ha : (keptElements kind plan)[i]?.bind (recipe kind).nameOf? = some a) :
    ∃ id, (repairedElements kind plan)[i]?.bind (recipe kind).nameOf? = some id := by
  obtain ⟨item, hitem, hname⟩ := Option.bind_eq_some_iff.1 ha
  cases plan with
  | object fields =>
      obtain ⟨table, hrepaired⟩ :=
        (recipe kind).getElem?_declareAll hitem (.empty (recipe kind).naming)
      refine ⟨(table.declare a).1, ?_⟩
      rw [repairedElements_object, hrepaired, Option.bind_some, nameOf?_declareItem, hname]
      rfl
  | _ => cases hitem

/-- The names of an element before and after are a declaration. -/
theorem declaration?_of_names {before after : Json} {id : String}
    (ha : (recipe kind).nameOf? before = some a) (hid : (recipe kind).nameOf? after = some id) :
    (recipe kind).declaration? before after = some ⟨Text.trim a, id⟩ := by
  rw [Recipe.declaration?, ha, hid]
  rfl

/-- **Which elements end up with one name.**  Of the elements that a repair keeps, let the `i`th
have the name `a` and a later one, the `j`th, the name `b`; both have names in the repaired plan.
Where something is kept of both names, these are equal exactly when the same is kept of `a` and `b`,
or when what is kept of one is what is kept of the other with its mark.  A generated name differs
from the names of all earlier elements, generated ones among them, and it can be the name of a later
element only if what is kept of that element's name spells a generated name. -/
theorem names_sharing (kind : Kind) (plan : Json) (hij : i < j)
    (ha : (keptElements kind plan)[i]?.bind (recipe kind).nameOf? = some a)
    (hb : (keptElements kind plan)[j]?.bind (recipe kind).nameOf? = some b) :
    ∃ id id', (repairedElements kind plan)[i]?.bind (recipe kind).nameOf? = some id ∧
      (repairedElements kind plan)[j]?.bind (recipe kind).nameOf? = some id' ∧
      Sharing kind.naming a b id id' := by
  obtain ⟨id, hid⟩ := exists_name_repaired ha
  obtain ⟨id', hid'⟩ := exists_name_repaired hb
  refine ⟨id, id', hid, hid', ?_⟩
  obtain ⟨before, hbefore, ha⟩ := Option.bind_eq_some_iff.1 ha
  obtain ⟨after, hafter, hid⟩ := Option.bind_eq_some_iff.1 hid
  obtain ⟨before', hbefore', hb⟩ := Option.bind_eq_some_iff.1 hb
  obtain ⟨after', hafter', hid'⟩ := Option.bind_eq_some_iff.1 hid'
  have hzip : ((keptElements kind plan).zip (repairedElements kind plan))[i]? =
      some (before, after) := List.getElem?_zip_eq_some.2 ⟨hbefore, hafter⟩
  have hzip' : ((keptElements kind plan).zip (repairedElements kind plan))[j]? =
      some (before', after') := List.getElem?_zip_eq_some.2 ⟨hbefore', hafter'⟩
  obtain ⟨hi, hget⟩ := List.getElem?_eq_some_iff.1 hzip
  obtain ⟨hj, hget'⟩ := List.getElem?_eq_some_iff.1 hzip'
  have hpairwise := List.pairwise_filterMap.1 (pairwise_declarations kind plan)
  have hsharing := List.pairwise_iff_getElem.1 hpairwise i j hi hj hij
  rw [hget, hget'] at hsharing
  have hrule := hsharing _ (declaration?_of_names ha hid) _ (declaration?_of_names hb hid')
  exact hrule.of_trimmed

/-- Entities of which one has the name that another gets, and two keep no letter. -/
def crowded : Json :=
  .object
    [("entities", .array
      [.object [("name", .string "?")], .object [("name", .string "1st")],
        .object [("name", .string " entity_1st ")], .object [("name", .string "!")]]),
      ("relationships", .array [])]

/-- `names_sharing` at work: `1st` is prefixed and meets the third entity, and the first and the
last entity are numbered apart. -/
theorem names_sharing_crowded :
    (repairedElements .entityRelation crowded).map (recipe .entityRelation).nameOf? =
        [some "entity_0", some "entity_1st", some "entity_1st", some "entity_1"] ∧
      (∃ id id', Sharing Kind.entityRelation.naming "1st" " entity_1st " id id' ∧ id = id') ∧
      ∃ id id', Sharing Kind.entityRelation.naming "?" "!" id id' ∧ id ≠ id' := by
  have hnames : (repairedElements .entityRelation crowded).map (recipe .entityRelation).nameOf? =
      [some "entity_0", some "entity_1st", some "entity_1st", some "entity_1"] := by
    decide +kernel
  have hname : ∀ i : Fin 4, (keptElements .entityRelation crowded)[i.val]?.bind
      (recipe .entityRelation).nameOf? = some (["?", "1st", " entity_1st ", "!"].get i) := by
    decide +kernel
  obtain ⟨id, id', -, -, hmarked⟩ :=
    names_sharing .entityRelation crowded (show 1 < 2 by decide) (hname 1) (hname 2)
  obtain ⟨no, no', -, -, hnumbered⟩ :=
    names_sharing .entityRelation crowded (show 0 < 3 by decide) (hname 0) (hname 3)
  refine ⟨hnames, ⟨id, id', hmarked, ?_⟩, no, no', hnumbered, hnumbered.of_generated (by decide)⟩
  exact (hmarked.of_kept (by decide) (by decide)).2 (.inr (.inl (.opening (by decide) (by decide))))

/-- Nodes of which one is a reserved word and the other is that word with its mark. -/
def adjoining : Json :=
  .object
    [("nodes", .array
      [.object [("id", .string "end"), ("label", .string "End"), ("type", .string "process")],
        .object [("id", .string "end_"), ("label", .string "Last"), ("type", .string "process")]]),
      ("edges", .array [])]

/-- **Elements can share a name without the same being kept of both:** `end` is marked and becomes
`end_`, which another node of `adjoining` is called. -/
theorem not_shared_only_if_kept_alike :
    ¬ ∀ (kind : Kind) (plan : Json) (i j : Nat) (a b id : String), i < j →
      (keptElements kind plan)[i]?.bind (recipe kind).nameOf? = some a →
      (keptElements kind plan)[j]?.bind (recipe kind).nameOf? = some b →
      (repairedElements kind plan)[i]?.bind (recipe kind).nameOf? = some id →
      (repairedElements kind plan)[j]?.bind (recipe kind).nameOf? = some id →
        strip a = strip b := by
  intro h
  have hsame := h .flowchart adjoining 0 1 "end" "end_" "end_" (by decide) (by decide +kernel)
    (by decide +kernel) (by decide +kernel) (by decide +kernel)
  exact absurd hsame (by decide)

end Repair
end CodeDiagram
