/-
# Numbering elements without a name

An element of whose name nothing is kept gets a generated name.  The search for
it is a loop without a bound of its own: it tries one number after the other
until it meets a name that no element has (`Table.Search`).  It ends all the
same, where `Table.fresh` says, after at most one try more than there are
elements (`Table.search_iff`).

A generated name is declared at once, so every later search passes it over, and
the generated names of a run are different whatever else the run declares
(`Table.generatedIn_nodup`).
-/

import CodeDiagram.Proofs.Identifier.Fresh
import Mathlib.Data.List.Induction

namespace CodeDiagram
namespace Identifier
namespace Table

variable {t : Table} {n m k l tries : Nat} {raw : String}

/-! ### The search as a loop -/

/-- The search for a free generated name: begun at the number `n`, it ends after `k` tries at the
number `m`. -/
inductive Search (t : Table) : (n k m : Nat) → Prop
  | free {n : Nat} (hfree : t.naming.generated n ∉ t.ids) : Search t n 1 n
  | taken {n k m : Nat} (htaken : t.naming.generated n ∈ t.ids) (hnext : Search t (n + 1) k m) :
      Search t n (k + 1) m

/-- The search takes one course. -/
theorem Search.unique {m' : Nat} (h : t.Search n k m) (h' : t.Search n l m') :
    l = k ∧ m' = m := by
  induction h generalizing l with
  | free hfree =>
      cases h' with
      | free => exact ⟨rfl, rfl⟩
      | taken htaken => exact absurd htaken hfree
  | taken htaken _ ih =>
      cases h' with
      | free hfree => exact absurd htaken hfree
      | taken _ hnext =>
          obtain ⟨rfl, rfl⟩ := ih hnext
          exact ⟨rfl, rfl⟩

/-- If the number found within some tries is free, the search finds it within one try more. -/
theorem exists_search_firstFree (h : t.naming.generated (t.firstFree tries n) ∉ t.ids) :
    ∃ k ≤ tries + 1, t.Search n k (t.firstFree tries n) := by
  induction tries generalizing n with
  | zero => exact ⟨1, le_rfl, .free h⟩
  | succ tries ih =>
      rw [firstFree] at h ⊢
      split_ifs at h ⊢ with hn
      · obtain ⟨k, hk, hsearch⟩ := ih h
        exact ⟨k + 1, Nat.succ_le_succ hk, .taken (isDeclared_iff.1 hn) hsearch⟩
      · exact ⟨1, Nat.le_add_left 1 _, .free h⟩

/-- **The search ends after at most one try more than there are elements.** -/
theorem search_iff (t : Table) : ∃ tries ≤ t.ids.length + 1, ∀ k m,
    t.Search t.next k m ↔ k = tries ∧ m = t.fresh := by
  obtain ⟨tries, htries, hsearch⟩ := exists_search_firstFree (t := t) fresh_free
  rw [ids, List.length_map]
  refine ⟨tries, htries, fun k m => ⟨hsearch.unique, ?_⟩⟩
  rintro ⟨rfl, rfl⟩
  exact hsearch

/-! ### Runs of declarations -/

/-- The table after the elements of these names are declared in order. -/
def ofNames (naming : Naming) (names : List String) : Table :=
  names.foldl (fun t raw => (t.declare raw).2) (.empty naming)

/-- The name that is generated for an element, if nothing is kept of its own. -/
def generatedFor? (t : Table) (raw : String) : Option String :=
  if (t.naming.clean? (Text.trim raw)).isNone then some (t.declare raw).1 else none

/-- The names that are generated while elements of these names are declared in order. -/
def generatedIn (t : Table) : List String → List String
  | [] => []
  | raw :: rest => (t.generatedFor? raw).toList ++ (t.declare raw).2.generatedIn rest

theorem ofNames_naming (naming : Naming) (names : List String) :
    (ofNames naming names).naming = naming := by
  induction names using List.reverseRecOn with
  | nil => rfl
  | append_singleton names raw ih => rwa [ofNames, List.foldl_concat, declare_naming]

/-- Declaring an element puts its identifier in front. -/
theorem declare_ids (t : Table) (raw : String) :
    (t.declare raw).2.ids = (t.declare raw).1 :: t.ids := by
  rw [ids, declare_entries, List.map_cons, ids]

/-- What declaring an element with nothing kept of its name does. -/
theorem declare_eq_generated (h : t.naming.clean? (Text.trim raw) = none) :
    (t.declare raw).1 = t.naming.generated t.fresh ∧ (t.declare raw).2.next = t.fresh + 1 := by
  simp only [declare, h, and_self]

theorem generatedFor?_eq_some {id : String} (h : t.generatedFor? raw = some id) :
    id = (t.declare raw).1 ∧ id ∉ t.ids := by
  rw [generatedFor?] at h
  split_ifs at h with hclean
  rw [← Option.some.inj h]
  exact ⟨rfl, (declare_of_clean?_eq_none (Option.isNone_iff_eq_none.1 hclean)).2⟩

/-- A generated name is none of the identifiers before it. -/
theorem not_mem_ids_of_generatedIn {id : String} {names : List String}
    (hid : id ∈ t.generatedIn names) : id ∉ t.ids := by
  induction names generalizing t with
  | nil => cases hid
  | cons raw rest ih =>
      rcases List.mem_append.1 hid with hid | hid
      · exact (generatedFor?_eq_some (Option.mem_toList.1 hid)).2
      · have hlater := ih hid
        rw [declare_ids, List.mem_cons, not_or] at hlater
        exact hlater.2

/-- **The generated names of a run are pairwise different.** -/
theorem generatedIn_nodup (t : Table) (names : List String) : (t.generatedIn names).Nodup := by
  induction names generalizing t with
  | nil => exact .nil
  | cons raw rest ih =>
      rw [generatedIn]
      cases hid : t.generatedFor? raw with
      | none => exact ih _
      | some id =>
          refine List.nodup_cons.2 ⟨fun hmem => ?_, ih _⟩
          have hlater := not_mem_ids_of_generatedIn hmem
          rw [declare_ids, ← (generatedFor?_eq_some hid).1] at hlater
          exact hlater (List.mem_cons_self ..)

/-- **Generated names are found soon and never twice.**  After any run of declarations the search
for a generated name ends, after at most one try more than elements are declared, at a name that no
element has.  An element of whose name nothing is kept gets this name, and the next search begins
behind it.  All names generated in the run are different. -/
theorem search_of_names (naming : Naming) (names : List String) :
    (∃ tries ≤ (ofNames naming names).ids.length + 1, ∀ k m,
      (ofNames naming names).Search (ofNames naming names).next k m ↔
        k = tries ∧ m = (ofNames naming names).fresh) ∧
    naming.generated (ofNames naming names).fresh ∉ (ofNames naming names).ids ∧
    (∀ raw, naming.clean? (Text.trim raw) = none →
      ((ofNames naming names).declare raw).1 = naming.generated (ofNames naming names).fresh ∧
        ((ofNames naming names).declare raw).2.next = (ofNames naming names).fresh + 1) ∧
    ((empty naming).generatedIn names).Nodup := by
  have hnaming := ofNames_naming naming names
  have hfree : naming.generated (ofNames naming names).fresh ∉ (ofNames naming names).ids := by
    have hfresh := fresh_free (t := ofNames naming names)
    rwa [hnaming] at hfresh
  refine ⟨search_iff _, hfree, fun raw hclean => ?_, generatedIn_nodup _ _⟩
  rw [← hnaming] at hclean
  have hdeclare := declare_eq_generated hclean
  rwa [hnaming] at hdeclare

/-- `search_of_names` at work: `node_0` and `node_2` are taken, and names are generated around
them. -/
theorem search_of_names_taken :
    (empty Kind.flowchart.naming).generatedIn ["node_0", "?", "node_2", "", "!"] =
        ["node_1", "node_3", "node_4"] ∧
      Kind.flowchart.naming.clean? (Text.trim " . ") = none ∧
      ((ofNames Kind.flowchart.naming ["node_0", "?", "node_2", "", "!"]).declare " . ").1 =
        "node_5" := by
  have hclean : Kind.flowchart.naming.clean? (Text.trim " . ") = none := by decide +kernel
  obtain ⟨-, -, hdeclare, -⟩ :=
    search_of_names Kind.flowchart.naming ["node_0", "?", "node_2", "", "!"]
  refine ⟨by decide +kernel, hclean, ?_⟩
  rw [(hdeclare " . " hclean).1]
  decide +kernel

end Table
end Identifier
end CodeDiagram
