/-
# What a table of names resolves

A table is a list of declarations, so what a reference means can be said
without the table (`meaning?`): the identifier of the last element declared
under its name; failing that, the cleaned reference if some element has that
identifier.  `Table.resolve?_eq_meaning?` says that this is what the table
answers.

Where all elements were declared under their own identifiers, every identifier
means itself (`Table.resolve?_of_settled`).
-/

import CodeDiagram.Proofs.Identifier.Naming

namespace CodeDiagram
namespace Identifier

variable {raw id : String}

/-- What a reference means among the elements declared, in their order. -/
def meaning? (naming : Naming) (declared : List Entry) (raw : String) : Option String :=
  match (declared.filter fun entry => entry.name == Text.trim raw).getLast? with
  | some entry => some entry.id
  | none =>
    (naming.clean? (Text.trim raw)).filter fun id => (declared.map Entry.id).contains id

/-- **A reference means a declared element.** -/
theorem mem_of_meaning? {naming : Naming} {declared : List Entry}
    (h : meaning? naming declared raw = some id) : id ∈ declared.map Entry.id := by
  unfold meaning? at h
  split at h
  · next entry hlast =>
      have hmem : entry ∈ declared := (List.mem_filter.1 (List.mem_of_getLast? hlast)).1
      rw [← Option.some.inj h]
      exact List.mem_map_of_mem hmem
  · exact List.contains_iff_mem.1 (Option.filter_eq_some_iff.1 h).2

/-- **Where identifiers follow from names, a declared name means what follows from it.** -/
theorem meaning?_of_forall {naming : Naming} {declared : List Entry} {f : String → String}
    {name : String} (hf : ∀ entry ∈ declared, entry.id = f entry.name)
    (hname : name ∈ declared.map Entry.name) (htrim : Text.trim name = name) :
    meaning? naming declared name = some (f name) := by
  obtain ⟨entry, hmem, rfl⟩ := List.mem_map.1 hname
  have hne : declared.filter (fun other => other.name == entry.name) ≠ [] :=
    List.ne_nil_of_mem (List.mem_filter.2 ⟨hmem, beq_self_eq_true _⟩)
  have hlast := List.getLast?_eq_some_getLast hne
  obtain ⟨hfound, hsame⟩ := List.mem_filter.1 (List.getLast_mem hne)
  rw [meaning?, htrim, hlast]
  simp only [hf _ hfound, beq_iff_eq.1 hsame]

namespace Table

variable {t : Table}

@[simp] theorem declare_naming (t : Table) (raw : String) :
    (t.declare raw).2.naming = t.naming := by
  simp only [declare]
  cases t.naming.clean? (Text.trim raw) <;> rfl

/-- Declaring an element puts its trimmed name and its identifier in front. -/
@[simp] theorem declare_entries (t : Table) (raw : String) :
    (t.declare raw).2.entries = ⟨Text.trim raw, (t.declare raw).1⟩ :: t.entries := by
  simp only [declare]
  cases t.naming.clean? (Text.trim raw) <;> rfl

/-- **Declared identifiers are admitted.** -/
theorem declare_admits (h : t.naming.Sound) (raw : String) :
    t.naming.Admits (t.declare raw).1 := by
  simp only [declare]
  cases hclean : t.naming.clean? (Text.trim raw) with
  | some id => exact Naming.clean?_admits h hclean
  | none => exact Naming.generated_admits h _

/-- An admitted identifier is declared as it stands. -/
theorem declare_of_admits (h : t.naming.Admits id) :
    t.declare id = (id, { t with entries := ⟨id, id⟩ :: t.entries }) := by
  rw [declare, h.trim, h.clean?]

/-- A name over letters, digits and `_` is declared with what the naming demands added to it. -/
theorem declare_of_isValid (h : isValid raw = true) :
    (t.declare raw).1 = t.naming.withoutReserved (t.naming.withOpening raw) := by
  rw [declare, trim_of_isValid h, Naming.clean?_of_isValid h]

theorem named?_eq_getLast? (t : Table) (name : String) :
    t.named? name =
      ((t.entries.reverse.filter fun entry => entry.name == name).getLast?).map Entry.id := by
  rw [named?, List.filter_reverse, List.getLast?_reverse, List.head?_filter]

/-- **A table answers what its declarations mean.** -/
theorem resolve?_eq_meaning? (t : Table) (raw : String) :
    t.resolve? raw = meaning? t.naming t.entries.reverse raw := by
  have hdeclared : t.isDeclared = fun id => (t.entries.reverse.map Entry.id).contains id := by
    funext id
    rw [isDeclared, ids, List.map_reverse, List.contains_reverse]
  simp only [resolve?, meaning?, named?_eq_getLast?, hdeclared]
  cases (t.entries.reverse.filter fun entry => entry.name == Text.trim raw).getLast? <;> rfl

/-- What a reference is resolved to is declared. -/
theorem mem_ids_of_resolve? (h : t.resolve? raw = some id) : id ∈ t.ids := by
  rw [resolve?_eq_meaning?] at h
  have hmem := mem_of_meaning? h
  rwa [List.map_reverse, List.mem_reverse] at hmem

/-- **Where names are identifiers, every identifier means itself.** -/
theorem resolve?_of_settled (hsettled : ∀ entry ∈ t.entries, entry.name = entry.id)
    (hid : id ∈ t.ids) (htrim : Text.trim id = id) : t.resolve? id = some id := by
  have hnames : t.entries.map Entry.name = t.ids := List.map_congr_left hsettled
  rw [resolve?_eq_meaning?]
  refine meaning?_of_forall (f := fun name => name) (fun entry hentry => ?_) ?_ htrim
  · exact (hsettled entry (List.mem_reverse.1 hentry)).symm
  · rw [List.map_reverse, hnames]
    exact List.mem_reverse.2 hid

end Table
end Identifier
end CodeDiagram
