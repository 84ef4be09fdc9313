/-
# Generated names are fresh

The search for a generated name tries one number after the other.  A number is
passed over only when its name is declared, and different numbers give
different names (`Naming.generated_injective`), so a search that tries more
numbers than there are elements ends at a name that no element has
(`Table.firstFree_free`).
-/

import CodeDiagram.Proofs.Identifier.Table
import Mathlib.Data.List.Nodup

namespace CodeDiagram
namespace Identifier

/-- Different numbers give different names. -/
theorem Naming.generated_injective (naming : Naming) : Function.Injective naming.generated := by
  intro m n h
  rw [generated, generated, String.append_right_inj] at h
  have hdigits : Nat.toDigits 10 m = Nat.toDigits 10 n := by
    rw [← Nat.toList_repr, ← Nat.toList_repr]
    exact congrArg String.toList h
  rw [← Nat.ofDigitChars_ten_toDigits (n := m), hdigits, Nat.ofDigitChars_ten_toDigits]

namespace Table

variable {t : Table} {tries n k : Nat} {raw : String}

theorem isDeclared_iff {id : String} : t.isDeclared id = true ↔ id ∈ t.ids :=
  List.contains_iff_mem

/-- A search that ends at a declared name has found all names that it tried declared. -/
theorem isDeclared_of_firstFree
    (h : t.isDeclared (t.naming.generated (t.firstFree tries n)) = true) (hk : k ≤ tries) :
    t.isDeclared (t.naming.generated (n + k)) = true := by
  induction tries generalizing n k with
  | zero =>
      obtain rfl : k = 0 := by omega
      exact h
  | succ tries ih =>
      rw [firstFree] at h
      split_ifs at h with hn
      · cases k with
        | zero => exact hn
        | succ k =>
            have hnext := ih h (k := k) (by omega)
            rwa [show n + 1 + k = n + (k + 1) by omega] at hnext
      · exact absurd h hn

/-- **A search that tries more numbers than there are elements ends at a free name.** -/
theorem firstFree_free (h : t.entries.length ≤ tries) :
    t.naming.generated (t.firstFree tries n) ∉ t.ids := by
  intro hmem
  -- otherwise `tries + 1` different names would stand among the identifiers of the elements
  have htried : ((List.range (tries + 1)).map fun k => t.naming.generated (n + k)) ⊆ t.ids := by
    intro id hid
    obtain ⟨k, hk, rfl⟩ := List.mem_map.1 hid
    have hle : k ≤ tries := Nat.le_of_lt_succ (List.mem_range.1 hk)
    exact isDeclared_iff.1 (isDeclared_of_firstFree (isDeclared_iff.2 hmem) hle)
  have hnodup : ((List.range (tries + 1)).map fun k => t.naming.generated (n + k)).Nodup := by
    refine List.nodup_range.map fun k l hkl => ?_
    exact Nat.add_left_cancel (t.naming.generated_injective hkl)
  have hlength := hnodup.length_le_of_subset htried
  rw [List.length_map, List.length_range, ids, List.length_map] at hlength
  omega

theorem fresh_free : t.naming.generated t.fresh ∉ t.ids := firstFree_free le_rfl

/-- An element whose name cleans to an identifier gets that identifier. -/
theorem declare_of_clean? {id : String} (h : t.naming.clean? (Text.trim raw) = some id) :
    (t.declare raw).1 = id := by
  simp only [declare, h]

/-- **An element of whose name nothing is kept gets a generated name that no element has.** -/
theorem declare_of_clean?_eq_none (h : t.naming.clean? (Text.trim raw) = none) :
    (∃ n, (t.declare raw).1 = t.naming.generated n) ∧ (t.declare raw).1 ∉ t.ids := by
  have hid : (t.declare raw).1 = t.naming.generated t.fresh := by simp only [declare, h]
  rw [hid]
  exact ⟨⟨_, rfl⟩, fresh_free⟩

end Table
end Identifier
end CodeDiagram
