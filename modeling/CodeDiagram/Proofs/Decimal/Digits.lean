/-
# Decimals as they are written

A decimal is written in full, with digits on both sides of the point
(`Digits.toList_text`).  Its first digit is a zero only if that is the one digit
before the point (`Digits.before_of_head?`); otherwise it would be taken for an
octal number.  Where zeros follow the digits this asks for digits that are not
zero themselves, and the shortest decimal that reads back as a positive number
has such digits (`Format.digits_ne_zero_of_shortest`).
-/

import CodeDiagram.Decimal.Shortest
import Mathlib.Algebra.Group.Nat.Defs
import Mathlib.Data.Int.Notation
import Mathlib.Tactic.SplitIfs

namespace CodeDiagram
namespace Decimal

/-- A number is written in digits. -/
theorem isDigit_of_mem_toDigits {n : ℕ} {c : Char} (h : c ∈ Nat.toDigits 10 n) :
    c.isDigit = true :=
  Nat.isDigit_of_mem_toDigits (by decide) (by decide) h

/-- The first digit of a positive number is no zero. -/
theorem head?_toDigits {n : ℕ} (h : n ≠ 0) : (Nat.toDigits 10 n).head? ≠ some '0' := by
  induction n using Nat.strongRecOn with
  | ind n ih =>
      rcases Nat.lt_or_ge n 10 with hlt | hge
      · rw [Nat.toDigits_of_lt_base hlt]
        have hdigit : ∀ m < 10, m ≠ 0 → [m.digitChar].head? ≠ some '0' := by decide
        exact hdigit n hlt h
      · rw [Nat.toDigits_of_base_le (by decide) hge, List.head?_append]
        have hfirst := ih (n / 10) (Nat.div_lt_self (by omega) (by decide)) (by omega)
        obtain ⟨c, cs, hdigits⟩ := List.exists_cons_of_ne_nil (Nat.toDigits_ne_nil (n := n / 10))
        rw [hdigits] at hfirst ⊢
        exact hfirst

/-! ### The text of a decimal -/

namespace Digits

variable {d : Digits} {c : Char}

/-- The digits, with zeros before them if they do not reach the point. -/
def padded (d : Digits) : List Char :=
  List.replicate ((-d.power).toNat + 1 - (Nat.toDigits 10 d.digits).length) '0' ++
    Nat.toDigits 10 d.digits

/-- What is written before the point. -/
def before (d : Digits) : List Char :=
  if 0 ≤ d.power then Nat.toDigits 10 d.digits ++ List.replicate d.power.toNat '0'
  else d.padded.take (d.padded.length - (-d.power).toNat)

/-- What is written behind the point. -/
def behind (d : Digits) : List Char :=
  if 0 ≤ d.power then ['0'] else d.padded.drop (d.padded.length - (-d.power).toNat)

/-- A decimal is written with a point between what stands before it and behind it. -/
theorem toList_text (d : Digits) : d.text.toList = d.before ++ '.' :: d.behind := by
  rw [text, before, behind, padded]
  split_ifs
  · rw [String.toList_append, String.toList_ofList]
    rfl
  · rw [String.toList_append, String.toList_append, String.toList_ofList, String.toList_ofList,
      String.toList_ofList, List.append_assoc]
    rfl

/-- There are more digits than those behind the point, so one is left before it. -/
theorem length_padded (d : Digits) : (-d.power).toNat < d.padded.length := by
  rw [padded, List.length_append, List.length_replicate]
  omega

theorem isDigit_of_mem_padded (h : c ∈ d.padded) : c.isDigit = true := by
  rcases List.mem_append.1 h with h | h
  · rw [List.eq_of_mem_replicate h]
    rfl
  · exact isDigit_of_mem_toDigits h

/-- Something stands before the point. -/
theorem before_ne_nil (d : Digits) : d.before ≠ [] := by
  rw [before]
  split_ifs
  · exact List.append_ne_nil_of_left_ne_nil Nat.toDigits_ne_nil _
  · have hlength := d.length_padded
    rw [Ne, List.take_eq_nil_iff, not_or]
    exact ⟨by omega, List.ne_nil_of_length_pos (by omega)⟩

/-- Something stands behind the point. -/
theorem behind_ne_nil (d : Digits) : d.behind ≠ [] := by
  rw [behind]
  split_ifs
  · exact List.cons_ne_nil _ _
  · have hlength := d.length_padded
    rw [Ne, List.drop_eq_nil_iff]
    omega

theorem isDigit_of_mem (h : c ∈ d.before ++ d.behind) : c.isDigit = true := by
  rw [before, behind] at h
  split_ifs at h
  · rw [List.append_assoc, ← List.replicate_succ'] at h
    rcases List.mem_append.1 h with h | h
    · exact isDigit_of_mem_toDigits h
    · rw [List.eq_of_mem_replicate h]
      rfl
  · rw [List.take_append_drop] at h
    exact isDigit_of_mem_padded h

/-- **A zero stands before the point only by itself**, unless zeros follow a zero. -/
theorem before_of_head? (hd : d.digits ≠ 0 ∨ d.power ≤ 0) (h : d.before.head? = some '0') :
    d.before = ['0'] := by
  rw [before] at h ⊢
  split_ifs at h ⊢ with hpower
  · by_cases hzero : d.digits = 0
    · have hnone : d.power.toNat = 0 := by omega
      rw [hzero, hnone]
      rfl
    · obtain ⟨c, cs, hdigits⟩ := List.exists_cons_of_ne_nil (Nat.toDigits_ne_nil (n := d.digits))
      refine absurd ?_ (head?_toDigits hzero)
      rwa [hdigits] at h ⊢
  · have hlength := d.length_padded
    rw [List.head?_take, if_neg (by omega)] at h
    rcases Nat.lt_or_ge (-d.power).toNat (Nat.toDigits 10 d.digits).length with hlong | hshort
    · have hpadded : d.padded = Nat.toDigits 10 d.digits := by
        rw [padded, Nat.sub_eq_zero_of_le hlong]
        rfl
      have hbig : ¬ d.digits < 10 := fun hlt => by
        rw [Nat.toDigits_of_lt_base hlt] at hlong
        simp only [List.length_singleton] at hlong
        omega
      rw [hpadded] at h
      exact absurd h (head?_toDigits (by omega))
    · have hone : d.padded.length - (-d.power).toNat = 1 := by
        rw [padded, List.length_append, List.length_replicate]
        omega
      obtain ⟨c, cs, hcons⟩ := List.exists_cons_of_ne_nil (List.ne_nil_of_length_pos
        (Nat.lt_of_le_of_lt (Nat.zero_le _) hlength))
      rw [hcons] at h
      rw [hone, hcons, Option.some.inj h]
      rfl

end Digits

/-! ### The shortest decimal -/

/-- A number is below the power of ten of its length. -/
theorem lt_ten_pow_digitCount (n : ℕ) : n < 10 ^ digitCount n :=
  (Nat.length_toDigits_le_iff (by decide) Nat.length_toDigits_pos).1 (Nat.le_refl _)

/-- A number reaches the power of ten below its length. -/
theorem ten_pow_digitCount_le {n : ℕ} (h : n ≠ 0) : 10 ^ (digitCount n - 1) ≤ n := by
  have hpos : 0 < digitCount n := Nat.length_toDigits_pos
  rcases Nat.eq_zero_or_pos (digitCount n - 1) with hone | hmore
  · rw [hone]
    exact Nat.one_le_iff_ne_zero.2 h
  · refine Nat.not_lt.1 fun hlt => ?_
    have hlength : digitCount n ≤ digitCount n - 1 :=
      (Nat.length_toDigits_le_iff (by decide) hmore).2 hlt
    omega

namespace Fraction

variable {q : Fraction} {j k : ℤ}

/-- The fraction is one or more. -/
def AtLeastOne (q : Fraction) : Prop := q.den ≤ q.num

theorem scale_of_nonneg (h : 0 ≤ k) (q : Fraction) :
    q.scale 10 k = ⟨q.num * 10 ^ k.toNat, q.den⟩ := if_pos h

theorem scale_of_neg (h : k < 0) (q : Fraction) :
    q.scale 10 k = ⟨q.num, q.den * 10 ^ (-k).toNat⟩ := if_neg (by omega)

/-- What reaches one reaches it on a greater scale as well. -/
theorem atLeastOne_scale_of_le (hjk : j ≤ k) (h : (q.scale 10 j).AtLeastOne) :
    (q.scale 10 k).AtLeastOne := by
  rcases Int.lt_or_le j 0 with hj | hj
  · rw [scale_of_neg hj] at h
    rcases Int.lt_or_le k 0 with hk | hk
    · rw [scale_of_neg hk]
      exact Nat.le_trans (Nat.mul_le_mul_left _ (Nat.pow_le_pow_right (by decide) (by omega))) h
    · rw [scale_of_nonneg hk]
      exact Nat.le_trans (Nat.le_mul_of_pos_right _ (Nat.pow_pos (by decide)))
        (Nat.le_trans h (Nat.le_mul_of_pos_right _ (Nat.pow_pos (by decide))))
  · rw [scale_of_nonneg hj] at h
    rw [scale_of_nonneg (Int.le_trans hj hjk)]
    exact Nat.le_trans h (Nat.mul_le_mul_left _ (Nat.pow_le_pow_right (by decide) (by omega)))

/-- A positive fraction is not less than the power of ten where its first digit stands. -/
theorem atLeastOne_scale_firstPower (hq : q.num ≠ 0) :
    (q.scale 10 (-q.firstPower)).AtLeastOne := by
  have hnum := ten_pow_digitCount_le hq
  have hden := lt_ten_pow_digitCount q.den
  have hpos : 0 < digitCount q.num := Nat.length_toDigits_pos
  simp only [firstPower]
  split_ifs with hfirst
  · exact hfirst
  · rcases Int.lt_or_le (-((digitCount q.num : ℤ) - digitCount q.den - 1)) 0 with hj | hj
    · rw [scale_of_neg hj]
      refine Nat.le_trans (Nat.mul_le_mul_right _ (Nat.le_of_lt hden)) (Nat.le_trans ?_ hnum)
      rw [← Nat.pow_add]
      exact Nat.pow_le_pow_right (by decide) (by omega)
    · rw [scale_of_nonneg hj]
      refine Nat.le_trans (Nat.le_of_lt hden) (Nat.le_trans ?_ (Nat.mul_le_mul_right _ hnum))
      rw [← Nat.pow_add]
      exact Nat.pow_le_pow_right (by decide) (by omega)

/-- A fraction that reaches one is not rounded to nothing. -/
theorem nearest_ne_zero (h : q.num / q.den ≠ 0) : q.nearest ≠ 0 := by
  simp only [nearest]
  generalize q.num / q.den = whole at h ⊢
  split_ifs <;> omega

theorem den_scale_ne_zero {base : ℕ} (hbase : 0 < base) (hden : q.den ≠ 0) :
    (q.scale base k).den ≠ 0 := by
  rw [scale]
  split_ifs
  · exact hden
  · exact Nat.mul_ne_zero hden (Nat.ne_of_gt (Nat.pow_pos hbase))

end Fraction

namespace Format

variable {f : Format} {x : Dyadic} {d : Digits}

theorem num_fraction_ne_zero (hx : x.significand ≠ 0) : x.fraction.num ≠ 0 := by
  rw [Dyadic.fraction, Fraction.scale]
  split_ifs
  · exact Nat.mul_ne_zero hx (Nat.ne_of_gt (Nat.pow_pos (by decide)))
  · exact hx

theorem num_lowerEnd_ne_zero (hx : x.significand ≠ 0) : (f.lowerEnd x).num ≠ 0 := by
  rw [lowerEnd]
  split_ifs <;> exact num_fraction_ne_zero (by show _ - 1 ≠ 0; omega)

/-- Zero does not read back as a positive number. -/
theorem digits_ne_zero_of_readsBack (hx : x.significand ≠ 0) (h : f.readsBack x d = true) :
    d.digits ≠ 0 := by
  intro hzero
  have hlower : (f.lowerEnd x).below (decide (x.significand % 2 = 0)) d.fraction = true :=
    (Bool.and_eq_true_iff.1 h).1
  have hnum : d.fraction.num = 0 := by
    rw [Digits.fraction, Fraction.scale]
    split_ifs <;> simp [hzero]
  have hden : d.fraction.den ≠ 0 := Fraction.den_scale_ne_zero (by decide) Nat.one_ne_zero
  have hpos : 0 < (f.lowerEnd x).num * d.fraction.den :=
    Nat.pos_of_ne_zero (Nat.mul_ne_zero (num_lowerEnd_ne_zero hx) hden)
  rw [Fraction.below, hnum, Nat.zero_mul] at hlower
  split_ifs at hlower <;> simp only [decide_eq_true_eq] at hlower <;> omega

/-- A neighbour of a number that is not zero has digits that are not zero. -/
theorem digits_ne_zero_of_neighbour? {power : ℤ} (hx : x.significand ≠ 0)
    (h : f.neighbour? x power = some d) : d.digits ≠ 0 := by
  simp only [neighbour?] at h
  split at h
  · next hdown _ =>
    cases h
    exact Fraction.nearest_ne_zero (digits_ne_zero_of_readsBack hx hdown)
  · next hdown _ =>
    cases h
    exact digits_ne_zero_of_readsBack hx hdown
  · cases h
    exact Nat.succ_ne_zero _
  · cases h

/-- Whatever grid is taken in the end, the digits on it are not zero. -/
theorem digits_ne_zero_of_shortestFrom (hx : x.significand ≠ 0) (tries : ℕ) :
    ∀ n : ℕ, 1 ≤ n → (f.shortestFrom x x.fraction.firstPower tries n).digits ≠ 0 := by
  induction tries with
  | zero =>
      intro n hn
      have hfirst := Fraction.atLeastOne_scale_firstPower (num_fraction_ne_zero hx)
      have hscaled := Fraction.atLeastOne_scale_of_le
        (k := (n : ℤ) - 1 - x.fraction.firstPower) (by omega) hfirst
      have hden : x.fraction.den ≠ 0 := Fraction.den_scale_ne_zero (by decide) Nat.one_ne_zero
      exact Fraction.nearest_ne_zero (Nat.ne_of_gt (Nat.div_pos hscaled
        (Nat.pos_of_ne_zero (Fraction.den_scale_ne_zero (by decide) hden))))
  | succ tries ih =>
      intro n hn
      rw [shortestFrom]
      cases hnear : f.neighbour? x (x.fraction.firstPower - ((n : ℤ) - 1)) with
      | some d => exact digits_ne_zero_of_neighbour? hx hnear
      | none => exact ih (n + 1) (by omega)

/-- **The shortest decimal of a positive number has digits that are not zero.** -/
theorem digits_ne_zero_of_shortest (hx : x.significand ≠ 0) : (f.shortest x).digits ≠ 0 := by
  have hdigits := digits_ne_zero_of_shortestFrom (f := f) hx 16 1 (Nat.le_refl 1)
  rw [shortest, Digits.withoutZero]
  split_ifs with hend
  · show _ / 10 ≠ 0
    omega
  · exact hdigits

end Format
end Decimal
end CodeDiagram
