/-
# Written numbers

A number is written as a literal without an exponent: an integer as its digits,
any other number with digits on both sides of the point.  The grammar asks of
such a literal that there are digits before the point, the first of them no zero
unless it is the only one (`Literal.Positional`).  A literal of this form is read
up to its end, whatever comes next that does not go on with it
(`Lexeme.literal_append`), so a written number comes back as the number of its
literal (`Lexeme.tokenAt_number`).
-/

import CodeDiagram.Json.Lexeme
import CodeDiagram.Json.Printer
import CodeDiagram.Proofs.Decimal.Digits
import CodeDiagram.Proofs.Text.Span

namespace CodeDiagram
namespace Json

variable {p : Position} {c : Char} {cs rest : List Char} {l : Literal} {n : Number}

/-! ### Literals without an exponent -/

/-- What the grammar asks of a literal without an exponent. -/
structure Literal.Positional (l : Literal) : Prop where
  whole_ne_nil : l.whole ≠ []
  /-- A `0` stands before the point only by itself. -/
  leading : l.whole.head? = some '0' → l.whole = ['0']
  isDigit : ∀ c ∈ l.whole ++ l.fraction, c.isDigit = true
  exponent : l.exponent = none

/-- Goes on with a literal. -/
def continuesNumber (c : Char) : Bool := c.isDigit || c == '.' || c == 'e' || c == 'E'

/-- What cannot go on with a number starts with no digit. -/
theorem ends_isDigit (h : Span.Ends continuesNumber rest) : Span.Ends Char.isDigit rest := by
  intro c hc
  have hends := h c hc
  simp only [continuesNumber, Bool.or_eq_false_iff] at hends
  exact hends.1.1.1

namespace Lexeme

/-- The digits before the point are read up to their end. -/
theorem wholePart_append {whole : List Char} (hne : whole ≠ [])
    (hleading : whole.head? = some '0' → whole = ['0']) (hdigits : ∀ c ∈ whole, c.isDigit = true)
    (hrest : Span.Ends Char.isDigit rest) : wholePart p (whole ++ rest) = .ok whole := by
  obtain ⟨c, cs, rfl⟩ := List.exists_cons_of_ne_nil hne
  by_cases hzero : c = '0'
  · subst hzero
    obtain rfl : cs = [] := (List.cons.inj (hleading rfl)).2
    have hnone : rest.head?.any Char.isDigit = false := by
      cases hrest' : rest.head? with
      | none => rfl
      | some c => exact hrest c hrest'
    show (if rest.head?.any Char.isDigit then _ else _) = _
    rw [hnone]
    rfl
  · rw [List.cons_append, wholePart]
    · rw [if_pos (hdigits c (by simp)), ← List.cons_append, Span.takeWhile_append hdigits hrest]
    · exact hzero

/-- What stands between the digits before the point and the end. -/
def fractionText (fraction : List Char) : List Char :=
  if fraction.isEmpty then [] else '.' :: fraction

/-- The digits behind the point are read up to what cannot go on with a number. -/
theorem fractionPart_append {fraction : List Char} (hdigits : ∀ c ∈ fraction, c.isDigit = true)
    (hrest : Span.Ends continuesNumber rest) :
    fractionPart p (fractionText fraction ++ rest) = .ok fraction := by
  cases fraction with
  | nil =>
      cases rest with
      | nil => rfl
      | cons c cs =>
          have hpoint : c ≠ '.' := by
            rintro rfl
            exact absurd (hrest '.' rfl) (by decide)
          show fractionPart p (c :: cs) = _
          rw [fractionPart]
          exact fun _ h => hpoint (List.cons.inj h).1
  | cons d ds =>
      have hrun := Span.takeWhile_append hdigits (ends_isDigit hrest)
      show fractionPart p ('.' :: (d :: ds ++ rest)) = _
      rw [fractionPart, hrun]
      rfl

/-- Where nothing goes on with a number there is no exponent. -/
theorem exponentPart_of_ends (hrest : Span.Ends continuesNumber rest) :
    exponentPart p rest = .ok none := by
  cases rest with
  | nil => rfl
  | cons c cs =>
      have hends := hrest c rfl
      simp only [continuesNumber, Bool.or_eq_false_iff, beq_eq_false_iff_ne] at hends
      rw [exponentPart, if_neg (by rintro (h | h); exacts [hends.1.2 h, hends.2 h])]

/-- The sign of a literal as it is written. -/
def signText (negative : Bool) : List Char := if negative then ['-'] else []

theorem text_eq (negative : Bool) (whole fraction : List Char) :
    Literal.text ⟨negative, whole, fraction, none⟩ =
      signText negative ++ whole ++ fractionText fraction :=
  List.append_nil _

/-- A literal shows its sign first. -/
theorem head?_text_append (h : l.Positional) (rest : List Char) :
    (l.text ++ rest).head? = some '-' ↔ l.negative = true := by
  obtain ⟨negative, whole, fraction, exponent⟩ := l
  obtain rfl : exponent = none := h.exponent
  obtain ⟨c, cs, rfl⟩ := List.exists_cons_of_ne_nil h.whole_ne_nil
  cases negative with
  | true => exact iff_of_true rfl rfl
  | false =>
      refine iff_of_false ?_ Bool.false_ne_true
      intro hhead
      obtain rfl : c = '-' := Option.some.inj hhead
      exact absurd (h.isDigit '-' (by simp)) (by decide)

/-- **A literal is read up to its end.** -/
theorem literal_append (h : l.Positional) (hrest : Span.Ends continuesNumber rest) :
    literal p (l.text ++ rest) = .ok l := by
  have hsign := head?_text_append h rest
  obtain ⟨negative, whole, fraction, exponent⟩ := l
  obtain rfl : exponent = none := h.exponent
  have hwhole : ∀ c ∈ whole, c.isDigit = true := fun c hc =>
    h.isDigit c (List.mem_append_left _ hc)
  have hfraction : ∀ c ∈ fraction, c.isDigit = true := fun c hc =>
    h.isDigit c (List.mem_append_right _ hc)
  have hpoint : Span.Ends Char.isDigit (fractionText fraction ++ rest) := by
    cases fraction with
    | nil => exact ends_isDigit hrest
    | cons d ds => exact Span.ends_of_head? rfl (by decide)
  rw [text_eq, List.append_assoc, List.append_assoc] at hsign ⊢
  -- what is left to read behind the sign, behind the whole part and behind the fraction
  have hsigned : (signText negative ++ (whole ++ (fractionText fraction ++ rest))).drop
      (Literal.text ⟨negative, [], [], none⟩).length =
        whole ++ (fractionText fraction ++ rest) := by
    rw [text_eq]
    simp [fractionText]
  have hcounted : (signText negative ++ (whole ++ (fractionText fraction ++ rest))).drop
      (Literal.text ⟨negative, whole, [], none⟩).length = fractionText fraction ++ rest := by
    rw [text_eq, ← List.append_assoc]
    simp [fractionText]
  have hdone : (signText negative ++ (whole ++ (fractionText fraction ++ rest))).drop
      (Literal.text ⟨negative, whole, fraction, none⟩).length = rest := by
    rw [text_eq, ← List.append_assoc, ← List.append_assoc, List.drop_left]
  simp only [literal, hsign, Bool.decide_eq_true, hsigned, hcounted, hdone,
    wholePart_append h.whole_ne_nil h.leading hwhole hpoint, fractionPart_append hfraction hrest,
    exponentPart_of_ends hrest, bind, Except.bind, pure, Except.pure]

end Lexeme

/-! ### Numbers -/

namespace Number

/-- The literal that a number is written as. -/
def literal : Number → Literal
  | .integer n => ⟨decide (n < 0), Nat.toDigits 10 n.natAbs, [], none⟩
  | .decimal negative digits power =>
    ⟨negative, Decimal.Digits.before ⟨digits, power⟩, Decimal.Digits.behind ⟨digits, power⟩, none⟩

/-- Zeros follow the digits only if these are not zero themselves. -/
def Legible : Number → Prop
  | .integer _ => True
  | .decimal _ digits power => digits ≠ 0 ∨ power ≤ 0

/-- A number is written as its literal. -/
theorem toList_text (n : Number) : n.text.toList = n.literal.text := by
  cases n with
  | integer n =>
      rw [literal, Lexeme.text_eq]
      cases n with
      | ofNat m =>
          show (Nat.repr m).toList = [] ++ Nat.toDigits 10 m ++ []
          rw [Nat.repr_eq_ofList_toDigits, String.toList_ofList, List.nil_append, List.append_nil]
      | negSucc m =>
          rw [decide_eq_true (Int.negSucc_lt_zero m)]
          show ("-" ++ Nat.repr (m + 1)).toList = ['-'] ++ Nat.toDigits 10 (m + 1) ++ []
          rw [String.toList_append, Nat.repr_eq_ofList_toDigits, String.toList_ofList,
            String.toList_ofList, List.append_nil]
  | decimal negative digits power =>
      have hbehind := Decimal.Digits.behind_ne_nil ⟨digits, power⟩
      have hpoint : Lexeme.fractionText (Decimal.Digits.behind ⟨digits, power⟩) =
          '.' :: Decimal.Digits.behind ⟨digits, power⟩ :=
        if_neg (mt List.isEmpty_iff.1 hbehind)
      rw [text, String.toList_append, Decimal.Digits.toList_text, literal, Lexeme.text_eq, hpoint,
        List.append_assoc]
      cases negative <;> rfl

/-- A number that can be read is written without an exponent. -/
theorem positional_literal (h : n.Legible) : n.literal.Positional := by
  cases n with
  | integer n =>
      refine ⟨Nat.toDigits_ne_nil, fun hhead => ?_, fun c hc => ?_, rfl⟩
      · have hzero : n.natAbs = 0 := by_contra fun hne => Decimal.head?_toDigits hne hhead
        show Nat.toDigits 10 n.natAbs = _
        rw [hzero]
        rfl
      · exact Decimal.isDigit_of_mem_toDigits ((List.append_nil _) ▸ hc)
  | decimal negative digits power =>
      exact ⟨Decimal.Digits.before_ne_nil _, Decimal.Digits.before_of_head? h,
        fun c => Decimal.Digits.isDigit_of_mem, rfl⟩

end Number

namespace Lexeme

/-- What a literal is read as. -/
def scalarOf (p : Position) (l : Literal) : Except Error Json :=
  if l.outOfRange then .error ⟨.numberOutOfRange, p.past l.textToRange⟩ else .ok (.number l.number)

/-- A sign or a digit opens a number. -/
theorem tokenAt_of_opens (hc : (c == '-' || c.isDigit) = true) (cs : List Char) :
    tokenAt p c cs =
      match number p (c :: cs) with
      | .ok r => ⟨.scalar r.value, r.length⟩
      | .error e => ⟨.broken e, 1⟩ := by
  unfold tokenAt
  split
  all_goals first | exact absurd hc (by decide) | exact if_pos hc

theorem text_ne_nil (h : l.Positional) : l.text ≠ [] :=
  List.append_ne_nil_of_left_ne_nil (List.append_ne_nil_of_left_ne_nil
    (List.append_ne_nil_of_right_ne_nil _ h.whole_ne_nil) _) _

/-- A literal opens with a sign or a digit. -/
theorem opens_text (h : l.Positional) (htext : l.text = c :: cs) :
    (c == '-' || c.isDigit) = true := by
  obtain ⟨negative, whole, fraction, exponent⟩ := l
  obtain rfl : exponent = none := h.exponent
  rw [text_eq] at htext
  cases negative with
  | true =>
      obtain rfl : '-' = c := (List.cons.inj htext).1
      rfl
  | false =>
      obtain ⟨d, ds, rfl⟩ := List.exists_cons_of_ne_nil h.whole_ne_nil
      obtain rfl : d = c := (List.cons.inj htext).1
      rw [h.isDigit d (by simp), Bool.or_true]

/-- **A number is read as a token up to its end.** -/
theorem tokenAt_number (h : l.Positional) (htext : l.text = c :: cs)
    (hrest : Span.Ends continuesNumber rest) :
    tokenAt p c (cs ++ rest) = ⟨.scalar (scalarOf p l), cs.length + 1⟩ := by
  have hnumber : number p (c :: (cs ++ rest)) = .ok ⟨scalarOf p l, cs.length + 1⟩ := by
    rw [← List.cons_append, ← htext, number, literal_append h hrest]
    show Except.ok (⟨scalarOf p l, l.text.length⟩ : Reading (Except Error Json)) = _
    rw [htext]
    rfl
  rw [tokenAt_of_opens (opens_text h htext), hnumber]

end Lexeme
end Json
end CodeDiagram
