/-
# Reading the token of a cardinality

The table of multiplicities is read backwards without loss: two characters
stand for at most one multiplicity at each end, and for at most one line
between the ends.  A text is therefore read as a cardinality exactly when it is
the token of that cardinality (`ofToken?_eq_some_iff`).
-/

import CodeDiagram.Plan.Cardinality

namespace CodeDiagram

/-- Two characters are read at the left end as the multiplicity that they stand for there. -/
theorem Multiplicity.ofLeft?_eq_some_iff {a b : Char} {m : Multiplicity} :
    ofLeft? a b = some m ↔ [a, b] = m.leftToken := by
  constructor
  · intro h
    unfold ofLeft? at h
    split at h <;> cases h <;> rfl
  · intro h
    cases m <;> cases h <;> rfl

/-- So they are at the right end. -/
theorem Multiplicity.ofRight?_eq_some_iff {a b : Char} {m : Multiplicity} :
    ofRight? a b = some m ↔ [a, b] = m.rightToken := by
  constructor
  · intro h
    unfold ofRight? at h
    split at h <;> cases h <;> rfl
  · intro h
    cases m <;> cases h <;> rfl

namespace Cardinality

/-- Two characters between the ends are read as the line that they draw. -/
theorem ofLine?_eq_some_iff {a b : Char} {identifying : Bool} :
    ofLine? a b = some identifying ↔ [a, b] = lineToken identifying := by
  constructor
  · intro h
    unfold ofLine? at h
    split at h <;> cases h <;> rfl
  · intro h
    cases identifying <;> cases h <;> rfl

/-- Every cardinality is read back from its token. -/
theorem ofToken?_token (c : Cardinality) : ofToken? c.token = some c := by
  obtain ⟨left, identifying, right⟩ := c
  cases left <;> cases identifying <;> cases right <;> rfl

/-- **A text is read as the cardinality whose token it is.** -/
theorem ofToken?_eq_some_iff {s : String} {c : Cardinality} :
    ofToken? s = some c ↔ s = c.token := by
  constructor
  · intro h
    unfold ofToken? at h
    split at h
    · next a b c d e f hchars =>
        obtain ⟨left, hleft, h⟩ := Option.bind_eq_some_iff.1 h
        obtain ⟨identifying, hline, h⟩ := Option.bind_eq_some_iff.1 h
        obtain ⟨right, hright, h⟩ := Option.bind_eq_some_iff.1 h
        cases h
        rw [Multiplicity.ofLeft?_eq_some_iff] at hleft
        rw [ofLine?_eq_some_iff] at hline
        rw [Multiplicity.ofRight?_eq_some_iff] at hright
        rw [token, tokenChars, ← hleft, ← hline, ← hright, ← String.ofList_toList (s := s), hchars]
        rfl
    · cases h
  · rintro rfl
    exact ofToken?_token c

end Cardinality
end CodeDiagram
