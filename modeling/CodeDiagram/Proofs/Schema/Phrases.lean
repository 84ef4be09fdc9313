/-
# What a free cardinality is read as

Section 4.3 of `SPEC_FULL.md`, cardinalities.

A cardinality can be written as a token, with blanks anywhere in it, or as a
phrase, of which only the ASCII letters and digits count, without regard to
case:

| phrases | token |
| --- | --- |
| `onetoone`, `11`, `1to1` | `||--||` |
| `onetomany`, `1n`, `1m`, `1tomany`, `1ton` | `||--o{` |
| `manytoone`, `n1`, `m1`, `manyto1`, `nto1` | `}o--||` |
| `manytomany`, `nm`, `mn`, `nn` | `}o--o{` |

A mended text is read as a cardinality exactly when it is one of the two
(`ofToken?_canonicalCardinality_iff`).  No text is both: the only letter of a
token is `o`, and every phrase has a letter or a digit besides
(`not_phrase_of_token`).
-/

import CodeDiagram.Proofs.Identifier.Naming
import CodeDiagram.Proofs.Repair.Mending
import CodeDiagram.Proofs.Schema.Elements

namespace CodeDiagram

open Json (Fields)

namespace Cardinality

/-- The phrases for each token that has some. -/
def phrases : List (String × List String) :=
  [("||--||", ["onetoone", "11", "1to1"]),
    ("||--o\x7b", ["onetomany", "1n", "1m", "1tomany", "1ton"]),
    ("\x7do--||", ["manytoone", "n1", "m1", "manyto1", "nto1"]),
    ("\x7do--o\x7b", ["manytomany", "nm", "mn", "nn"])]

/-- The ASCII letters and digits of a text, in lower case. -/
def phrase (raw : String) : String :=
  String.ofList ((raw.toList.filter Char.isAlphanum).map Char.toLower)

/-- The text without its blanks. -/
def compact (raw : String) : String := String.ofList (raw.toList.filter fun c => !Text.isBlank c)

/-- The text spells a phrase for the token of the cardinality. -/
def IsPhrase (raw : String) (c : Cardinality) : Prop :=
  ∃ entry ∈ phrases, entry.1 = c.token ∧ phrase raw ∈ entry.2

variable {raw : String} {c c' : Cardinality}

/-- Blanks do not count in a phrase. -/
theorem phrase_compact (raw : String) : phrase (compact raw) = phrase raw := by
  have hfilter : ∀ ch : Char, (ch.isAlphanum && !Text.isBlank ch) = ch.isAlphanum := by
    intro ch
    cases hch : ch.isAlphanum with
    | false => rfl
    | true => rw [Identifier.isBlank_of_isAlphanum hch]; rfl
  rw [phrase, phrase, compact, String.toList_ofList, List.filter_filter]
  simp only [hfilter]

/-! ### No token is a phrase -/

theorem letters_leftToken (m : Multiplicity) :
    ∃ n, m.leftToken.filter Char.isAlphanum = List.replicate n 'o' := by
  cases m with
  | zeroOrOne | zeroOrMore => exact ⟨1, rfl⟩
  | exactlyOne | oneOrMore => exact ⟨0, rfl⟩

theorem letters_rightToken (m : Multiplicity) :
    ∃ n, m.rightToken.filter Char.isAlphanum = List.replicate n 'o' := by
  cases m with
  | zeroOrOne | zeroOrMore => exact ⟨1, rfl⟩
  | exactlyOne | oneOrMore => exact ⟨0, rfl⟩

theorem letters_lineToken (identifying : Bool) :
    (lineToken identifying).filter Char.isAlphanum = [] := by
  cases identifying <;> rfl

/-- The letters and digits of a token are all `o`. -/
theorem phrase_token (c : Cardinality) : ∃ n, (phrase c.token).toList = List.replicate n 'o' := by
  obtain ⟨l, hleft⟩ := letters_leftToken c.left
  obtain ⟨r, hright⟩ := letters_rightToken c.right
  refine ⟨l + r, ?_⟩
  rw [phrase, token, tokenChars, String.toList_ofList, String.toList_ofList, List.filter_append,
    List.filter_append, letters_lineToken, hleft, hright, List.append_nil,
    List.replicate_append_replicate, List.map_replicate]
  rfl

/-- **A text that is a token but for blanks spells no phrase.** -/
theorem not_phrase_of_token (h : compact raw = c.token) : ¬ IsPhrase raw c' := by
  rintro ⟨entry, hentry, -, hphrase⟩
  have hother : ∀ entry ∈ phrases, ∀ p ∈ entry.2, p.toList.all (· == 'o') = false := by
    decide +kernel
  have hnot := hother entry hentry _ hphrase
  obtain ⟨n, hletters⟩ := phrase_token c
  have hall : (List.replicate n 'o').all (· == 'o') = true :=
    List.all_eq_true.2 fun ch hch => beq_iff_eq.2 (List.eq_of_mem_replicate hch)
  rw [← phrase_compact, h, hletters, hall] at hnot
  cases hnot

/-! ### Reading a mended cardinality -/

theorem phraseCardinality?_congr {raw raw' : String} (h : phrase raw = phrase raw') :
    Repair.phraseCardinality? raw.toList = Repair.phraseCardinality? raw'.toList := by
  simp only [phrase] at h
  simp only [Repair.phraseCardinality?, h]

/-- **The phrases of the table are read, and no others.** -/
theorem phraseCardinality?_eq_some_iff :
    Repair.phraseCardinality? raw.toList = some c ↔ IsPhrase raw c := by
  constructor
  · intro h
    simp only [Repair.phraseCardinality?, List.contains_iff_mem] at h
    split_ifs at h with h₁ h₂ h₃ h₄ <;> cases h
    · exact ⟨phrases[0], by decide, rfl, h₁⟩
    · exact ⟨phrases[1], by decide, rfl, h₂⟩
    · exact ⟨phrases[2], by decide, rfl, h₃⟩
    · exact ⟨phrases[3], by decide, rfl, h₄⟩
  · rintro ⟨entry, hentry, htoken, hphrase⟩
    have hread : ∀ entry ∈ phrases, ∀ p ∈ entry.2,
        phrase p = p ∧ Repair.phraseCardinality? p.toList = ofToken? entry.1 := by decide +kernel
    obtain ⟨hself, hread⟩ := hread entry hentry _ hphrase
    rw [phraseCardinality?_congr hself.symm, hread, ofToken?_eq_some_iff]
    exact htoken

/-- **A mended text is read as a cardinality if it is its token but for blanks, or a phrase for
it.** -/
theorem ofToken?_canonicalCardinality_iff :
    ofToken? (Repair.canonicalCardinality raw) = some c ↔
      compact raw = c.token ∨ IsPhrase raw c := by
  have hread : ∀ c, Repair.phraseCardinality? (compact raw).toList = some c ↔ IsPhrase raw c := by
    intro c
    rw [phraseCardinality?_eq_some_iff, IsPhrase, IsPhrase, phrase_compact]
  rw [compact, String.toList_ofList] at hread
  cases hphrase : Repair.phraseCardinality? (raw.toList.filter fun c => !Text.isBlank c) with
  | some c' =>
      have hmended : Repair.canonicalCardinality raw = c'.token := by
        simp only [Repair.canonicalCardinality, hphrase]
      have hno : ¬ compact raw = c.token := fun h => not_phrase_of_token h ((hread c').1 hphrase)
      rw [hmended, ofToken?_token, ← hphrase, hread]
      exact (or_iff_right hno).symm
  | none =>
      have hmended : Repair.canonicalCardinality raw = compact raw := by
        simp only [Repair.canonicalCardinality, hphrase, compact]
      have hno : ¬ IsPhrase raw c := by
        rw [← hread, hphrase]
        exact (Option.some_ne_none c).symm
      rw [hmended, ofToken?_eq_some_iff]
      exact (or_iff_left hno).symm

/-- The cardinality of a mended link is read from the mended text. -/
theorem cardinality_tidyCardinality_iff (path : Path) (link : Fields) :
    Schema.Element.cardinality
          ⟨path, Repair.tidyCardinality (link.set "cardinality" (.string raw))⟩ "cardinality" =
        .ok c ↔
      ofToken? (Repair.canonicalCardinality raw) = some c := by
  rw [Schema.Element.cardinality_eq_ok_iff, Repair.text?_tidyCardinality, Fields.text?_set_self,
    Option.map_some, Option.some_inj, ofToken?_eq_some_iff]

/-- **What a free cardinality is read as.**  A text is read after mending as the cardinality whose
token it is but for blanks, or whose token its phrase stands for, and not at all if there is none;
this is what the schema finds in a mended link.  No text is both a token and a phrase, so no phrase
takes a token for another.  Without mending, a cardinality is read from its token alone. -/
theorem ofToken?_of_raw (raw : String) :
    (∀ c, ofToken? (Repair.canonicalCardinality raw) = some c ↔
      compact raw = c.token ∨ IsPhrase raw c) ∧
    (∀ (path : Path) (link : Fields) (c : Cardinality),
      Schema.Element.cardinality
          ⟨path, Repair.tidyCardinality (link.set "cardinality" (.string raw))⟩ "cardinality" =
        .ok c ↔ compact raw = c.token ∨ IsPhrase raw c) ∧
    (∀ c c' : Cardinality, ¬ (compact raw = c.token ∧ IsPhrase raw c')) ∧
    ∀ (s : String) (c : Cardinality), ofToken? s = some c ↔ s = c.token := by
  refine ⟨fun c => ofToken?_canonicalCardinality_iff, fun path link c => ?_,
    fun c c' ⟨htoken, hphrase⟩ => not_phrase_of_token htoken hphrase,
    fun s c => ofToken?_eq_some_iff⟩
  rw [cardinality_tidyCardinality_iff, ofToken?_canonicalCardinality_iff]

end Cardinality
end CodeDiagram
