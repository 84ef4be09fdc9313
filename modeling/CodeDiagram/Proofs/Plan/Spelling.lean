/-
# Loose spellings

Section 4.3 of `SPEC_FULL.md`, enum normalization.

A word of a vocabulary may be written in its canonical spelling or as one of
its synonyms, and each of these loosely (`Respelt`, `ofLoose?_of_respelt`):

| freedom | for `primary key` |
| --- | --- |
| letters in another case | `Primary KEY` |
| the marks ` - _ / .` put in or left out | `primary_key`, `p.r.i.m.a.r.y/key` |
| any blanks around | a tab before, an ideographic space behind |

What is left of a spelling in all this is its fold.  In the vocabularies of a
plan no two words have spellings that fold alike (`Unambiguous`), so a text
means the word that has a spelling of the same fold, and nothing if there is
none (`ofLoose?_eq_some_iff`).

Folding lowers the characters that a spelling can come from and leaves all
others as they are.  Any lowering that leaves no other character in ASCII reads
the same (`readBy_foldBy`).
-/

import CodeDiagram.Proofs.Identifier.Naming
import CodeDiagram.Proofs.Plan.Vocabulary
import CodeDiagram.Proofs.Text.Plain
import Mathlib

namespace CodeDiagram
namespace Vocabulary

open Text (OneLine isBlank isBlankText)

/-! ### Spellings -/

/-- The accepted spellings with the words that they spell. -/
def spellings (α : Type) [Vocabulary α] : List (String × α) :=
  (members.map fun word => (spelling word, word)) ++ synonyms

/-- Is an ASCII character. -/
def isAscii (c : Char) : Bool := c.toNat < 128

/-- No two words have spellings that fold alike.  The spellings are texts on one line, and what is
left of each is in ASCII and not empty. -/
class Unambiguous (α : Type) [Vocabulary α] : Prop where
  word_eq : ∀ p ∈ spellings α, ∀ q ∈ spellings α, fold p.1 = fold q.1 → p.2 = q.2
  oneLine : ∀ p ∈ spellings α, OneLine p.1
  fold_ne_empty : ∀ p ∈ spellings α, fold p.1 ≠ ""
  fold_ascii : ∀ p ∈ spellings α, (fold p.1).toList.all isAscii = true

instance : Unambiguous NodeKind where
  word_eq := by decide +kernel
  oneLine := by decide +kernel
  fold_ne_empty := by decide +kernel
  fold_ascii := by decide +kernel

instance : Unambiguous StepKind where
  word_eq := by decide +kernel
  oneLine := by decide +kernel
  fold_ne_empty := by decide +kernel
  fold_ascii := by decide +kernel

instance : Unambiguous RelationKind where
  word_eq := by decide +kernel
  oneLine := by decide +kernel
  fold_ne_empty := by decide +kernel
  fold_ascii := by decide +kernel

instance : Unambiguous KeyKind where
  word_eq := by decide +kernel
  oneLine := by decide +kernel
  fold_ne_empty := by decide +kernel
  fold_ascii := by decide +kernel

/-- The second text is the first with letters in another case and with separators put in or left
out. -/
inductive Respelt : List Char → List Char → Prop where
  | nil : Respelt [] []
  | letter {c d : Char} {cs ds : List Char} : d.toLower = c.toLower → Respelt cs ds →
      Respelt (c :: cs) (d :: ds)
  | putIn {d : Char} {cs ds : List Char} : isSeparator d = true → Respelt cs ds →
      Respelt cs (d :: ds)
  | leftOut {c : Char} {cs ds : List Char} : isSeparator c = true → Respelt cs ds →
      Respelt (c :: cs) ds

section Folding

variable {c d : Char} {cs ds : List Char} {s w front back : String}

/-! ### What is left of a spelling -/

/-- The characters that are left of a trimmed text. -/
def core (cs : List Char) : List Char := (cs.filter fun c => !isSeparator c).map lower

theorem core_append (cs ds : List Char) : core (cs ++ ds) = core cs ++ core ds := by
  rw [core, List.filter_append, List.map_append, core, core]

theorem core_cons_of_isSeparator (h : isSeparator c = true) (cs : List Char) :
    core (c :: cs) = core cs := by
  rw [core, List.filter_cons_of_neg (by simp [h]), core]

/-- The case of a letter is all that two characters of the same lower case differ in. -/
theorem eq_or_isAlpha_of_toLower_eq (h : d.toLower = c.toLower) :
    d = c ∨ d.isAlpha = true ∧ c.isAlpha = true := by
  have halpha : d.isAlpha = c.isAlpha := by
    rw [← Char.isAlpha_toLower_eq_isAlpha d, h, Char.isAlpha_toLower_eq_isAlpha]
  cases hc : c.isAlpha with
  | true => exact .inr ⟨halpha.trans hc, rfl⟩
  | false =>
      have hlower : ∀ c : Char, c.isAlpha = false → c.toLower = c := fun c hc =>
        Char.toLower_eq_of_not_isUpper (by simp_all [Char.isAlpha])
      rw [hlower d (halpha.trans hc), hlower c hc] at h
      exact .inl h

theorem isSeparator_of_isAlpha (h : c.isAlpha = true) : isSeparator c = false := by
  rw [Bool.eq_false_iff]
  intro hseparator
  simp only [isSeparator, Bool.or_eq_true, beq_iff_eq] at hseparator
  rcases hseparator with (((rfl | rfl) | rfl) | rfl) | rfl <;> exact absurd h (by decide)

theorem lower_of_isAlpha (h : c.isAlpha = true) : lower c = c.toLower := by
  refine if_neg fun hkelvin => ?_
  obtain rfl : c = Char.ofNat 0x212A := Char.toNat_inj.1 hkelvin
  exact absurd h (by decide)

theorem core_cons_of_toLower_eq (h : d.toLower = c.toLower) (hcore : core ds = core cs) :
    core (d :: ds) = core (c :: cs) := by
  rcases eq_or_isAlpha_of_toLower_eq h with rfl | ⟨hd, hc⟩
  · rw [← List.singleton_append, core_append, hcore, ← core_append, List.singleton_append]
  · have hkept : ∀ {c : Char}, c.isAlpha = true → ∀ cs, core (c :: cs) = c.toLower :: core cs := by
      intro c hc cs
      rw [core, List.filter_cons_of_pos (by simp [isSeparator_of_isAlpha hc]), List.map_cons,
        lower_of_isAlpha hc, core]
    rw [hkept hd, hkept hc, h, hcore]

/-- **The same is left of a text however it is respelt.** -/
theorem Respelt.core_eq (h : Respelt cs ds) : core ds = core cs := by
  induction h with
  | nil => rfl
  | letter hcase _ ih => exact core_cons_of_toLower_eq hcase ih
  | putIn hseparator _ ih => rw [core_cons_of_isSeparator hseparator, ih]
  | leftOut hseparator _ ih => rw [core_cons_of_isSeparator hseparator, ih]

/-- The only separator that is a blank is the space. -/
theorem eq_space_of_isSeparator (h : isSeparator c = true) (hblank : isBlank c = true) :
    c = ' ' := by
  simp only [isSeparator, Bool.or_eq_true, beq_iff_eq] at h
  rcases h with (((rfl | rfl) | rfl) | rfl) | rfl
  · rfl
  all_goals exact absurd hblank (by decide)

/-- Respelling brings in no blanks but spaces. -/
theorem Respelt.oneLine (h : Respelt cs ds) (hcs : ∀ c ∈ cs, isBlank c = true → c = ' ') :
    ∀ d ∈ ds, isBlank d = true → d = ' ' := by
  induction h with
  | nil => exact hcs
  | letter hcase _ ih =>
      rw [List.forall_mem_cons] at hcs ⊢
      refine ⟨fun hblank => ?_, ih hcs.2⟩
      rcases eq_or_isAlpha_of_toLower_eq hcase with rfl | ⟨hd, -⟩
      · exact hcs.1 hblank
      · rw [Identifier.isBlank_of_isAlphanum (by rw [Char.isAlphanum, hd, Bool.true_or])] at hblank
        cases hblank
  | putIn hseparator _ ih =>
      exact List.forall_mem_cons.2 ⟨eq_space_of_isSeparator hseparator, ih hcs⟩
  | leftOut _ _ ih => exact ih (List.forall_mem_cons.1 hcs).2

theorem core_spaces (h : ∀ c ∈ cs, c = ' ') : core cs = [] := by
  rw [core, List.filter_eq_nil_iff.2, List.map_nil]
  intro c hc
  rw [h c hc]
  decide

/-- Trimming takes nothing off a text on one line that folding would keep. -/
theorem core_trimChars (h : ∀ c ∈ cs, isBlank c = true → c = ' ') :
    core (Text.trimChars cs) = core cs := by
  obtain ⟨before, behind, hcs, hbefore, hbehind⟩ := Text.exists_blanks_around cs
  have hspaces : ∀ blanks : List Char, (∀ c ∈ blanks, c ∈ cs) →
      (∀ c ∈ blanks, isBlank c = true) → core blanks = [] :=
    fun blanks hmem hblank => core_spaces fun c hc => h c (hmem c hc) (hblank c hc)
  conv_rhs => rw [hcs]
  rw [core_append, core_append, hspaces before _ hbefore, hspaces behind _ hbehind,
    List.append_nil, List.nil_append]
  · intro c hc
    rw [hcs]
    exact List.mem_append_right _ (List.mem_append_right _ hc)
  · intro c hc
    rw [hcs]
    exact List.mem_append_left _ hc

/-- Blanks around a text on one line are folded away. -/
theorem fold_around (hs : OneLine s) (hfront : isBlankText front = true)
    (hback : isBlankText back = true) :
    fold (front ++ s ++ back) = String.ofList (core s.toList) := by
  show String.ofList (core (Text.trimChars (front ++ s ++ back).toList)) = _
  rw [String.toList_append, Text.trimChars_append_blanks (List.all_eq_true.1 hback),
    String.toList_append, Text.trimChars_blanks_append (List.all_eq_true.1 hfront),
    core_trimChars hs]

/-- **A loose spelling has the fold of the spelling.** -/
theorem fold_of_respelt (hw : OneLine w) (h : Respelt w.toList s.toList)
    (hfront : isBlankText front = true) (hback : isBlankText back = true) :
    fold (front ++ s ++ back) = fold w := by
  have hself : fold ("" ++ w ++ "") = fold w := by rw [String.empty_append, String.append_empty]
  rw [fold_around (h.oneLine hw) hfront hback, h.core_eq, ← hself, fold_around hw rfl rfl]

/-! ### Other ways to lower a character -/

/-- The character besides `A`–`Z` that has a lower case in ASCII. -/
def kelvinSign : Char := Char.ofNat 0x212A

/-- What folding needs of a lowering of characters: in ASCII it gives the lower case, the Kelvin
sign becomes a `k`, and any other character leaves something outside of ASCII. -/
structure IsLowering (lowering : Char → List Char) : Prop where
  ascii : ∀ c, isAscii c = true → lowering c = [c.toLower]
  kelvin : lowering kelvinSign = ['k']
  other : ∀ c, isAscii c = false → c ≠ kelvinSign → ∃ d ∈ lowering c, isAscii d = false

/-- What is left of a text with another lowering. -/
def foldBy (lowering : Char → List Char) (s : String) : String :=
  String.ofList (((Text.trimChars s.toList).filter fun c => !isSeparator c).flatMap lowering)

variable {lowering lowering' : Char → List Char} {t : String}

theorem fold_eq_foldBy (s : String) : fold s = foldBy (fun c => [lower c]) s := by
  rw [foldBy, ← List.map_eq_flatMap, fold]

theorem isUpper_of_not_isAscii (h : isAscii c = false) : ¬ c.isUpper = true := by
  intro hupper
  simp only [Char.isUpper, decide_eq_true_eq, UInt32.le_iff_toNat_le] at hupper
  rw [isAscii, decide_eq_false_iff_not] at h
  exact h (lt_of_le_of_lt hupper.2 (by decide))

/-- `fold` lowers as it should. -/
theorem isLowering_lower : IsLowering fun c => [lower c] where
  ascii c hc := by
    rw [lower, if_neg]
    intro hkelvin
    rw [isAscii, hkelvin] at hc
    cases hc
  kelvin := by decide
  other c hc hkelvin := by
    refine ⟨lower c, List.mem_singleton_self _, ?_⟩
    have hne : ¬ c.toNat = 0x212A := fun h => hkelvin (Char.toNat_inj.1 h)
    rwa [lower, if_neg hne, Char.toLower_eq_of_not_isUpper (isUpper_of_not_isAscii hc)]

/-- A character of which no text in ASCII is left shows in what is left. -/
theorem exists_mem_flatMap (h : IsLowering lowering) (hc : c ∈ cs) (hascii : isAscii c = false)
    (hkelvin : c ≠ kelvinSign) : ∃ d ∈ cs.flatMap lowering, isAscii d = false := by
  obtain ⟨d, hd, hascii'⟩ := h.other c hascii hkelvin
  exact ⟨d, List.mem_flatMap.2 ⟨c, hc, hd⟩, hascii'⟩

/-- **All lowerings leave the same texts in ASCII.** -/
theorem flatMap_eq_iff (h : IsLowering lowering) (h' : IsLowering lowering')
    (hds : ds.all isAscii = true) : cs.flatMap lowering = ds ↔ cs.flatMap lowering' = ds := by
  by_cases hcs : ∀ c ∈ cs, isAscii c = true ∨ c = kelvinSign
  · rw [List.flatMap_congr fun c hc => ?_]
    rcases hcs c hc with hascii | rfl
    · rw [h.ascii c hascii, h'.ascii c hascii]
    · rw [h.kelvin, h'.kelvin]
  · simp only [not_forall, not_or, Bool.not_eq_true] at hcs
    obtain ⟨c, hc, hascii, hkelvin⟩ := hcs
    have hno : ∀ {lowering : Char → List Char}, IsLowering lowering →
        ¬ cs.flatMap lowering = ds := by
      rintro lowering h rfl
      obtain ⟨d, hd, hd'⟩ := exists_mem_flatMap h hc hascii hkelvin
      rw [List.all_eq_true.1 hds d hd] at hd'
      cases hd'
    exact iff_of_false (hno h) (hno h')

theorem foldBy_eq_iff (h : IsLowering lowering) (ht : t.toList.all isAscii = true) :
    foldBy lowering s = t ↔ fold s = t := by
  rw [fold_eq_foldBy, ← String.toList_inj, ← String.toList_inj, foldBy, foldBy,
    String.toList_ofList, String.toList_ofList]
  exact flatMap_eq_iff h isLowering_lower ht

end Folding

section Reading

variable {α : Type} [Vocabulary α] {s w : String} {word : α} {lowering : Char → List Char}

/-! ### What a text means -/

/-- `ofLoose?` with another way to fold. -/
def readBy (fold : String → String) (s : String) : Option α :=
  let folded := fold s
  if folded.isEmpty then none
  else
    match (members : List α).find? fun word => fold (spelling word) == folded with
    | some word => some word
    | none =>
      ((synonyms : List (String × α)).find? fun synonym => fold synonym.1 == folded).map Prod.snd

theorem readBy_fold (s : String) : (readBy fold s : Option α) = ofLoose? s := rfl

/-- The spellings are tried in order. -/
theorem readBy_eq (fold : String → String) (s : String) : (readBy fold s : Option α) =
    if (fold s).isEmpty then none
    else ((spellings α).find? fun p => fold p.1 == fold s).map Prod.snd := by
  have hmembers : ((members : List α).map fun word => (spelling word, word)).find?
      (fun p => fold p.1 == fold s) =
        ((members : List α).find? fun word => fold (spelling word) == fold s).map
          fun word => (spelling word, word) := List.find?_map
  rw [readBy, spellings, List.find?_append, hmembers]
  cases (members : List α).find? fun word => fold (spelling word) == fold s <;> rfl

theorem find?_fold_eq_some {p : String × α}
    (h : ((spellings α).find? fun p => fold p.1 == fold s) = some p) :
    fold p.1 = fold s ∧ p ∈ spellings α := by
  have hp : (fold p.1 == fold s) = true :=
    List.find?_some (p := fun p : String × α => fold p.1 == fold s) h
  exact ⟨beq_iff_eq.1 hp, List.mem_of_find?_eq_some h⟩

variable [Unambiguous α]

/-- **A text means the word that has a spelling of the same fold.** -/
theorem ofLoose?_eq_some_iff :
    ofLoose? s = some word ↔ ∃ w, (w, word) ∈ spellings α ∧ fold w = fold s := by
  rw [← readBy_fold, readBy_eq]
  constructor
  · intro h
    split_ifs at h with hempty
    obtain ⟨p, hfind, rfl⟩ := Option.map_eq_some_iff.1 h
    obtain ⟨hp, hmem⟩ := find?_fold_eq_some hfind
    exact ⟨p.1, hmem, hp⟩
  · rintro ⟨w, hmem, hfold⟩
    have hne : ¬ (fold s).isEmpty = true := by
      rw [String.isEmpty_iff, ← hfold]
      exact Unambiguous.fold_ne_empty (w, word) hmem
    rw [if_neg hne]
    cases hfind : (spellings α).find? fun p => fold p.1 == fold s with
    | none => exact absurd (beq_iff_eq.2 hfold) (List.find?_eq_none.1 hfind (w, word) hmem)
    | some p =>
        obtain ⟨hp, hmem'⟩ := find?_fold_eq_some hfind
        rw [Option.map_some, Option.some_inj]
        exact Unambiguous.word_eq p hmem' (w, word) hmem (hp.trans hfold.symm)

theorem ofLoose?_eq_none_iff :
    (ofLoose? s : Option α) = none ↔ ∀ p ∈ spellings α, fold p.1 ≠ fold s := by
  rw [Option.eq_none_iff_forall_ne_some]
  simp only [Ne, ofLoose?_eq_some_iff, not_exists, not_and]
  exact ⟨fun h p hp => h p.2 p.1 hp, fun h word w hw => h (w, word) hw⟩

/-- **A loose spelling means the word that is spelt.** -/
theorem ofLoose?_of_respelt {front back : String} (hw : (w, word) ∈ spellings α)
    (h : Respelt w.toList s.toList) (hfront : isBlankText front = true)
    (hback : isBlankText back = true) : ofLoose? (front ++ s ++ back) = some word :=
  ofLoose?_eq_some_iff.2
    ⟨w, hw, (fold_of_respelt (Unambiguous.oneLine _ hw) h hfront hback).symm⟩

/-- **Any lowering reads the same.** -/
theorem readBy_foldBy (h : IsLowering lowering) :
    (readBy (foldBy lowering) s : Option α) = ofLoose? s := by
  have hempty : (foldBy lowering s).isEmpty = (fold s).isEmpty := by
    rw [Bool.eq_iff_iff, String.isEmpty_iff, String.isEmpty_iff]
    exact foldBy_eq_iff h rfl
  have hsame : ∀ p ∈ spellings α,
      (foldBy lowering p.1 == foldBy lowering s) = (fold p.1 == fold s) := by
    intro p hp
    have hascii := Unambiguous.fold_ascii p hp
    rw [(foldBy_eq_iff h hascii).2 rfl, Bool.eq_iff_iff, beq_iff_eq, beq_iff_eq, eq_comm,
      foldBy_eq_iff h hascii, eq_comm]
  rw [← readBy_fold, readBy_eq, readBy_eq, hempty, List.find?_congr hsame]

/-- How the words of a vocabulary are read from free texts. -/
structure ReadsLoosely (α : Type) [Vocabulary α] : Prop where
  /-- A spelling may be respelt, with blanks around. -/
  respelt : ∀ (w : String) (word : α), (w, word) ∈ spellings α → ∀ front s back : String,
    Respelt w.toList s.toList → isBlankText front = true → isBlankText back = true →
      ofLoose? (front ++ s ++ back) = some word
  /-- A text means no other word than those with a spelling of the same fold, so there is at most
  one. -/
  some_iff : ∀ (s : String) (word : α),
    ofLoose? s = some word ↔ ∃ w, (w, word) ∈ spellings α ∧ fold w = fold s
  /-- The canonical spelling of a word that is read is read again, strictly and loosely. -/
  canonical : ∀ (s : String) (word : α), ofLoose? s = some word →
    ofSpelling? (spelling word) = some word ∧ ofLoose? (spelling word) = some word
  /-- Just the texts that fold to no spelling mean nothing. -/
  none_iff : ∀ s : String,
    (ofLoose? s : Option α) = none ↔ ∀ p ∈ spellings α, fold p.1 ≠ fold s
  /-- It does not matter how characters are lowered that belong to no spelling. -/
  lowering : ∀ lowering : Char → List Char, IsLowering lowering → ∀ s : String,
    (readBy (foldBy lowering) s : Option α) = ofLoose? s

theorem readsLoosely_of_unambiguous [Lawful α] : ReadsLoosely α where
  respelt _ _ hw _ _ _ h hfront hback := ofLoose?_of_respelt hw h hfront hback
  some_iff _ _ := ofLoose?_eq_some_iff
  canonical _ word _ := ⟨Lawful.ofSpelling?_spelling word, Lawful.ofLoose?_spelling word⟩
  none_iff _ := ofLoose?_eq_none_iff
  lowering _ h _ := readBy_foldBy h

end Reading

/-- **Every vocabulary of a plan is read loosely and without ambiguity.**  A canonical spelling or
a synonym means its word in any case, with any separators and with any blanks around; what is read
is read again from its canonical spelling; and a text means nothing exactly if it folds to no
spelling. -/
theorem readsLoosely_vocabularies :
    ReadsLoosely NodeKind ∧ ReadsLoosely StepKind ∧ ReadsLoosely RelationKind ∧
      ReadsLoosely KeyKind :=
  ⟨readsLoosely_of_unambiguous, readsLoosely_of_unambiguous, readsLoosely_of_unambiguous,
    readsLoosely_of_unambiguous⟩

example : ofLoose? "\t.Primary-KEY_ " = some KeyKind.primary := by decide +kernel

end Vocabulary
end CodeDiagram
