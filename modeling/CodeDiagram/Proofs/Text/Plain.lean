/-
# Texts that fit on a line

A text is on one line when the space is its only blank (`OneLine`), and plain
when it has no double quote either (`Plain`).  Both are said of each character,
so a text put together from such texts is one again.

Lines without line feeds that are written with a line feed between two of them
can be read back (`splitLines_intercalate`).
-/

import CodeDiagram.Proofs.Identifier.Naming
import CodeDiagram.Proofs.Text.Words

namespace CodeDiagram
namespace Text

/-- The only blank in the text is the space. -/
def OneLine (s : String) : Prop := ∀ c ∈ s.toList, isBlank c = true → c = ' '

/-- The text has no double quote, and its only blank is the space. -/
def Plain (s : String) : Prop := ∀ c ∈ s.toList, c ≠ '"' ∧ (isBlank c = true → c = ' ')

instance (s : String) : Decidable (OneLine s) :=
  List.decidableBAll (fun c => isBlank c = true → c = ' ') s.toList

instance (s : String) : Decidable (Plain s) :=
  List.decidableBAll (fun c => c ≠ '"' ∧ (isBlank c = true → c = ' ')) s.toList

variable {s t separator : String} {texts : List String}

@[simp] theorem oneLine_append : OneLine (s ++ t) ↔ OneLine s ∧ OneLine t := by
  simp only [OneLine, String.toList_append, List.forall_mem_append]

@[simp] theorem plain_append : Plain (s ++ t) ↔ Plain s ∧ Plain t := by
  simp only [Plain, String.toList_append, List.forall_mem_append]

/-- A plain text stands on one line. -/
theorem Plain.oneLine (h : Plain s) : OneLine s := fun c hc => (h c hc).2

theorem Plain.quote_not_mem (h : Plain s) : '"' ∉ s.toList := fun hmem => (h '"' hmem).1 rfl

/-- A text on one line holds no line feed. -/
theorem OneLine.lineFeed_not_mem (h : OneLine s) : '\n' ∉ s.toList :=
  fun hmem => absurd (h '\n' hmem rfl) (by decide)

/-- Strings written with a separator between two of them hold their own characters and its. -/
theorem mem_toList_intercalate {c : Char} (h : c ∈ (separator.intercalate texts).toList) :
    c ∈ separator.toList ∨ ∃ s ∈ texts, c ∈ s.toList := by
  rw [String.toList_intercalate] at h
  rcases mem_intercalate h with hseparator | ⟨chars, hchars, hmem⟩
  · exact .inl hseparator
  · obtain ⟨s, hs, rfl⟩ := List.mem_map.1 hchars
    exact .inr ⟨s, hs, hmem⟩

/-- Plain texts with a plain text between them make a plain text. -/
theorem plain_intercalate (hseparator : Plain separator) (htexts : ∀ s ∈ texts, Plain s) :
    Plain (separator.intercalate texts) := by
  intro c hc
  rcases mem_toList_intercalate hc with hmem | ⟨s, hs, hmem⟩
  · exact hseparator c hmem
  · exact htexts s hs c hmem

/-- An identifier is plain. -/
theorem plain_of_isValid (h : Identifier.isValid s = true) : Plain s := by
  intro c hc
  have hletter := (Identifier.isValid_iff.1 h).2 c hc
  refine ⟨?_, fun hblank => ?_⟩
  · rintro rfl
    exact absurd hletter (by decide)
  · rw [Identifier.isBlank_of_isLetter hletter] at hblank
    cases hblank

/-! ### Lines of a text -/

/-- The lines of a text, parted by line feeds. -/
def splitLines (s : String) : List String := (s.toList.splitOn '\n').map String.ofList

/-- **Lines without line feeds are read back from their text.** -/
theorem splitLines_intercalate (hne : texts ≠ []) (h : ∀ s ∈ texts, '\n' ∉ s.toList) :
    splitLines ("\n".intercalate texts) = texts := by
  rw [splitLines, String.toList_intercalate, show "\n".toList = ['\n'] from rfl,
    List.splitOn_intercalate]
  · rw [List.map_map]
    exact (List.map_congr_left fun s _ => String.ofList_toList).trans (List.map_id _)
  · intro line hline
    obtain ⟨s, hs, rfl⟩ := List.mem_map.1 hline
    exact h s hs
  · exact mt List.map_eq_nil_iff.1 hne

end Text
end CodeDiagram
