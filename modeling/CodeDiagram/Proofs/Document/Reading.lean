/-
# Reading a line back

The lines of a document are put together from names, quoted texts and fixed
marks.  A name ends where something else than a letter follows
(`name_append_inj`), a quoted text ends at the next double quote
(`inQuotes_append_inj`), and marks that differ early on need no end
(`code_append_inj`), so each of them can be told apart from what follows.
-/

import CodeDiagram.Proofs.Document.Lines
import CodeDiagram.Proofs.Text.Span

namespace CodeDiagram

open Identifier (isLetter isValid isValid_iff)
open Text (ends_append append_eq_append_iff_of_run)

variable {s s' t t' : String}

/-- **A name is read back** where no letter follows it. -/
theorem name_append_inj (hs : isValid s = true) (hs' : isValid s' = true)
    (ht : Span.Ends isLetter t.toList) (ht' : Span.Ends isLetter t'.toList) :
    s ++ t = s' ++ t' ↔ s = s' ∧ t = t' :=
  append_eq_append_iff_of_run (isValid_iff.1 hs).2 (isValid_iff.1 hs').2 ht ht'

/-- A text without double quotes is a run of other characters. -/
theorem ne_quote_of_not_mem (h : '"' ∉ s.toList) : ∀ c ∈ s.toList, (c != '"') = true :=
  fun _ hc => bne_iff_ne.2 fun hquote => h (hquote ▸ hc)

/-- **A text without double quotes is read back** where a quoted text follows it. -/
theorem append_inQuotes_inj {before before' : String} (h : '"' ∉ before.toList)
    (h' : '"' ∉ before'.toList) :
    before ++ (inQuotes s ++ t) = before' ++ (inQuotes s' ++ t') ↔
      before = before' ∧ inQuotes s ++ t = inQuotes s' ++ t' := by
  have hends : ∀ s t : String, Span.Ends (· != '"') (inQuotes s ++ t).toList := by
    intro s t
    rw [inQuotes, String.append_assoc, String.append_assoc]
    exact ends_append (by decide)
  exact append_eq_append_iff_of_run (ne_quote_of_not_mem h) (ne_quote_of_not_mem h') (hends s t)
    (hends s' t')

/-- **A quoted text is read back.** -/
theorem inQuotes_append_inj (hs : '"' ∉ s.toList) (hs' : '"' ∉ s'.toList) :
    inQuotes s ++ t = inQuotes s' ++ t' ↔ s = s' ∧ t = t' := by
  simp only [inQuotes, String.append_assoc, String.append_right_inj]
  rw [append_eq_append_iff_of_run (ne_quote_of_not_mem hs) (ne_quote_of_not_mem hs')
    (ends_append (by decide)) (ends_append (by decide)), String.append_right_inj]

/-- **A code word is read back** where the words differ in their first `n` characters. -/
theorem code_append_inj {α : Type} {code : α → String} {n : Nat} {a a' : α}
    (hlength : ∀ a, n ≤ (code a).toList.length)
    (hcode : (code a).toList.take n = (code a').toList.take n → a = a') :
    code a ++ t = code a' ++ t' ↔ a = a' ∧ t = t' := by
  constructor
  · intro h
    have htake := congrArg (fun text : String => text.toList.take n) h
    simp only [String.toList_append, List.take_append_of_le_length (hlength _)] at htake
    obtain rfl := hcode htake
    exact ⟨rfl, (String.append_right_inj _).1 h⟩
  · rintro ⟨rfl, rfl⟩
    rfl

/-! ### Items that are lines -/

namespace Document

variable {α β γ : Type}

theorem flatMap_lines_map_line (texts : List String) :
    (texts.map Item.line).flatMap Item.lines = texts.map (indent ++ ·) := by
  rw [List.flatMap_map]
  exact List.flatMap_pure_eq_map ..

/-- **Documents of lines have the same lines** when they have the same texts below the
declaration. -/
theorem lines_eq_lines_iff {kind : Kind} {texts texts' : List String} :
    (Document.mk kind (texts.map .line)).lines = (Document.mk kind (texts'.map .line)).lines ↔
      texts = texts' := by
  rw [lines, lines, List.cons_inj_right, flatMap_lines_map_line, flatMap_lines_map_line]
  exact List.map_inj_right fun _ _ => String.append_right_inj indent |>.1

/-- What is written alike, member by member, is written alike in lists. -/
theorem map_eq_map_iff_of_forall {f : α → β} {g : α → γ} :
    ∀ {as as' : List α}, (∀ a ∈ as, ∀ a' ∈ as', f a = f a' ↔ g a = g a') →
      (as.map f = as'.map f ↔ as.map g = as'.map g)
  | [], [], _ => by simp
  | [], _ :: _, _ => by simp
  | _ :: _, [], _ => by simp
  | a :: as, a' :: as', h => by
      have hhead := h a (List.mem_cons_self ..) a' (List.mem_cons_self ..)
      have htail := map_eq_map_iff_of_forall fun b hb b' hb' =>
        h b (List.mem_cons_of_mem _ hb) b' (List.mem_cons_of_mem _ hb')
      rw [List.map_cons, List.map_cons, List.map_cons, List.map_cons, List.cons_eq_cons,
        List.cons_eq_cons, hhead, htail]

/-- **Where the links begin is read back**, if a test tells what shows a link from what shows an
element. -/
theorem map_append_map_eq_iff (isLink : γ → Bool) {f : α → γ} {g : β → γ} {as as' : List α}
    {bs bs' : List β} (hf : ∀ a ∈ as, isLink (f a) = false) (hf' : ∀ a ∈ as', isLink (f a) = false)
    (hg : ∀ b ∈ bs, isLink (g b) = true) (hg' : ∀ b ∈ bs', isLink (g b) = true) :
    as.map f ++ bs.map g = as'.map f ++ bs'.map g ↔
      as.map f = as'.map f ∧ bs.map g = bs'.map g := by
  -- what shows the elements is the longest run that shows no link, on both sides
  have hrun : ∀ as : List α, (∀ a ∈ as, isLink (f a) = false) →
      ∀ shown ∈ as.map f, (!isLink shown) = true := by
    intro as hf shown hshown
    obtain ⟨a, ha, rfl⟩ := List.mem_map.1 hshown
    rw [hf a ha, Bool.not_false]
  have hends : ∀ bs : List β, (∀ b ∈ bs, isLink (g b) = true) →
      Span.Ends (fun shown => !isLink shown) (bs.map g) := by
    intro bs hg
    refine Span.ends_of_forall_mem fun shown hshown => ?_
    obtain ⟨b, hb, rfl⟩ := List.mem_map.1 hshown
    rw [hg b hb, Bool.not_true]
  exact Span.append_eq_append_iff (hrun _ hf) (hrun _ hf') (hends _ hg) (hends _ hg')

end Document
end CodeDiagram
