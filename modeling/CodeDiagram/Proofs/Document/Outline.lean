/-
# Reading the items of a document back

The lines below a declaration are read one after the other, and their
indentation does not count (`Outline.step`):

| state | line | what it does |
| --- | --- | --- |
| no body is open | letters and spaces, and one opening brace at the end | opens a body |
| | any other | is an item |
| a body is open | a closing brace | closes the body |
| | any other with a brace | cannot be read |
| | any other | stands in the body |

So the end of a body is the first brace in it, wherever that stands.  An item is
legible when its lines can only be read as what they are meant to be
(`Item.Legible`), and legible items are read back from their lines
(`readItems_flatMap_lines`).

The items of a class or entity-relation document are elements, each a header
with or without a body (`Item.legible_element`), and then links, each a line
with a mark that no header has (`Item.legible_link`).  So both are read back
from the text of the document (`Outlined.partition_readText`).
-/

import CodeDiagram.Proofs.Document.Reading

namespace CodeDiagram

open Identifier (isLetter isValid isValid_iff)
open Text (isBlank splitLines)

/-! ### What a line shows -/

namespace Document

variable {s t header : String}

/-- A line without its indentation. -/
def unindented (line : String) : String := String.ofList (line.toList.dropWhile isBlank)

theorem unindented_append (hs : ∀ c ∈ s.toList, isBlank c = true)
    (ht : Span.Ends isBlank t.toList) : unindented (s ++ t) = t := by
  rw [unindented, String.toList_append, Span.dropWhile_append hs ht, String.ofList_toList]

theorem unindented_indent (ht : Span.Ends isBlank t.toList) : unindented (indent ++ t) = t :=
  unindented_append (List.all_eq_true.1 (by decide)) ht

theorem unindented_indent_indent (ht : Span.Ends isBlank t.toList) :
    unindented (indent ++ indent ++ t) = t :=
  unindented_append (List.all_eq_true.1 (by decide)) ht

/-- May stand in the header of a body. -/
def isHeaderChar (c : Char) : Bool := isLetter c || c == ' '

/-- The header of a line that opens a body. -/
def header? (text : String) : Option String :=
  if text.toList.dropWhile isHeaderChar = ['{'] then
    some (String.ofList text.toList.dropLast.dropLast)
  else none

/-- The line that opens a body. -/
theorem header?_opening (h : ∀ c ∈ header.toList, isHeaderChar c = true) :
    header? (header ++ " \x7b") = some header := by
  have hrun : ∀ c ∈ header.toList ++ [' '], isHeaderChar c = true := by
    rw [List.forall_mem_append, List.forall_mem_singleton]
    exact ⟨h, rfl⟩
  have hchars : (header ++ " \x7b").toList = header.toList ++ [' '] ++ ['{'] := by
    rw [String.toList_append, List.append_assoc]
    rfl
  have hrest : Span.Ends isHeaderChar ['{'] := by
    rintro c ⟨rfl⟩
    rfl
  rw [header?, hchars, Span.dropWhile_append hrun hrest, if_pos rfl, List.dropLast_concat,
    List.dropLast_concat, String.ofList_toList]

/-- A line of letters and spaces does not open a body. -/
theorem header?_eq_none_of_forall (h : ∀ c ∈ s.toList, isHeaderChar c = true) :
    header? s = none := by
  rw [header?, List.dropWhile_eq_nil_iff.2 h]
  rfl

/-- The letters and spaces at the front are followed by something else than an opening brace. -/
def isMark (mark : String) : Bool := (mark.toList.dropWhile isHeaderChar).head?.any (· != '{')

theorem exists_dropWhile_of_isMark {mark : String} (hs : ∀ c ∈ s.toList, isHeaderChar c = true)
    (hmark : isMark mark = true) (t : String) :
    ∃ c cs, c ≠ '{' ∧ (s ++ (mark ++ t)).toList.dropWhile isHeaderChar = c :: cs := by
  rw [isMark, Option.any_eq_true] at hmark
  obtain ⟨c, hhead, hbrace⟩ := hmark
  obtain ⟨cs, hchars⟩ := List.head?_eq_some_iff.1 hhead
  refine ⟨c, cs ++ t.toList, bne_iff_ne.1 hbrace, ?_⟩
  rw [String.toList_append, String.toList_append, List.dropWhile_append_of_pos hs,
    List.dropWhile_append, hchars]
  rfl

/-- The letters of a name may stand in a header. -/
theorem isHeaderChar_of_isValid (h : isValid s = true) : ∀ c ∈ s.toList, isHeaderChar c = true :=
  fun c hc => Bool.or_eq_true_iff.2 (.inl ((isValid_iff.1 h).2 c hc))

/-- A name does not open with a blank. -/
theorem ends_name (h : isValid s = true) (t : String) : Span.Ends isBlank (s ++ t).toList := by
  obtain ⟨hne, hletters⟩ := isValid_iff.1 h
  rw [String.toList_append]
  exact (Span.ends_of_forall_mem fun c hc =>
    Identifier.isBlank_of_isLetter (hletters c hc)).append_of_ne_nil hne _

/-- Holds a brace. -/
def hasBrace (s : String) : Bool := s.toList.any fun c => c == '{' || c == '}'

theorem hasBrace_eq_false_iff : hasBrace s = false ↔ ∀ c ∈ s.toList, c ≠ '{' ∧ c ≠ '}' := by
  simp only [hasBrace, List.any_eq_false, Bool.not_eq_true, Bool.or_eq_false_iff,
    beq_eq_false_iff_ne]

theorem ne_closing_of_not_hasBrace (h : hasBrace s = false) : s ≠ "\x7d" := by
  rintro rfl
  cases h

/-! ### Reading line by line -/

/-- What has been read: the finished items, and the body that is open with its header. -/
structure Outline where
  items : List Item
  body? : Option (String × List String)

/-- Reads one line. -/
def Outline.step (read : Outline) (line : String) : Option Outline :=
  match read.body? with
  | none =>
    match header? (unindented line) with
    | some header => some ⟨read.items, some (header, [])⟩
    | none => some ⟨read.items ++ [.line (unindented line)], none⟩
  | some (header, body) =>
    if unindented line = "\x7d" then some ⟨read.items ++ [.block header body], none⟩
    else if hasBrace (unindented line) then none
    else some ⟨read.items, some (header, body ++ [unindented line])⟩

/-- The items that are read when no body is left open. -/
def Outline.items? (read : Outline) : Option (List Item) :=
  match read.body? with
  | none => some read.items
  | some _ => none

/-- Reads lines as items. -/
def readItems (lines : List String) : Option (List Item) :=
  (lines.foldlM Outline.step ⟨[], none⟩).bind Outline.items?

end Document

open Document

/-- The lines of the item can be read in one way only. -/
def Item.Legible : Item → Prop
  | .line text => Span.Ends isBlank text.toList ∧ header? text = none
  | .block header body =>
    Span.Ends isBlank (header ++ " \x7b").toList ∧ (∀ c ∈ header.toList, isHeaderChar c = true) ∧
      ∀ text ∈ body, Span.Ends isBlank text.toList ∧ hasBrace text = false

/-- Shows a link: a line that holds more than letters and spaces. -/
def Item.isLink : Item → Bool
  | .line text => !text.toList.all isHeaderChar
  | .block _ _ => false

namespace Item

variable {source mark header header' : String} {body body' : List String}

/-- A line that opens with a name and a mark is a legible link. -/
theorem legible_link (hsource : isValid source = true) (hmark : isMark mark = true) (t : String) :
    (Item.line (source ++ (" " ++ (mark ++ t)))).Legible ∧
      (Item.line (source ++ (" " ++ (mark ++ t)))).isLink = true := by
  have hrun : ∀ c ∈ (source ++ " ").toList, isHeaderChar c = true := by
    rw [String.toList_append, List.forall_mem_append]
    exact ⟨isHeaderChar_of_isValid hsource, List.all_eq_true.1 (by decide)⟩
  obtain ⟨c, cs, hbrace, hrest⟩ := exists_dropWhile_of_isMark hrun hmark t
  rw [String.append_assoc] at hrest
  refine ⟨⟨ends_name hsource _, ?_⟩, ?_⟩
  · rw [header?, hrest, if_neg]
    rintro ⟨rfl, -⟩
    exact hbrace rfl
  · rw [isLink, Bool.not_eq_true', Bool.eq_false_iff]
    intro hall
    rw [List.dropWhile_eq_nil_iff.2 (List.all_eq_true.1 hall)] at hrest
    cases hrest

/-- A header with or without a body is a legible element. -/
theorem legible_element {b : Bool} (hends : ∀ t, Span.Ends isBlank (header ++ t).toList)
    (hheader : ∀ c ∈ header.toList, isHeaderChar c = true)
    (hbody : ∀ text ∈ body, Span.Ends isBlank text.toList ∧ hasBrace text = false) :
    (if b then Item.line header else .block header body).Legible ∧
      (if b then Item.line header else .block header body).isLink = false := by
  split_ifs
  · have hline := hends ""
    rw [String.append_empty] at hline
    refine ⟨⟨hline, header?_eq_none_of_forall hheader⟩, ?_⟩
    rw [isLink, List.all_eq_true.2 hheader, Bool.not_true]
  · exact ⟨⟨hends _, hheader, hbody⟩, rfl⟩

/-- The header and the body of an element are read back. -/
theorem element_eq_element_iff {b b' : Bool} (h : b = true ↔ body = [])
    (h' : b' = true ↔ body' = []) :
    (if b then Item.line header else .block header body) =
        (if b' then Item.line header' else .block header' body') ↔
      header = header' ∧ body = body' := by
  split_ifs with hb hb' hb'
  · rw [line.injEq, h.1 hb, h'.1 hb', and_iff_left rfl]
  · exact iff_of_false (fun hitem => nomatch hitem) fun hsame => hb' (h'.2 (hsame.2 ▸ h.1 hb))
  · exact iff_of_false (fun hitem => nomatch hitem) fun hsame => hb (h.2 (hsame.2 ▸ h'.1 hb'))
  · rw [block.injEq]

end Item

namespace Document

variable {items items' : List Item} {item : Item} {header text : String} {body : List String}

/-- A line that is an item. -/
theorem Outline.step_item (hends : Span.Ends isBlank text.toList) (hheader : header? text = none)
    (items : List Item) :
    Outline.step ⟨items, none⟩ (indent ++ text) = some ⟨items ++ [.line text], none⟩ := by
  simp only [step, unindented_indent hends, hheader]

/-- A line that opens a body. -/
theorem Outline.step_opening (hends : Span.Ends isBlank (header ++ " \x7b").toList)
    (hheader : ∀ c ∈ header.toList, isHeaderChar c = true) (items : List Item) :
    Outline.step ⟨items, none⟩ (indent ++ header ++ " \x7b") =
      some ⟨items, some (header, [])⟩ := by
  simp only [step, String.append_assoc, unindented_indent hends, header?_opening hheader]

/-- The line that closes a body. -/
theorem Outline.step_closing (items : List Item) (header : String) (body : List String) :
    Outline.step ⟨items, some (header, body)⟩ (indent ++ "\x7d") =
      some ⟨items ++ [.block header body], none⟩ := by
  have hends : Span.Ends isBlank "\x7d".toList := by
    rintro c ⟨rfl⟩
    rfl
  simp only [step, unindented_indent hends, if_true]

/-- A line of a body. -/
theorem Outline.step_body (hends : Span.Ends isBlank text.toList) (hbrace : hasBrace text = false)
    (items : List Item) (header : String) (body : List String) :
    Outline.step ⟨items, some (header, body)⟩ (indent ++ indent ++ text) =
      some ⟨items, some (header, body ++ [text])⟩ := by
  simp only [step, unindented_indent_indent hends, if_neg (ne_closing_of_not_hasBrace hbrace),
    hbrace, Bool.false_eq_true, if_false]

/-- The lines of a body. -/
theorem Outline.foldlM_body (items : List Item) (header : String)
    (h : ∀ text ∈ body, Span.Ends isBlank text.toList ∧ hasBrace text = false)
    (read : List String) :
    (body.map fun text => indent ++ indent ++ text).foldlM step ⟨items, some (header, read)⟩ =
      some ⟨items, some (header, read ++ body)⟩ := by
  induction body generalizing read with
  | nil =>
      rw [List.append_nil]
      rfl
  | cons text body ih =>
      rw [List.forall_mem_cons] at h
      rw [List.map_cons, List.foldlM_cons, step_body h.1.1 h.1.2, Option.bind_eq_bind,
        Option.bind_some, ih h.2, List.append_assoc, List.singleton_append]

/-- **The lines of an item are read as that item.** -/
theorem Outline.foldlM_lines (h : item.Legible) (items : List Item) :
    item.lines.foldlM step ⟨items, none⟩ = some ⟨items ++ [item], none⟩ := by
  cases item with
  | line text =>
      obtain ⟨hends, hheader⟩ := h
      rw [Item.lines, List.foldlM_cons, step_item hends hheader]
      rfl
  | block header body =>
      obtain ⟨hends, hchars, hbody⟩ := h
      rw [Item.lines, List.foldlM_append, List.foldlM_cons, step_opening hends hchars]
      simp only [Option.bind_eq_bind, Option.bind_some]
      rw [foldlM_body items header hbody, List.nil_append, Option.bind_some, List.foldlM_cons,
        step_closing]
      rfl

theorem Outline.foldlM_flatMap_lines (h : ∀ item ∈ items, item.Legible) (read : List Item) :
    (items.flatMap Item.lines).foldlM step ⟨read, none⟩ = some ⟨read ++ items, none⟩ := by
  induction items generalizing read with
  | nil =>
      rw [List.append_nil]
      rfl
  | cons item items ih =>
      rw [List.forall_mem_cons] at h
      rw [List.flatMap_cons, List.foldlM_append, foldlM_lines h.1, Option.bind_eq_bind,
        Option.bind_some, ih h.2, List.append_assoc, List.singleton_append]

/-- **Legible items are read back from their lines.** -/
theorem readItems_flatMap_lines (h : ∀ item ∈ items, item.Legible) :
    readItems (items.flatMap Item.lines) = some items := by
  rw [readItems, Outline.foldlM_flatMap_lines h]
  rfl

/-- Reads the items below the declaration of a document. -/
def readText (text : String) : Option (List Item) := readItems (splitLines text).tail

/-- The items of a document, the links apart from the elements. -/
theorem partition_isLink {elements links : List Item} (h : ∀ item ∈ elements, item.isLink = false)
    (h' : ∀ item ∈ links, item.isLink = true) :
    (elements ++ links).partition Item.isLink = (links, elements) := by
  have helements : ∀ item ∈ elements, (not ∘ Item.isLink) item = true := fun item hitem =>
    congrArg not (h item hitem)
  have hlinks : ∀ item ∈ links, (not ∘ Item.isLink) item = false := fun item hitem =>
    congrArg not (h' item hitem)
  rw [List.partition_eq_filter_filter, List.filter_append, List.filter_append,
    List.filter_eq_nil_iff.2 fun item hitem => Bool.eq_false_iff.1 (h item hitem),
    List.filter_eq_self.2 h', List.filter_eq_self.2 helements,
    List.filter_eq_nil_iff.2 fun item hitem => Bool.eq_false_iff.1 (hlinks item hitem),
    List.nil_append, List.append_nil]

/-- Links whose lines are the same just when they show the same have the same items just when they
show the same. -/
theorem map_line_eq_map_line_iff {α β : Type} {line : α → String} {shown : α → β}
    {links links' : List α}
    (h : ∀ link ∈ links, ∀ link' ∈ links', line link = line link' ↔ shown link = shown link') :
    (links.map fun link => Item.line (line link)) = (links'.map fun link => .line (line link)) ↔
      links.map shown = links'.map shown := by
  refine map_eq_map_iff_of_forall fun link hlink link' hlink' => ?_
  rw [Item.line.injEq]
  exact h link hlink link' hlink'

/-- The document of the plan has legible items, first the elements and then the links. -/
structure Outlined (plan : Plan) (elements links : List Item) : Prop where
  names : ∀ s ∈ plan.names, isValid s = true
  items : plan.document.items = elements ++ links
  elements : ∀ item ∈ elements, item.Legible ∧ item.isLink = false
  links : ∀ item ∈ links, item.Legible ∧ item.isLink = true

namespace Outlined

variable {plan plan' : Plan} {elements links elements' links' : List Item}

/-- **The elements and the links of a document are read back from its text.** -/
theorem partition_readText (h : Outlined plan elements links) :
    (readText plan.document.text).map (List.partition Item.isLink) = some (links, elements) := by
  have hlegible : ∀ item ∈ elements ++ links, item.Legible :=
    List.forall_mem_append.2 ⟨fun item hitem => (h.elements item hitem).1,
      fun item hitem => (h.links item hitem).1⟩
  rw [readText, splitLines_text h.names, lines, List.tail_cons, h.items,
    readItems_flatMap_lines hlegible, Option.map_some,
    partition_isLink (fun item hitem => (h.elements item hitem).2) fun item hitem =>
      (h.links item hitem).2]

/-- **Documents have the same text just when they have the same elements and links.** -/
theorem text_eq_text_iff (h : Outlined plan elements links) (h' : Outlined plan' elements' links')
    (hkind : plan.document.kind = plan'.document.kind) :
    plan.document.text = plan'.document.text ↔ elements = elements' ∧ links = links' := by
  constructor
  · intro htext
    have hread := h.partition_readText
    rw [htext, h'.partition_readText, Option.some_inj, Prod.mk.injEq] at hread
    exact ⟨hread.2.symm, hread.1.symm⟩
  · rintro ⟨rfl, rfl⟩
    rw [text, text, lines, lines, hkind, h.items, h'.items]

end Outlined
end Document
end CodeDiagram
