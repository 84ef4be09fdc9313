/-
# Reading an entity-relation diagram back

An entity-relation diagram shows an entity by its name and its columns, and a
relationship by its ends, its cardinality and its quoted label.  The line of a
column is read word by word (`Column.read?`):

| word | what it shows |
| --- | --- |
| first | the type; it is no key mark |
| second | the name; it is no key mark |
| any other | a key, with or without a comma after it |

The words of the types and names hold no space, so none takes the place of
another (`Column.read?_line`), and no brace, so the items of the diagram are
legible.  The tokens of the cardinalities have braces too, but the name of an
entity is followed by a space and an opening brace only where a body opens.  So
two entity-relation diagrams with entities have the same document exactly when
they show the same, and of one document the entities, with their columns, and
the relationships are read back (`text_eq_iff_entities_relationships`).
-/

import CodeDiagram.Proofs.Document.Outline
import CodeDiagram.Proofs.Plan.Cardinality
import CodeDiagram.Proofs.Plan.Vocabulary

namespace CodeDiagram
namespace EntityRelation

open Document (Outlined ends_name hasBrace hasBrace_eq_false_iff isHeaderChar_of_isValid isMark)
open Identifier (isLetter isValid)
open Label
open Text (ends_append isBlank)

/-- What a document shows of a column. -/
def Column.shown (column : Column) : String × String × List KeyKind :=
  (attributeWord "string" column.dataType, attributeWord "field" column.name, column.keys)

/-- What a document shows of an entity. -/
def Entity.shown (entity : Entity) : String × List (String × String × List KeyKind) :=
  (entity.name, entity.columns.map Column.shown)

/-- What a document shows of a relationship. -/
def Relationship.shown (link : Relationship) : String × String × Cardinality × String :=
  (link.source, link.target, link.cardinality, quoted link.label)

/-! ### Columns -/

/-- Reads the word of a key. -/
def readKey? (word : List Char) : Option KeyKind :=
  Vocabulary.ofSpelling? (String.ofList (word.filter (· != ',')))

/-- Reads the line of a column. -/
def Column.read? (line : String) : Option (String × String × List KeyKind) :=
  match line.toList.splitOn ' ' with
  | dataType :: name :: keys =>
    if isKeyMark dataType || isKeyMark name then none
    else
      (keys.mapM readKey?).map fun keys => (String.ofList dataType, String.ofList name, keys)
  | _ => none

/-- The words of the keys: all but the last have a comma after them. -/
def keyWords : List KeyKind → List (List Char)
  | [] => []
  | [key] => [(Vocabulary.spelling key).toList]
  | key :: next :: keys => ((Vocabulary.spelling key).toList ++ [',']) :: keyWords (next :: keys)

/-- The words on the line of a column. -/
def Column.words (column : Column) : List (List Char) :=
  (attributeWord "string" column.dataType).toList ::
    (attributeWord "field" column.name).toList :: keyWords column.keys

theorem keyWords_cons_ne_nil (key : KeyKind) (keys : List KeyKind) :
    keyWords (key :: keys) ≠ [] := by
  cases keys <;> exact List.cons_ne_nil _ _

/-- Keys are written with a comma and a space between them. -/
theorem toList_intercalate_spelling : ∀ keys : List KeyKind,
    (", ".intercalate (keys.map Vocabulary.spelling)).toList = [' '].intercalate (keyWords keys)
  | [] => rfl
  | [key] => by
      rw [keyWords, List.map_singleton, String.intercalate_singleton, List.intercalate_singleton]
  | key :: next :: keys => by
      rw [keyWords, List.intercalate_cons_of_ne_nil (keyWords_cons_ne_nil next keys),
        ← toList_intercalate_spelling (next :: keys), List.map_cons,
        String.intercalate_cons_of_ne_nil (mt List.map_eq_nil_iff.1 (List.cons_ne_nil next keys)),
        String.toList_append, String.toList_append, List.append_assoc _ [',']]
      rfl

/-- **The line of a column is its words** with single spaces between them. -/
theorem Column.toList_line (column : Column) :
    column.line.toList = [' '].intercalate column.words := by
  rw [line, words, List.intercalate_cons_cons]
  cases column.keys with
  | nil =>
      rw [keyWords, List.intercalate_singleton]
      simp
  | cons key keys =>
      rw [List.isEmpty_cons, if_neg Bool.false_ne_true,
        List.intercalate_cons_of_ne_nil (keyWords_cons_ne_nil key keys),
        ← toList_intercalate_spelling]
      simp only [String.toList_append, List.append_assoc]
      rfl

theorem mapM_readKey?_keyWords : ∀ keys : List KeyKind, (keyWords keys).mapM readKey? = some keys
  | [] => rfl
  | [key] => by cases key <;> rfl
  | key :: next :: keys => by
      have hkey : readKey? ((Vocabulary.spelling key).toList ++ [',']) = some key := by
        cases key <;> rfl
      rw [keyWords, List.mapM_cons, hkey, mapM_readKey?_keyWords (next :: keys)]
      rfl

/-- May stand in a word of a column. -/
def isColumnChar (c : Char) : Bool := isAttributeChar c || c == ','

theorem isColumnChar_of_mem_keyWords : ∀ {keys : List KeyKind} {word : List Char},
    word ∈ keyWords keys → ∀ c ∈ word, isColumnChar c = true
  | [key], word, h => by
      rw [List.mem_singleton.1 h]
      cases key <;> exact List.all_eq_true.1 (by decide)
  | key :: next :: keys, word, h => by
      rcases List.mem_cons.1 h with rfl | h
      · cases key <;> exact List.all_eq_true.1 (by decide)
      · exact isColumnChar_of_mem_keyWords h

/-- **The words of a column** have neither spaces nor braces. -/
theorem isColumnChar_of_mem_words {column : Column} {word : List Char} (h : word ∈ column.words) :
    ∀ c ∈ word, isColumnChar c = true := by
  have hattribute : ∀ fallback s : String, (∀ c ∈ fallback.toList, isAttributeChar c = true) →
      ∀ c ∈ (attributeWord fallback s).toList, isColumnChar c = true := fun fallback s h c hc =>
    Bool.or_eq_true_iff.2 (.inl (isAttributeChar_of_mem_attributeWord h s c hc))
  rw [Column.words, List.mem_cons, List.mem_cons] at h
  rcases h with hword | hword | hword
  · rw [hword]
    exact hattribute "string" _ (List.all_eq_true.1 (by decide))
  · rw [hword]
    exact hattribute "field" _ (List.all_eq_true.1 (by decide))
  · exact isColumnChar_of_mem_keyWords hword

/-- **The line of a column is read back.** -/
theorem Column.read?_line (column : Column) : Column.read? column.line = some column.shown := by
  have hsplit : column.line.toList.splitOn ' ' = column.words := by
    rw [Column.toList_line]
    refine List.splitOn_intercalate ' ' (fun word hword hspace => ?_) (List.cons_ne_nil _ _)
    exact absurd (isColumnChar_of_mem_words hword ' ' hspace) (by decide)
  have hmarks : (isKeyMark (attributeWord "string" column.dataType).toList ||
      isKeyMark (attributeWord "field" column.name).toList) = false := by
    rw [isKeyMark_attributeWord (by decide), isKeyMark_attributeWord (by decide), Bool.or_false]
  simp only [read?, hsplit, Column.words, hmarks, mapM_readKey?_keyWords, Bool.false_eq_true,
    if_false, Option.map_some, String.ofList_toList, shown]

/-- The line of a column has no brace and does not open with a blank. -/
theorem legible_column (column : Column) :
    Span.Ends isBlank column.line.toList ∧ hasBrace column.line = false := by
  constructor
  · have hword : Span.Ends isBlank (attributeWord "string" column.dataType).toList := by
      refine Span.ends_of_forall_mem fun c hc => ?_
      have hchar := isAttributeChar_of_mem_attributeWord (List.all_eq_true.1 (by decide)) _ c hc
      exact isBlank_of_isAttributeChar hchar
    rw [Column.line, String.append_assoc, String.append_assoc, String.toList_append]
    exact hword.append_of_ne_nil (attributeWord_ne_nil (by decide) _) _
  · rw [hasBrace_eq_false_iff, Column.toList_line]
    intro c hc
    rcases Text.mem_intercalate hc with hspace | ⟨word, hword, hmem⟩
    · rw [List.mem_singleton.1 hspace]
      decide
    · have hchar := isColumnChar_of_mem_words hword c hmem
      constructor
      · rintro rfl
        cases hchar
      · rintro rfl
        cases hchar

/-! ### Entities -/

/-- **An entity is legible, and passes for no relationship.** -/
theorem legible_item {entity : Entity} (hname : isValid entity.name = true) :
    entity.item.Legible ∧ entity.item.isLink = false := by
  refine Item.legible_element (ends_name hname) (isHeaderChar_of_isValid hname) fun line hline => ?_
  obtain ⟨column, -, rfl⟩ := List.mem_map.1 hline
  exact legible_column column

/-- **Columns with the same line show the same.** -/
theorem Column.line_eq_line_iff {column column' : Column} :
    column.line = column'.line ↔ column.shown = column'.shown := by
  constructor
  · intro hline
    rw [← Option.some_inj, ← Column.read?_line, hline, Column.read?_line]
  · intro hshown
    obtain ⟨hdataType, hrest⟩ := Prod.mk.inj hshown
    obtain ⟨hname, hkeys⟩ := Prod.mk.inj hrest
    rw [line, line, hdataType, hname, hkeys]

/-- **Entities with the same item show the same.** -/
theorem Entity.item_eq_item_iff {entity entity' : Entity} :
    entity.item = entity'.item ↔ entity.shown = entity'.shown := by
  have hempty : ∀ entity : Entity, entity.columns.isEmpty = true ↔
      entity.columns.map Column.line = [] := fun entity =>
    List.isEmpty_iff.trans List.map_eq_nil_iff.symm
  rw [item, item, Item.element_eq_element_iff (hempty entity) (hempty entity'), shown, shown,
    Prod.mk.injEq, Document.map_eq_map_iff_of_forall fun _ _ _ _ => Column.line_eq_line_iff]

/-! ### Relationships -/

theorem Relationship.line_eq (link : Relationship) :
    link.line = link.source ++ (" " ++ (link.cardinality.token ++ (" " ++
      (link.target ++ (" : " ++ (inQuotes (quoted link.label) ++ "")))))) := by
  simp only [line, String.append_assoc, String.append_empty]

theorem length_token (c : Cardinality) : c.token.toList.length = 6 := by
  obtain ⟨left, identifying, right⟩ := c
  cases left <;> cases identifying <;> cases right <;> rfl

/-- **The token of a cardinality is read back.** -/
theorem token_append_inj {c c' : Cardinality} {t t' : String} :
    c.token ++ t = c'.token ++ t' ↔ c = c' ∧ t = t' := by
  refine code_append_inj (n := 6) (fun c => (length_token c).ge) fun htake => ?_
  rw [List.take_of_length_le (length_token c).le, List.take_of_length_le (length_token c').le,
    String.toList_inj] at htake
  rw [← Option.some_inj, ← Cardinality.ofToken?_token c, htake, Cardinality.ofToken?_token]

/-- **Relationships with the same line show the same.** -/
theorem Relationship.line_eq_line_iff {link link' : Relationship}
    (hends : isValid link.source = true ∧ isValid link.target = true)
    (hends' : isValid link'.source = true ∧ isValid link'.target = true) :
    link.line = link'.line ↔ link.shown = link'.shown := by
  rw [Relationship.line_eq, Relationship.line_eq,
    name_append_inj hends.1 hends'.1 (ends_append (by decide)) (ends_append (by decide)),
    String.append_right_inj, token_append_inj, String.append_right_inj,
    name_append_inj hends.2 hends'.2 (ends_append (by decide)) (ends_append (by decide)),
    String.append_right_inj, inQuotes_append_inj (plain_quoted _).quote_not_mem
      (plain_quoted _).quote_not_mem, and_iff_left rfl, Relationship.shown, Relationship.shown,
    Prod.mk.injEq, Prod.mk.injEq, Prod.mk.injEq, and_left_comm (a := link.cardinality = _)]

/-- **A relationship is legible, and passes for no entity.** -/
theorem legible_relationship {link : Relationship} (hsource : isValid link.source = true) :
    (Item.line link.line).Legible ∧ (Item.line link.line).isLink = true := by
  have hmark : isMark link.cardinality.token = true := by
    obtain ⟨left, identifying, right⟩ := link.cardinality
    cases left <;> cases identifying <;> cases right <;> rfl
  rw [Relationship.line_eq]
  exact Item.legible_link hsource hmark _

/-! ### Documents -/

/-- **The items of an entity-relation diagram are legible.** -/
theorem outlined {plan : EntityRelation}
    (hnames : ∀ s ∈ (Plan.entityRelation plan).names, isValid s = true) (hne : plan.entities ≠ []) :
    Outlined (.entityRelation plan) (plan.entities.map Entity.item)
      (plan.relationships.map fun link => .line link.line) where
  names := hnames
  items := by rw [Plan.document, document, body_of_entities hne]
  elements := List.forall_mem_map.2 fun _ hentity =>
    legible_item ((Schema.forall_names_iff.1 hnames).1 _ hentity)
  links := List.forall_mem_map.2 fun _ hlink =>
    legible_relationship ((Schema.forall_names_iff.1 hnames).2 _ hlink).1

/-- **Entity-relation diagrams have the same document exactly when they show the same.**  Of two
plans that have passed the schema and have entities, the documents have the same text just when the
plans have, in the same order, entities with the same names and columns, where the types and names
of columns are compared as they are written and their keys as they are, and relationships with the
same ends, cardinalities and quoted labels.  From the text, in which the first brace of a body ends
it, just the entities with the lines of their columns and the relationships are read back, and from
the line of a column, in which each key mark is a key, its type, its name and its keys: no text of a
column leaves the body, adds a key or takes the place of another. -/
theorem text_eq_iff_entities_relationships {json json' : Json} {plan plan' : EntityRelation}
    (h : Plan.ofJson .entityRelation json = .ok (.entityRelation plan))
    (h' : Plan.ofJson .entityRelation json' = .ok (.entityRelation plan'))
    (hne : plan.entities ≠ []) (hne' : plan'.entities ≠ []) :
    (plan.document.text = plan'.document.text ↔
      plan.entities.map Entity.shown = plan'.entities.map Entity.shown ∧
        plan.relationships.map Relationship.shown = plan'.relationships.map Relationship.shown) ∧
      (Document.readText plan.document.text).map (List.partition Item.isLink) =
        some (plan.relationships.map fun link => .line link.line, plan.entities.map Entity.item) ∧
      ∀ entity ∈ plan.entities, ∀ column ∈ entity.columns,
        Column.read? column.line = some column.shown := by
  have hnames := Schema.isValid_of_mem_names h
  have hnames' := Schema.isValid_of_mem_names h'
  have houtlined := outlined hnames hne
  refine ⟨?_, houtlined.partition_readText, fun _ _ column _ => column.read?_line⟩
  have hentities : plan.entities.map Entity.item = plan'.entities.map Entity.item ↔
      plan.entities.map Entity.shown = plan'.entities.map Entity.shown :=
    Document.map_eq_map_iff_of_forall fun _ _ _ _ => Entity.item_eq_item_iff
  have hlinks : (plan.relationships.map fun link => Item.line link.line) =
      (plan'.relationships.map fun link => .line link.line) ↔
        plan.relationships.map Relationship.shown = plan'.relationships.map Relationship.shown :=
    Document.map_line_eq_map_line_iff fun link hlink link' hlink' =>
      Relationship.line_eq_line_iff ((Schema.forall_names_iff.1 hnames).2 link hlink)
        ((Schema.forall_names_iff.1 hnames').2 link' hlink')
  rw [← hentities, ← hlinks]
  exact houtlined.text_eq_text_iff (outlined hnames' hne') rfl

/-- An entity with one column, and a relationship with braces in its token. -/
def ledger (dataType name : String) (keys : List KeyKind) : Json :=
  .object
    [("entities", .array
      [.object [("name", .string "o"), ("columns", .array
        [.object [("name", .string name), ("type", .string dataType),
          ("keys", .array (keys.map fun key => .string (Vocabulary.spelling key)))]])]]),
      ("relationships", .array
        [.object [("from", .string "o"), ("to", .string "o"),
          ("cardinality", .string "\x7do--o\x7b"), ("label", .string "\x7b")]])]

/-- The typed plan of `ledger`. -/
def ledgerPlan (dataType name : String) (keys : List KeyKind) : EntityRelation where
  entities := [⟨"o", [⟨name, dataType, keys⟩]⟩]
  relationships := [⟨"o", "o", ⟨.zeroOrMore, true, .zeroOrMore⟩, "\x7b"⟩]

/-- `text_eq_iff_entities_relationships` at work: marks that are dropped make no difference, but
where a space stands does, and a name that spells a key is none. -/
theorem text_eq_iff_entities_relationships_ledger :
    (ledgerPlan "int\x7d" "total" []).document.text =
        (ledgerPlan "int" " total?" []).document.text ∧
      (ledgerPlan "int big" "total" []).document.text ≠
        (ledgerPlan "int" "big total" []).document.text ∧
      (Document.readText (ledgerPlan "\x7d" "pk" [.foreign, .primary]).document.text).map
          (List.partition Item.isLink) =
        some ([.line "o \x7do--o\x7b o : \"\x7b\""], [.block "o" ["string pk_ FK, PK"]]) ∧
      Column.read? (Column.line ⟨"pk", "\x7d", [.foreign, .primary]⟩) =
        some ("string", "pk_", [.foreign, .primary]) := by
  have hplain : ∀ dataType name,
      Plan.ofJson .entityRelation (ledger dataType name []) =
        .ok (.entityRelation (ledgerPlan dataType name [])) := fun _ _ => rfl
  have hkeys : Plan.ofJson .entityRelation (ledger "\x7d" "pk" [.foreign, .primary]) =
      .ok (.entityRelation (ledgerPlan "\x7d" "pk" [.foreign, .primary])) := by decide +kernel
  obtain ⟨-, hread, hcolumns⟩ := text_eq_iff_entities_relationships hkeys hkeys (by decide)
    (by decide)
  refine ⟨?_, ?_, hread.trans (by decide +kernel), ?_⟩
  · exact (text_eq_iff_entities_relationships (hplain _ _) (hplain _ _) (by decide)
      (by decide)).1.2 (by decide +kernel)
  · exact mt (text_eq_iff_entities_relationships (hplain _ _) (hplain _ _) (by decide)
      (by decide)).1.1 (by decide +kernel)
  · exact (hcolumns _ (List.mem_singleton_self _) _ (List.mem_singleton_self _)).trans
      (by decide +kernel)

end EntityRelation
end CodeDiagram
