/-
# What is written is read back

A character of a string is written as itself or as an escape, and either way it
is read back as that character (`Lexeme.textFrom_escaped`).  So a string comes
back as it is, whatever characters it has.

A value is written lexeme by lexeme, and each lexeme is a step of the reader
(`Reader.reads_lexeme`).  The steps are put together along the value: what
follows the first item of an array or the first field of an object is read on
the frame that the first has left (`Reader.reads_items`, `Reader.reads_fields`),
and the value as a whole leaves the stack as it was (`Reader.reads_print`).  Only
numbers may come back in another form (`readBack`).
-/

import CodeDiagram.Json.Reader
import CodeDiagram.Proofs.Json.Number

namespace CodeDiagram
namespace Json

variable {p : Position} {c : Char} {cs rest : List Char}

/-! ### Strings -/

namespace Lexeme

/-- What is read so far does not depend on how long the rest is. -/
theorem textFrom_plain {seen : List Char} {n : ℕ} (hquote : c ≠ '"') (hescape : c ≠ '\\')
    (hcontrol : ¬ c.toNat < 0x20) (cs : List Char) :
    textFrom p none seen n (c :: cs) = textFrom (p.step c) none (c :: seen) (n + 1) cs := by
  rw [textFrom, if_neg hquote, if_neg hescape, if_neg hcontrol]

/-- An escape is read as the character it stands for. -/
theorem textFrom_escape {seen : List Char} {n : ℕ} (code : List Char)
    (h : escape (p.step '\\') (code ++ cs) = .ok ⟨.ok c, code.length⟩) :
    ∃ q, textFrom p none seen n ('\\' :: (code ++ cs)) =
      textFrom q none (c :: seen) (n + 1 + code.length) cs := by
  refine ⟨(p.step '\\').past ((code ++ cs).take code.length), ?_⟩
  rw [textFrom, if_neg (by decide), if_pos rfl, h]
  simp only [List.drop_left]

/-- A control character is told from its two digits. -/
theorem codeUnit_control (hcontrol : c.toNat < 0x20) (cs : List Char) :
    codeUnit p ('0' :: '0' :: Nat.digitChar (c.toNat / 16) :: Nat.digitChar (c.toNat % 16) :: cs) =
      .ok c.toNat := by
  have hdigits : ∀ n < 0x20,
      ¬ byteCount ['0', '0', Nat.digitChar (n / 16), Nat.digitChar (n % 16)] < 4 ∧
        hexNumber? ['0', '0', Nat.digitChar (n / 16), Nat.digitChar (n % 16)] = some n := by
    decide
  obtain ⟨hbytes, hnumber⟩ := hdigits c.toNat hcontrol
  have hfour : ∀ a b : Char, ('0' :: '0' :: a :: b :: cs).take 4 = ['0', '0', a, b] :=
    fun _ _ => rfl
  rw [codeUnit, hfour, if_neg hbytes, hnumber]

theorem escape_control (hcontrol : c.toNat < 0x20) (cs : List Char) :
    escape p ('u' :: '0' :: '0' :: Nat.digitChar (c.toNat / 16) :: Nat.digitChar (c.toNat % 16) ::
      cs) = .ok ⟨.ok c, 5⟩ := by
  show (codePoint (p.step 'u') _).map _ = _
  simp only [codePoint, codeUnit_control hcontrol, bind, Except.bind]
  rw [if_neg (by omega), if_neg (by omega), Char.ofNat_toNat]
  rfl

/-- **A character is read back**, however it is written. -/
theorem textFrom_escaped (p : Position) (c : Char) (seen : List Char) (n : ℕ) (cs : List Char) :
    ∃ q, textFrom p none seen n (escaped c ++ cs) =
      textFrom q none (c :: seen) (n + (escaped c).length) cs := by
  unfold escaped
  split
  · exact textFrom_escape ['"'] rfl
  · exact textFrom_escape ['\\'] rfl
  · exact textFrom_escape ['b'] rfl
  · exact textFrom_escape ['t'] rfl
  · exact textFrom_escape ['n'] rfl
  · exact textFrom_escape ['f'] rfl
  · exact textFrom_escape ['r'] rfl
  · next hquote hescape _ _ _ _ _ =>
    split
    · next hcontrol =>
      exact textFrom_escape _ (escape_control hcontrol cs)
    · next hcontrol => exact ⟨_, textFrom_plain hquote hescape hcontrol cs⟩

/-- **A string is read back.** -/
theorem textFrom_printed (rest s : List Char) : ∀ (p : Position) (seen : List Char) (n : ℕ),
    textFrom p none seen n (s.flatMap escaped ++ '"' :: rest) =
      .ok ⟨.ok (String.ofList (seen.reverse ++ s)), n + (s.flatMap escaped).length + 1⟩ := by
  induction s with
  | nil =>
      intro p seen n
      show textFrom p none seen n ('"' :: rest) = _
      rw [textFrom, if_pos rfl, List.append_nil]
      rfl
  | cons c s ih =>
      intro p seen n
      rw [List.flatMap_cons, List.append_assoc]
      obtain ⟨q, hq⟩ := textFrom_escaped p c seen n (s.flatMap escaped ++ '"' :: rest)
      rw [hq, ih, List.reverse_cons, List.append_assoc, List.singleton_append, List.length_append,
        Nat.add_assoc n]

theorem tokenAt_string (p : Position) (s : String) (rest : List Char) :
    tokenAt p '"' (s.toList.flatMap escaped ++ ['"'] ++ rest) =
      ⟨.text (.ok s), (s.toList.flatMap escaped ++ ['"']).length + 1⟩ := by
  have htext := textFrom_printed rest s.toList (p.step '"') [] 0
  rw [List.reverse_nil, List.nil_append, String.ofList_toList, Nat.zero_add] at htext
  rw [List.append_assoc, List.singleton_append, List.length_append]
  simp only [tokenAt, htext]
  rfl

end Lexeme

/-! ### What comes back -/

/-- What a number comes back as. -/
def Number.readBack (n : Number) : Json :=
  if n.literal.outOfRange then .bool false else .number n.literal.number

mutual

/-- What a value comes back as. -/
def readBack : Json → Json
  | .null => .null
  | .bool b => .bool b
  | .number n => n.readBack
  | .string s => .string s
  | .array items => .array (readBackItems items)
  | .object fields => .object (readBackFields fields)

/-- What the items of an array come back as. -/
def readBackItems : List Json → List Json
  | [] => []
  | item :: items => readBack item :: readBackItems items

/-- What the fields of an object come back as. -/
def readBackFields : Fields → Fields
  | [] => []
  | (name, value) :: fields => (name, readBack value) :: readBackFields fields

end

mutual

/-- All numbers in a value are legible. -/
def Legible : Json → Prop
  | .null => True
  | .bool _ => True
  | .number n => n.Legible
  | .string _ => True
  | .array items => LegibleItems items
  | .object fields => LegibleFields fields

/-- All numbers in some items are legible. -/
def LegibleItems : List Json → Prop
  | [] => True
  | item :: items => Legible item ∧ LegibleItems items

/-- All numbers in some fields are legible. -/
def LegibleFields : Fields → Prop
  | [] => True
  | (_, value) :: fields => Legible value ∧ LegibleFields fields

end

/-! ### Values -/

namespace Reader

variable {state : State} {stack : List Frame} {a b c : State × List Frame} {t u : List Char}
  {token : Token}

/-- Reads on at a place of a text. -/
def readFrom (a : State × List Frame) (p : Position) (cs : List Char) : Except Error Json :=
  run lenient (Lexeme.all p cs).2 a.1 a.2 (Lexeme.all p cs).1

/-- A text before some rest takes the reader from one state and stack to the next. -/
def Reads (rest : List Char) (a : State × List Frame) (t : List Char) (b : State × List Frame) :
    Prop :=
  ∀ p, ∃ q, readFrom a p (t ++ rest) = readFrom b q rest

theorem Reads.append (ht : Reads (u ++ rest) a t b) (hu : Reads rest b u c) :
    Reads rest a (t ++ u) c := by
  intro p
  obtain ⟨q, hq⟩ := ht p
  obtain ⟨r, hr⟩ := hu q
  exact ⟨r, by rw [List.append_assoc, hq, hr]⟩

/-- **A lexeme is a step of the reader.** -/
theorem reads_lexeme {first : Char} {more : List Char} (hspace : Lexeme.isSpace first = false)
    (htoken : ∀ p, ∃ token, Lexeme.tokenAt p first (more ++ rest) = ⟨token, more.length + 1⟩ ∧
      token.isBroken = false ∧ ∀ place, take lenient a.1 a.2 ⟨token, place⟩ = .ok b) :
    Reads rest a (first :: more) b := by
  intro p
  obtain ⟨token, htoken, hbroken, htake⟩ := htoken p
  have hall : Lexeme.all p (first :: more ++ rest) =
      (⟨token, p.bytes 1 (first :: more ++ rest)⟩ ::
        (Lexeme.all ((p.step first).past more) rest).1,
        (Lexeme.all ((p.step first).past more) rest).2) := by
    rw [List.cons_append, Lexeme.all, if_neg (by rw [hspace]; decide), htoken]
    simp only [hbroken, Nat.add_sub_cancel, List.take_left, List.drop_left]
    rfl
  refine ⟨(p.step first).past more, ?_⟩
  rw [readFrom, hall, run, htake]
  rfl

theorem reads_token (first : Char) (more : List Char) (hspace : Lexeme.isSpace first = false)
    (hbroken : token.isBroken = false)
    (htake : ∀ place, take lenient a.1 a.2 ⟨token, place⟩ = .ok b)
    (htoken : ∀ p, Lexeme.tokenAt p first (more ++ rest) = ⟨token, more.length + 1⟩) :
    Reads rest a (first :: more) b :=
  reads_lexeme hspace fun p => ⟨token, htoken p, hbroken, htake⟩

/-- Expects a value. -/
def Expects : State → Prop
  | .value => True
  | .item => True
  | .nextItem => True
  | _ => False

theorem take_of_expects (h : Expects state) (hclose : token ≠ .closeArray) (place : Position) :
    take lenient state stack ⟨token, place⟩ = takeValue lenient stack ⟨token, place⟩ := by
  cases state with
  | value => rfl
  | item => cases token <;> first | rfl | exact absurd rfl hclose
  | nextItem => cases token <;> first | rfl | exact absurd rfl hclose
  | _ => cases h

theorem reads_value (first : Char) (more : List Char) (hstate : Expects state)
    (hclose : token ≠ .closeArray) (hbroken : token.isBroken = false)
    (htake : ∀ place, takeValue lenient stack ⟨token, place⟩ = .ok b)
    (hspace : Lexeme.isSpace first = false)
    (htoken : ∀ p, Lexeme.tokenAt p first (more ++ rest) = ⟨token, more.length + 1⟩) :
    Reads rest (state, stack) (first :: more) b :=
  have htake' := fun place => (take_of_expects hstate hclose place).trans (htake place)
  reads_token first more hspace hbroken htake' htoken

theorem reads_string (s : String)
    (htake : ∀ place, take lenient a.1 a.2 ⟨.text (.ok s), place⟩ = .ok b) :
    Reads rest a (printString s) b :=
  reads_token '"' (s.toList.flatMap escaped ++ ['"']) (by decide) rfl htake
    fun p => Lexeme.tokenAt_string p s rest

theorem not_isSpace_of_opens {first : Char} (h : (first == '-' || first.isDigit) = true) :
    Lexeme.isSpace first = false := by
  rw [Bool.eq_false_iff]
  intro hspace
  simp only [Lexeme.isSpace, Bool.or_eq_true, beq_iff_eq] at hspace
  rcases hspace with ((rfl | rfl) | rfl) | rfl <;> exact absurd h (by decide)

/-- A number has a value, or is too large and another value stands for it. -/
theorem reads_number {n : Number} (h : n.Legible) (hstate : Expects state)
    (hrest : Span.Ends continuesNumber rest) :
    Reads rest (state, stack) n.text.toList (.rest n.readBack, stack) := by
  have hliteral := Number.positional_literal h
  rw [Number.toList_text]
  obtain ⟨first, more, htext⟩ := List.exists_cons_of_ne_nil (Lexeme.text_ne_nil hliteral)
  rw [htext]
  refine reads_lexeme (not_isSpace_of_opens (Lexeme.opens_text hliteral htext)) fun p => ?_
  refine ⟨_, Lexeme.tokenAt_number hliteral htext hrest, rfl, fun place => ?_⟩
  rw [take_of_expects hstate (Token.noConfusion ·), Lexeme.scalarOf, Number.readBack]
  cases n.literal.outOfRange <;> rfl

/-- A field that is read. -/
def member (field : String × Json) : Except Error String × Json := (.ok field.1, field.2)

theorem closed_map_member (fields : Fields) :
    closed lenient (fields.map member) = .ok (.object fields.reverse) := by
  have hmembers : ∀ fields : Fields,
      (fields.map member).mapM (fun m => m.1.map fun name => (name, m.2)) =
        (.ok fields : Except Error Fields) := by
    intro fields
    induction fields with
    | nil => rfl
    | cons field fields ih =>
        rw [List.map_cons, List.mapM_cons, ih]
        rfl
  rw [closed, ← List.map_reverse, hmembers]
  rfl

/-- The name of a field is read with the colon behind it. -/
theorem reads_name {members : Members} (hstate : state = .key members ∨ state = .nextKey members)
    (name : String) : Reads rest (state, stack) (printString name ++ [':'])
      (.value, .object members (.ok name) :: stack) := by
  have hname : Reads ([':'] ++ rest) (state, stack) (printString name)
      (.colon, .object members (.ok name) :: stack) := by
    refine reads_string name ?_
    rcases hstate with rfl | rfl <;> exact fun _ => rfl
  exact hname.append (reads_token ':' [] (by decide) rfl (fun _ => rfl) fun _ => rfl)

/-- What is written behind the first part. -/
def further (parts : List (List Char)) : List Char := parts.flatMap fun part => ',' :: part

theorem commas_cons (part : List Char) (parts : List (List Char)) :
    commas (part :: parts) = part ++ further parts := by
  induction parts generalizing part with
  | nil => simp [commas, further]
  | cons next parts ih =>
      rw [commas, List.intercalate_cons_cons, ← commas, ih, further, further, List.flatMap_cons]
      simp

theorem ends_further (parts : List (List Char)) (close : Char) (h : continuesNumber close = false)
    (rest : List Char) : Span.Ends continuesNumber (further parts ++ [close] ++ rest) := by
  cases parts with
  | nil => exact Span.ends_of_head? rfl h
  | cons part parts => exact Span.ends_of_head? rfl (by decide)

mutual

/-- **A value is read back.** -/
theorem reads_print (state : State) (stack : List Frame) (rest : List Char)
    (hstate : Expects state) (hrest : Span.Ends continuesNumber rest) : ∀ v : Json, v.Legible →
      Reads rest (state, stack) (print v) (.rest v.readBack, stack)
  | .null, _ =>
      reads_value 'n' ['u', 'l', 'l'] hstate Token.noConfusion rfl
        (fun _ => rfl) (by decide) fun _ => rfl
  | .bool true, _ =>
      reads_value 't' ['r', 'u', 'e'] hstate Token.noConfusion rfl
        (fun _ => rfl) (by decide) fun _ => rfl
  | .bool false, _ =>
      reads_value 'f' ['a', 'l', 's', 'e'] hstate Token.noConfusion rfl
        (fun _ => rfl) (by decide) fun _ => rfl
  | .number n, h => reads_number h hstate hrest
  | .string s, _ => reads_string s (take_of_expects hstate Token.noConfusion)
  | .array items, h => by
      have hopen : ∀ rest, Reads rest (state, stack) ['['] (.item, .array [] :: stack) :=
        fun rest => reads_value '[' [] hstate Token.noConfusion rfl (fun _ => rfl) (by decide)
          fun _ => rfl
      cases items with
      | nil =>
          exact (hopen _).append (reads_token ']' [] (by decide) rfl (fun _ => rfl) fun _ => rfl)
      | cons v items =>
          have hv := reads_print .item (.array [] :: stack) _ trivial
            (ends_further (printItems items) ']' rfl rest) v h.1
          have hitems := reads_items stack rest items h.2 [] v.readBack
          show Reads rest _ (['['] ++ commas (print v :: printItems items) ++ [']']) _
          rw [commas_cons, List.append_assoc, List.append_assoc]
          exact (hopen _).append (hv.append hitems)
  | .object fields, h => by
      have hopen : ∀ rest, Reads rest (state, stack) ['\x7b'] (.key [], stack) :=
        fun rest => reads_value '\x7b' [] hstate Token.noConfusion rfl (fun _ => rfl) (by decide)
          fun _ => rfl
      cases fields with
      | nil =>
          exact (hopen _).append
            (reads_token '\x7d' [] (by decide) rfl (fun _ => rfl) fun _ => rfl)
      | cons field fields =>
          obtain ⟨name, v⟩ := field
          have hv := reads_print .value (.object [] (.ok name) :: stack) _ trivial
            (ends_further (printFields fields) '\x7d' rfl rest) v h.1
          have hfields := reads_fields stack rest fields h.2 [] name v.readBack
          show Reads rest _ (['\x7b'] ++ commas
            ((printString name ++ [':'] ++ print v) :: printFields fields) ++ ['\x7d']) _
          rw [commas_cons, List.append_assoc, List.append_assoc, List.append_assoc]
          exact (hopen _).append ((reads_name (.inl rfl) name).append (hv.append hfields))

/-- The items behind the first are read back. -/
theorem reads_items (stack : List Frame) (rest : List Char) :
    ∀ items : List Json, LegibleItems items → ∀ (read : List Json) (v : Json),
      Reads rest (.rest v, .array read :: stack) (further (printItems items) ++ [']'])
        (.rest (.array (read.reverse ++ v :: readBackItems items)), stack)
  | [], _, read, v => by
      have hclose : Reads rest (.rest v, .array read :: stack) [']']
          (.rest (.array (v :: read).reverse), stack) :=
        reads_token ']' [] (by decide) rfl (fun _ => rfl) fun _ => rfl
      rwa [List.reverse_cons] at hclose
  | item :: items, h, read, v => by
      have hcomma : ∀ rest, Reads rest (.rest v, .array read :: stack) [',']
          (.nextItem, .array (v :: read) :: stack) := fun rest =>
        reads_token ',' [] (by decide) rfl (fun _ => rfl) fun _ => rfl
      have hitem := reads_print .nextItem (.array (v :: read) :: stack) _ trivial
        (ends_further (printItems items) ']' rfl rest) item h.1
      have hitems := reads_items stack rest items h.2 (v :: read) item.readBack
      rw [List.reverse_cons, List.append_assoc, List.singleton_append] at hitems
      have htext : further (printItems (item :: items)) ++ [']'] =
          [','] ++ (print item ++ (further (printItems items) ++ [']'])) := by
        simp [further, printItems]
      rw [htext]
      exact (hcomma _).append (hitem.append hitems)

/-- The fields behind the first are read back. -/
theorem reads_fields (stack : List Frame) (rest : List Char) :
    ∀ fields : Fields, LegibleFields fields → ∀ (read : Fields) (name : String) (v : Json),
      Reads rest (.rest v, .object (read.map member) (.ok name) :: stack)
        (further (printFields fields) ++ ['\x7d'])
        (.rest (.object (read.reverse ++ (name, v) :: readBackFields fields)), stack)
  | [], _, read, name, v => by
      have hclosed := closed_map_member ((name, v) :: read)
      rw [List.reverse_cons] at hclosed
      refine reads_token '\x7d' [] (by decide) rfl (fun place => ?_) fun _ => rfl
      show (closed lenient (((name, v) :: read).map member)).map _ = _
      rw [hclosed]
      rfl
  | (name', v') :: fields, h, read, name, v => by
      have hcomma : ∀ rest, Reads rest (.rest v, .object (read.map member) (.ok name) :: stack)
          [','] (.nextKey (((name, v) :: read).map member), stack) := fun rest =>
        reads_token ',' [] (by decide) rfl (fun _ => rfl) fun _ => rfl
      have hvalue := reads_print .value
        (.object (((name, v) :: read).map member) (.ok name') :: stack) _ trivial
        (ends_further (printFields fields) '\x7d' rfl rest) v' h.1
      have hfields := reads_fields stack rest fields h.2 ((name, v) :: read) name' v'.readBack
      rw [List.reverse_cons, List.append_assoc, List.singleton_append] at hfields
      have htext : further (printFields ((name', v') :: fields)) ++ ['\x7d'] =
          [','] ++ ((printString name' ++ [':']) ++
            (print v' ++ (further (printFields fields) ++ ['\x7d']))) := by
        simp [further, printFields]
      rw [htext]
      exact (hcomma _).append ((reads_name (.inr rfl) name').append (hvalue.append hfields))

end

end Reader

/-- **The text of a value is read as that value**, up to the form of its numbers. -/
theorem skim_text {v : Json} (h : v.Legible) : skim v.text = .ok v.readBack := by
  obtain ⟨q, hq⟩ := Reader.reads_print .value [] [] trivial (fun _ h => nomatch h) v h
    Position.start
  show Reader.readFrom (.value, []) Position.start (String.ofList (print v)).toList = _
  rw [List.append_nil] at hq
  rw [String.toList_ofList, hq, Reader.readFrom, Lexeme.all]
  rfl

/-- The number that stands for a binary number is legible. -/
theorem legible_ofBinary (f : Decimal.Format) (x : Decimal.Binary) : (ofBinary f x).Legible := by
  cases x with
  | finite negative x =>
      rw [ofBinary]
      split_ifs with hzero
      · exact .inr (Int.le_refl 0)
      · exact .inl (Decimal.Format.digits_ne_zero_of_shortest hzero)
  | infinite negative => trivial
  | nan => trivial

end Json
end CodeDiagram
