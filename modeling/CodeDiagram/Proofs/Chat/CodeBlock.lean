/-
# The code inside the user message

Section 4.1 of `SPEC_FULL.md`: "The user message wraps the code in a fenced
block."

The user message shows the code between two lines with a fence.  Markdown reads
a block from such a line up to the next one that closes it:

| line | three spaces at most, then | behind the backquotes |
| --- | --- | --- |
| opens a block | three backquotes or more | no backquote |
| closes it | as many backquotes as opened it, or more | spaces and tabs |

So the code is the block that is read just when no line of it closes the block
(`enclosed_iff`), as is the case where it does not hold the fence
(`closes_eq_false`).  The fence is one backquote longer if the code holds the
usual one, and is not made longer again: the code holds its fence when it holds
four backquotes in a row (`fenceFor_infix_iff`).
-/

import CodeDiagram.Chat.Gateway
import CodeDiagram.Proofs.Chat.Fence

namespace CodeDiagram
namespace Chat

variable {line code text piece rest : List Char} {m n : ℕ}

/-! ### Lines and fences -/

/-- Ends a line. -/
def isLineEnd (c : Char) : Bool := c == '\n' || c == '\r'

/-- The lines of a text.  A carriage return and a line feed end a line and an empty line. -/
def linesOf (text : List Char) : List (List Char) := text.splitOnP isLineEnd

/-- The number of backquotes that a line starts with behind three spaces at most, if it is three or
more, and what stands behind them. -/
def fenceAt? (line : List Char) : Option (ℕ × List Char) :=
  let marked := line.dropWhile (· == ' ')
  let run := marked.takeWhile (· == '`')
  if (line.takeWhile (· == ' ')).length ≤ 3 ∧ 3 ≤ run.length then
    some (run.length, marked.dropWhile (· == '`'))
  else none

/-- The number of backquotes with which a line opens a block. -/
def opens? (line : List Char) : Option ℕ :=
  (fenceAt? line).bind fun fence => if '`' ∈ fence.2 then none else some fence.1

/-- The line closes a block that `n` backquotes have opened. -/
def closes (n : ℕ) (line : List Char) : Bool :=
  (fenceAt? line).any fun fence => n ≤ fence.1 && fence.2.all fun c => c == ' ' || c == '\t'

/-- The lines before the first fenced block, those in it and those behind it. -/
def firstBlock? : List (List Char) → Option (List (List Char) × List (List Char) × List (List Char))
  | [] => none
  | line :: rest =>
    match opens? line with
    | some n =>
      let body := rest.takeWhile fun line => !closes n line
      some ([], body, rest.drop (body.length + 1))
    | none => (firstBlock? rest).map fun parts => (line :: parts.1, parts.2)

/-- The user message shows the code as one fenced block, with nothing behind it. -/
def Enclosed (code : String) : Prop :=
  firstBlock? (linesOf (userMessage code).toList) =
    some (["Code snippet to analyze:".toList], linesOf code.toList, [])

/-! ### Reading a block -/

/-- The first line of a text is its beginning, and every line is a part of it. -/
theorem linesOf_infix (text : List Char) : ∃ first rest, linesOf text = first :: rest ∧
    first <+: text ∧ ∀ line ∈ linesOf text, line <:+: text := by
  induction text with
  | nil => exact ⟨[], [], rfl, List.prefix_rfl, by simp [linesOf]⟩
  | cons c text ih =>
      obtain ⟨first, rest, hlines, hfirst, hall⟩ := ih
      rw [linesOf, List.splitOnP_cons_eq_if_modifyHead, ← linesOf]
      split_ifs
      · refine ⟨[], linesOf text, rfl, List.nil_prefix, ?_⟩
        exact List.forall_mem_cons.2 ⟨List.nil_infix, fun line h => List.infix_cons (hall line h)⟩
      · rw [hlines] at hall ⊢
        have hcons : c :: first <+: c :: text := List.cons_prefix_cons.2 ⟨rfl, hfirst⟩
        refine ⟨c :: first, rest, rfl, hcons, ?_⟩
        refine List.forall_mem_cons.2 ⟨hcons.isInfix, fun line h => List.infix_cons ?_⟩
        exact hall line (List.mem_cons_of_mem _ h)

/-- A line that ends the one before it starts anew. -/
theorem linesOf_append_cons (text text' : List Char) :
    linesOf (text ++ '\n' :: text') = linesOf text ++ linesOf text' :=
  List.splitOnP_append_cons text text' rfl

theorem linesOf_eq_singleton (h : ∀ c ∈ line, isLineEnd c = false) : linesOf line = [line] :=
  List.splitOnP_eq_singleton h

/-- The backquotes that are counted stand in the line. -/
theorem fenceAt?_eq_some (h : fenceAt? line = some (m, rest)) :
    List.replicate m '`' ++ rest <:+ line := by
  rw [fenceAt?] at h
  split_ifs at h
  obtain ⟨rfl, rfl⟩ := Prod.mk.inj (Option.some.inj h)
  have hrun := List.eq_replicate_of_mem (l := (line.dropWhile (· == ' ')).takeWhile (· == '`'))
    fun c hc => by simpa using List.mem_takeWhile_imp hc
  rw [← hrun, List.takeWhile_append_dropWhile]
  exact List.dropWhile_suffix _

theorem fenceAt?_replicate (h : 3 ≤ n) : fenceAt? (List.replicate n '`') = some (n, []) := by
  simp [fenceAt?, h]

theorem opens?_replicate (h : 3 ≤ n) : opens? (List.replicate n '`') = some n := by
  rw [opens?, fenceAt?_replicate h]
  rfl

theorem closes_replicate (h : 3 ≤ n) : closes n (List.replicate n '`') = true := by
  rw [closes, fenceAt?_replicate h, Option.any_some, decide_eq_true le_rfl]
  rfl

/-- **A line closes a block only if it holds the backquotes that opened it.** -/
theorem closes_eq_false (h : ¬ List.replicate n '`' <:+: line) : closes n line = false := by
  cases hfence : fenceAt? line with
  | none => rw [closes, hfence, Option.any_none]
  | some fence =>
      rw [closes, hfence, Option.any_some, Bool.and_eq_false_iff, decide_eq_false_iff_not]
      refine .inl fun hn => h ?_
      have hrun : List.replicate n '`' <+: List.replicate fence.1 '`' ++ fence.2 := by
        obtain ⟨more, hmore⟩ := Nat.exists_eq_add_of_le hn
        rw [hmore, List.replicate_add, List.append_assoc]
        exact List.prefix_append _ _
      exact hrun.isInfix.trans (fenceAt?_eq_some hfence).isInfix

/-- **A block between two fences holds what stands between them if no line of that closes it.** -/
theorem firstBlock?_enclosed {intro mark : List Char} {body : List (List Char)}
    (hintro : opens? intro = none) (hopens : opens? mark = some n)
    (hcloses : closes n mark = true) :
    firstBlock? (intro :: mark :: (body ++ [mark])) = some ([intro], body, []) ↔
      ∀ line ∈ body, closes n line = false := by
  have hread : firstBlock? (intro :: mark :: (body ++ [mark])) =
      some ([intro], (body ++ [mark]).takeWhile (fun line => !closes n line),
        (body ++ [mark]).drop
          (((body ++ [mark]).takeWhile fun line => !closes n line).length + 1)) := by
    rw [firstBlock?, hintro, firstBlock?, hopens]
    rfl
  rw [hread, Option.some_inj, Prod.mk.injEq, Prod.mk.injEq, and_iff_right rfl]
  constructor
  · rintro ⟨hbody, -⟩ line hline
    rw [← hbody] at hline
    simpa using List.mem_takeWhile_imp hline
  · intro h
    have hbody : (body ++ [mark]).takeWhile (fun line => !closes n line) = body :=
      Span.takeWhile_append (fun line hline => by rw [h line hline]; rfl)
        (Span.ends_of_head? rfl (by rw [hcloses]; rfl))
    rw [hbody]
    exact ⟨rfl, List.drop_of_length_le (by simp)⟩

/-! ### The user message -/

theorem length_fenceFor (code : String) : 3 ≤ (fenceFor code).length ∧
    (fenceFor code).toList = List.replicate (fenceFor code).length '`' := by
  rw [fenceFor]
  split_ifs <;> decide +kernel

/-- **The code holds its fence when it holds four backquotes in a row.** -/
theorem fenceFor_infix_iff (code : String) :
    (fenceFor code).toList <:+: code.toList ↔ "````".toList <:+: code.toList := by
  have hlonger : fence.toList <+: "````".toList := by decide +kernel
  rw [fenceFor]
  split_ifs with hfence
  · rfl
  · have habsent : ¬ fence.toList <:+: code.toList := mt Text.contains_iff_infix.2 hfence
    exact iff_of_false habsent fun h => habsent (hlonger.isInfix.trans h)

theorem toList_userMessage (code : String) : (userMessage code).toList =
    "Code snippet to analyze:".toList ++ '\n' ::
      ((fenceFor code).toList ++ '\n' :: (code.toList ++ '\n' :: (fenceFor code).toList)) := by
  have hintro : "Code snippet to analyze:\n".toList =
      "Code snippet to analyze:".toList ++ ['\n'] := by decide +kernel
  have hfeed : "\n".toList = ['\n'] := by decide +kernel
  unfold userMessage
  rw [String.toList_append, String.toList_append, String.toList_append, String.toList_append,
    String.toList_append, hintro, hfeed]
  simp only [List.append_assoc, List.cons_append, List.nil_append]

theorem linesOf_userMessage (code : String) : linesOf (userMessage code).toList =
    "Code snippet to analyze:".toList :: (fenceFor code).toList ::
      (linesOf code.toList ++ [(fenceFor code).toList]) := by
  have hfence : linesOf (fenceFor code).toList = [(fenceFor code).toList] := by
    rw [(length_fenceFor code).2]
    refine linesOf_eq_singleton fun c hc => ?_
    rw [List.eq_of_mem_replicate hc]
    rfl
  have hintro :
      linesOf "Code snippet to analyze:".toList = ["Code snippet to analyze:".toList] := by
    decide +kernel
  rw [toList_userMessage, linesOf_append_cons, linesOf_append_cons, linesOf_append_cons, hfence,
    hintro, List.singleton_append, List.singleton_append]

/-- **The code is the block that is read when no line of it closes the block.** -/
theorem enclosed_iff (code : String) :
    Enclosed code ↔ ∀ line ∈ linesOf code.toList, closes (fenceFor code).length line = false := by
  obtain ⟨hlength, hfence⟩ := length_fenceFor code
  rw [Enclosed, linesOf_userMessage, hfence]
  exact firstBlock?_enclosed (by decide +kernel) (opens?_replicate hlength)
    (closes_replicate hlength)

theorem enclosed_of_not_infix {code : String} (h : ¬ (fenceFor code).toList <:+: code.toList) :
    Enclosed code := by
  rw [enclosed_iff]
  intro line hline
  obtain ⟨-, -, -, -, hparts⟩ := linesOf_infix code.toList
  refine closes_eq_false fun hrun => h ?_
  rw [← (length_fenceFor code).2] at hrun
  exact hrun.trans (hparts line hline)

/-- A request for a plan makes one call at most: the instruction, and the code in its fence. -/
theorem messages_of_requestPlan {credentials cancelled : Bool} {kind : Kind} {code : String}
    {options : Options} {reply : Call → Reply} {call : Call}
    (h : (requestPlan (m := Id) credentials cancelled kind code options reply).call = some call) :
    call.messages =
      [.system (options.template.getD kind.instruction), .user (userMessage code)] := by
  cases credentials with
  | false => cases h
  | true =>
      cases cancelled with
      | true => cases h
      | false =>
          have hcall : (Outcome.ofReply (.forPlan kind code options)
              (reply (.forPlan kind code options))).call = some call := h
          cases hreply : reply (.forPlan kind code options) <;>
            · rw [hreply] at hcall
              cases hcall
              rfl

/-- **The fence is apart from the code where the code has no four backquotes in a row**, and the
code that a request sends is then the one block of the message.  Otherwise the code holds its
fence; it stays the block as long as none of its lines closes that. -/
theorem enclosed_of_fence_apart (credentials cancelled : Bool) (kind : Kind) (code : String)
    (options : Options) (reply : Call → Reply) :
    (∀ call, (requestPlan (m := Id) credentials cancelled kind code options reply).call =
        some call →
      call.messages =
        [.system (options.template.getD kind.instruction), .user (userMessage code)]) ∧
      (¬ (fenceFor code).toList <:+: code.toList ↔ ¬ "````".toList <:+: code.toList) ∧
      (¬ (fenceFor code).toList <:+: code.toList → Enclosed code) ∧
      (Enclosed code ↔
        ∀ line ∈ linesOf code.toList, closes (fenceFor code).length line = false) :=
  ⟨fun _ => messages_of_requestPlan, not_congr (fenceFor_infix_iff code), enclosed_of_not_infix,
    enclosed_iff code⟩

/-- `enclosed_of_fence_apart` at work: a comment with a block of its own is sent in a longer fence,
and four backquotes that other text follows do not close it. -/
theorem enclosed_of_fence_apart_commented :
    (requestPlan (m := Id) true false .sequence "/// ```rust\n/// ```" ⟨none, true⟩
        fun _ => .cancelledWaiting).call.map Call.messages =
      some [.system sequenceInstruction, .user (userMessage "/// ```rust\n/// ```")] ∧
      Enclosed "/// ```rust\n/// ```" ∧ Enclosed "```` f()" := by
  have hcommented := enclosed_of_fence_apart true false .sequence "/// ```rust\n/// ```"
    ⟨none, true⟩ fun _ => .cancelledWaiting
  have hfollowed := enclosed_of_fence_apart true false .sequence "```` f()" ⟨none, true⟩
    fun _ => .cancelledWaiting
  have hapart : ¬ "````".toList <:+: "/// ```rust\n/// ```".toList := by decide +kernel
  exact ⟨congrArg some (hcommented.1 _ rfl), hcommented.2.2.1 (hcommented.2.1.2 hapart),
    hfollowed.2.2.2.2 (by decide +kernel)⟩

/-- **The fence is not apart from every code**: where four backquotes stand in a line of their own
the block of the message ends there. -/
theorem not_forall_fence_apart :
    (¬ ∀ code : String, ¬ (fenceFor code).toList <:+: code.toList) ∧
      ¬ ∀ code : String, Enclosed code := by
  constructor
  · intro h
    exact h "````\n```rust\n```\n````" ((fenceFor_infix_iff _).2 (by decide +kernel))
  · intro h
    have hopen := (enclosed_iff "````\n```rust\n```\n````").1 (h _)
    exact absurd hopen (by decide +kernel)

end Chat
end CodeDiagram
