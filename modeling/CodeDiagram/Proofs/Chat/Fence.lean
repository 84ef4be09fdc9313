/-
# A fenced block inside an answer

Section 4.1 of `SPEC_FULL.md`: the fenced body.

An answer wraps a JSON text in a fence: some prose, three backquotes, the name
of a language, a line with the text, and a closing fence (`fencedAnswer`).
Where prose, text and remark hold no fence of their own (`Fenced`), the two
fences are the only ones.  What is extracted is read off the name:

| name of the language | what is extracted |
| --- | --- |
| `json`, or does not start with it: `JSON`, `js`, none | the text |
| starts with `json` and goes on: `jsonc`, `json5` | the rest of the name in front of the text |

The opening mark `json` ends inside a longer name, and the rest of that name is
not taken for one (`extract?_fenced`).
-/

import CodeDiagram.Chat.Extract
import CodeDiagram.Proofs.Identifier.Naming
import CodeDiagram.Proofs.Text.Search

namespace CodeDiagram
namespace Chat

open Text (Clear)

variable {opening xs ys info body rest : List Char}

theorem toList_fence : fence.toList = List.replicate 3 '`' := by decide +kernel

/-- The mark that opens a block of the language `json`. -/
theorem toList_fence_json : (fence ++ "json").toList = fence.toList ++ "json".toList :=
  String.toList_append

theorem fence_prefix_json : fence.toList <+: (fence ++ "json").toList := by
  rw [toList_fence_json]
  exact List.prefix_append _ _

theorem fence_ne_nil : fence.toList ≠ [] := by decide +kernel

/-- A fence does not start with a blank. -/
theorem ends_fence_append (xs : List Char) : Span.Ends Text.isBlank (fence.toList ++ xs) := by
  rw [toList_fence]
  rintro c ⟨⟩
  rfl

theorem not_mem_fence {c : Char} (h : c ≠ '`') : c ∉ fence.toList := by
  rw [toList_fence]
  exact fun hmem => h (List.eq_of_mem_replicate hmem)

theorem clear_fence (hxs : ¬ fence.toList <:+: xs)
    (hjoint : xs.getLast? ≠ some '`' ∨ ys.head? ≠ some '`') : Clear fence.toList xs ys := by
  rw [toList_fence] at hxs ⊢
  exact Text.clear_replicate hxs hjoint

/-- No fence begins in prose that holds none and does not end in a backquote. -/
theorem clear_prose {prose : List Char} (hfree : ¬ fence.toList <:+: prose)
    (hlast : prose.getLast? ≠ some '`') (ys : List Char) :
    Clear fence.toList (prose.dropWhile Text.isBlank) ys := by
  have hsuffix := List.dropWhile_suffix (l := prose) Text.isBlank
  refine clear_fence (fun hfound => hfree (hfound.trans hsuffix.isInfix)) (.inl ?_)
  intro hbackquote
  obtain ⟨front, hfront⟩ := hsuffix
  apply hlast
  rw [← hfront, List.getLast?_append, hbackquote]
  rfl

/-- A block is found between the first opening mark and the first fence behind it. -/
theorem block?_of_clear {inner : List Char} (hopening : opening ≠ [])
    (hxs : Clear opening xs (opening ++ (inner ++ (fence.toList ++ ys))))
    (hinner : Clear fence.toList inner (fence.toList ++ ys)) :
    block? opening (xs ++ (opening ++ (inner ++ (fence.toList ++ ys)))) = some inner := by
  rw [block?, Text.cut_append_mark hopening hxs]
  show (Text.cut fence.toList (inner ++ (fence.toList ++ ys))).bind (fun parts => some parts.1) = _
  rw [Text.cut_append_mark fence_ne_nil hinner, Option.bind_some]

/-! ### Inside the fences -/

/-- What stands between the two fences: the name of a language and a line with a text. -/
def inside (info body : List Char) : List Char := info ++ '\n' :: (body ++ ['\n'])

theorem ne_backquote_of_isAlphanum {c : Char} (h : c.isAlphanum = true) : c ≠ '`' := by
  rintro rfl
  exact absurd h (by decide)

theorem head?_inside (body : List Char) (hinfo : ∀ c ∈ info, c.isAlphanum = true) :
    ∃ c cs, inside info body = c :: cs ∧ c ≠ '`' := by
  cases info with
  | nil => exact ⟨_, _, rfl, by decide⟩
  | cons c cs => exact ⟨c, _, rfl, ne_backquote_of_isAlphanum (hinfo c (List.mem_cons_self ..))⟩

/-- No fence begins between the fences. -/
theorem clear_inside (hinfo : ∀ c ∈ info, c.isAlphanum = true)
    (hbody : ¬ fence.toList <:+: body) (ys : List Char) :
    Clear fence.toList (inside info body) ys := by
  have hnewline : ∀ ys, Clear fence.toList ['\n'] ys := fun _ =>
    clear_fence (by decide +kernel) (.inl (by decide))
  have hname : Clear fence.toList info ('\n' :: (body ++ ['\n']) ++ ys) := by
    refine clear_fence (fun hfound => ?_) (.inr (by simp))
    have hmem : '`' ∈ info := hfound.subset (by decide +kernel)
    exact ne_backquote_of_isAlphanum (hinfo _ hmem) rfl
  have hbody : Clear fence.toList body (['\n'] ++ ys) := clear_fence hbody (.inr (by simp))
  exact hname.append ((hnewline _).append (hbody.append (hnewline _)))

/-- A name that starts with `json` opens a block of that language; the block begins with the rest
of the name. -/
theorem block?_json {more : List Char} (hxs : ∀ ys, Clear fence.toList xs (fence.toList ++ ys))
    (hinfo : ∀ c ∈ more, c.isAlphanum = true) (hbody : ¬ fence.toList <:+: body) :
    block? (fence ++ "json").toList
        (xs ++ (fence.toList ++ (inside ("json".toList ++ more) body ++ (fence.toList ++ rest)))) =
      some (inside more body) := by
  have hopening : (fence ++ "json").toList ≠ [] := by decide +kernel
  have hclear : Clear (fence ++ "json").toList xs ((fence ++ "json").toList ++
      (inside more body ++ (fence.toList ++ rest))) := by
    rw [toList_fence_json, List.append_assoc, ← toList_fence_json]
    exact (hxs _).mono fence_prefix_json
  have hsplit := block?_of_clear hopening hclear (clear_inside hinfo hbody _)
  rw [inside, List.append_assoc, List.append_assoc, ← List.append_assoc fence.toList,
    ← toList_fence_json, ← List.append_assoc more]
  exact hsplit

/-- A name that does not start with `json` opens no block of that language, not even if the remark
behind the closing fence starts with it. -/
theorem block?_json_eq_none (hxs : ∀ ys, Clear fence.toList xs (fence.toList ++ ys))
    (hinfo : ∀ c ∈ info, c.isAlphanum = true) (hbody : ¬ fence.toList <:+: body)
    (hrest : ¬ fence.toList <:+: rest) (hjson : ¬ "json".toList <+: info) :
    block? (fence ++ "json").toList
        (xs ++ (fence.toList ++ (inside info body ++ (fence.toList ++ rest)))) = none := by
  -- the mark does not begin in the opening fence: the block has another name
  have hopening : Clear (fence ++ "json").toList fence.toList
      (inside info body ++ (fence.toList ++ rest)) := by
    intro tail htail _ hprefix
    obtain ⟨c, cs, hinside, hc⟩ := head?_inside body hinfo
    have hfence : fence.toList <+: tail := by
      rw [hinside] at hprefix
      exact Text.prefix_of_prefix_append_cons (not_mem_fence hc) (fence_prefix_json.trans hprefix)
    rw [← hfence.eq_of_length_le htail.length_le, toList_fence_json,
      List.prefix_append_right_inj, inside, List.append_assoc] at hprefix
    exact hjson (Text.prefix_of_prefix_append_cons (by decide +kernel) hprefix)
  rw [block?, Text.cut_append ((hxs _).mono fence_prefix_json), Text.cut_append hopening,
    Text.cut_append ((clear_inside hinfo hbody _).mono fence_prefix_json)]
  cases hcut : Text.cut (fence ++ "json").toList (fence.toList ++ rest) with
  | none => rfl
  | some parts =>
      -- the mark begins in the closing fence, and what is left is a part of the remark
      have hsplit := Text.cut_eq_some (show _ = some (parts.1, parts.2) from hcut)
      have hsuffix : parts.2 <:+ rest := by
        have hafter : parts.2 <:+ fence.toList ++ rest := by
          rw [hsplit, ← List.append_assoc]
          exact List.suffix_append _ _
        refine List.suffix_of_suffix_length_le hafter (List.suffix_append _ rest) ?_
        have hlength := congrArg List.length hsplit
        rw [toList_fence_json] at hlength
        simp only [List.length_append] at hlength
        omega
      have hnone := Text.cut_eq_none fun h => hrest (h.trans hsuffix.isInfix)
      show (Text.cut fence.toList parts.2).bind _ = none
      rw [hnone]
      rfl

/-! ### What is extracted -/

/-- A part of an answer: prose, a fence with the name of a language, a line with a text, a fence
and a remark. -/
structure Fenced (prose info body rest : String) : Prop where
  /-- The prose holds no fence. -/
  prose_free : ¬ fence.toList <:+: prose.toList
  prose_last : prose.toList.getLast? ≠ some '`'
  /-- The prose does not start a JSON text. -/
  prose_opens : opensJson (Text.trimChars prose.toList) = false
  info_isAlphanum : ∀ c ∈ info.toList, c.isAlphanum = true
  body_free : ¬ fence.toList <:+: body.toList
  /-- The text is an object or an array, as far as its first character tells. -/
  body_opens : opensJson (Text.trimChars body.toList) = true
  rest_free : ¬ fence.toList <:+: rest.toList

instance (prose info body rest : String) : Decidable (Fenced prose info body rest) :=
  decidable_of_iff
    (¬ fence.toList <:+: prose.toList ∧ prose.toList.getLast? ≠ some '`' ∧
      opensJson (Text.trimChars prose.toList) = false ∧
      info.toList.all Char.isAlphanum = true ∧ ¬ fence.toList <:+: body.toList ∧
      opensJson (Text.trimChars body.toList) = true ∧ ¬ fence.toList <:+: rest.toList)
    ⟨fun ⟨hfree, hlast, hopens, hinfo, hbody, htext, hrest⟩ =>
        ⟨hfree, hlast, hopens, List.all_eq_true.1 hinfo, hbody, htext, hrest⟩,
      fun h => ⟨h.prose_free, h.prose_last, h.prose_opens, List.all_eq_true.2 h.info_isAlphanum,
        h.body_free, h.body_opens, h.rest_free⟩⟩

/-- The answer made of these parts. -/
def fencedAnswer (prose info body rest : String) : String :=
  prose ++ "```" ++ info ++ "\n" ++ body ++ "\n```" ++ rest

theorem toList_fencedAnswer (prose info body rest : String) :
    (fencedAnswer prose info body rest).toList =
      prose.toList ++ ((fence.toList ++ (inside info.toList body.toList ++ fence.toList)) ++
        rest.toList) := by
  simp [fencedAnswer, inside, toList_fence]

/-- What is left of the name of a language behind the mark `json`. -/
def leftover (info : List Char) : List Char :=
  if "json".toList <+: info then info.drop 4 else []

theorem opensJson_append_fence {prose : List Char}
    (h : opensJson (Text.trimChars prose) = false) :
    opensJson (prose.dropWhile Text.isBlank ++ (fence.toList ++ ys)) = false := by
  rw [opensJson, Text.head?_trimChars] at h
  cases hprose : prose.dropWhile Text.isBlank with
  | nil => rw [toList_fence]; rfl
  | cons c cs => rwa [hprose] at h

/-- The text of a block, with what is left of its name. -/
theorem nonBlank?_inside {more : List Char} (hbody : opensJson (Text.trimChars body) = true) :
    nonBlank? (inside more body) = some (Text.trimChars (more ++ '\n' :: body)) := by
  have hinside : inside more body = (more ++ '\n' :: body) ++ ['\n'] := by
    rw [inside, List.append_assoc, List.cons_append]
  have hne : Text.trimChars (more ++ '\n' :: body) ≠ [] := by
    intro hnil
    rw [Text.trimChars_eq_nil_iff, List.all_append, List.all_cons, Bool.and_eq_true,
      Bool.and_eq_true] at hnil
    rw [Text.trimChars_eq_nil_iff.2 hnil.2.2] at hbody
    cases hbody
  rw [nonBlank?, hinside, Text.trimChars_append_blanks
    (List.forall_mem_singleton.2 rfl)]
  exact if_neg (mt List.isEmpty_iff.1 hne)

/-- **What is extracted is what stands behind the opening mark**, which may be a part of the name
of the language. -/
theorem extractChars?_fencedAnswer {prose info body rest : String}
    (h : Fenced prose info body rest) :
    extractChars? (fencedAnswer prose info body rest).toList =
      some (Text.trimChars (leftover info.toList ++ '\n' :: body.toList)) := by
  have htext : Text.trimChars (fencedAnswer prose info body rest).toList =
      prose.toList.dropWhile Text.isBlank ++ (fence.toList ++ (inside info.toList body.toList ++
        (fence.toList ++ Text.dropTailWhile Text.isBlank rest.toList))) := by
    rw [toList_fencedAnswer, Text.trimChars_around, List.append_assoc, List.append_assoc]
    · exact List.append_ne_nil_of_left_ne_nil fence_ne_nil _
    · exact ends_fence_append _
    · rw [List.reverse_append, List.reverse_append, toList_fence, List.reverse_replicate,
        ← toList_fence, List.append_assoc]
      exact ends_fence_append _
  have hprose : ∀ ys, Clear fence.toList (prose.toList.dropWhile Text.isBlank)
      (fence.toList ++ ys) := fun ys => clear_prose h.prose_free h.prose_last _
  have hrest : ¬ fence.toList <:+: Text.dropTailWhile Text.isBlank rest.toList := fun hfound =>
    h.rest_free (hfound.trans (Text.dropTailWhile_prefix _ _).isInfix)
  rw [extractChars?, htext, opensJson_append_fence h.prose_opens, if_neg Bool.false_ne_true]
  by_cases hjson : "json".toList <+: info.toList
  · obtain ⟨more, hinfo⟩ := hjson
    have hmore : ∀ c ∈ more, c.isAlphanum = true := fun c hc =>
      h.info_isAlphanum c (hinfo ▸ List.mem_append_right _ hc)
    rw [← hinfo, block?_json hprose hmore h.body_free]
    show nonBlank? (inside more body.toList) = _
    rw [nonBlank?_inside h.body_opens, leftover, if_pos (List.prefix_append _ _)]
    rfl
  · rw [block?_json_eq_none hprose h.info_isAlphanum h.body_free hrest hjson,
      block?_of_clear fence_ne_nil (hprose _) (clear_inside h.info_isAlphanum h.body_free _)]
    show nonBlank? ((inside info.toList body.toList).dropWhile Char.isAlphanum) = _
    have hdrop : (inside info.toList body.toList).dropWhile Char.isAlphanum =
        inside [] body.toList :=
      Span.dropWhile_append h.info_isAlphanum (by rintro c ⟨⟩; rfl)
    rw [hdrop, nonBlank?_inside h.body_opens, leftover, if_neg hjson]

/-! ### Which names leave nothing -/

theorem leftover_eq_nil_iff : leftover info = [] ↔
    ("json".toList <+: info → info = "json".toList) := by
  by_cases hjson : "json".toList <+: info
  · obtain ⟨more, rfl⟩ := hjson
    rw [leftover, if_pos (List.prefix_append _ _)]
    show more = [] ↔ _
    simp
  · rw [leftover, if_neg hjson]
    exact iff_of_true rfl fun h => absurd h hjson

theorem isAlphanum_of_mem_leftover (hinfo : ∀ c ∈ info, c.isAlphanum = true) :
    ∀ c ∈ leftover info, c.isAlphanum = true := by
  intro c hc
  rw [leftover] at hc
  split at hc
  · exact hinfo c (List.mem_of_mem_drop hc)
  · cases hc

/-- What is left of a name in front of a text is not trimmed off. -/
theorem trimChars_append_eq_iff {more : List Char} (hmore : ∀ c ∈ more, c.isAlphanum = true)
    (hbody : opensJson (Text.trimChars body) = true) :
    Text.trimChars (more ++ '\n' :: body) = Text.trimChars body ↔ more = [] := by
  constructor
  · intro htrim
    cases more with
    | nil => rfl
    | cons c more =>
        have hc := hmore c (List.mem_cons_self ..)
        have hhead : (Text.trimChars body).head? = some c := by
          rw [← htrim, Text.head?_trimChars, List.cons_append,
            List.dropWhile_cons_of_neg (by simp [Identifier.isBlank_of_isAlphanum hc])]
          rfl
        -- a letter or a digit does not open a JSON text
        rw [opensJson, hhead, Option.any_some, Bool.or_eq_true, beq_iff_eq, beq_iff_eq] at hbody
        rcases hbody with rfl | rfl <;> exact absurd hc (by decide)
  · rintro rfl
    show Text.trimChars (['\n'] ++ body) = Text.trimChars body
    exact Text.trimChars_blanks_append (List.forall_mem_singleton.2 rfl)

theorem extract?_fencedAnswer {prose info body rest : String} (h : Fenced prose info body rest) :
    extract? (fencedAnswer prose info body rest) =
      some (String.ofList (Text.trimChars (leftover info.toList ++ '\n' :: body.toList))) := by
  rw [extract?, extractChars?_fencedAnswer h, Option.map_some]

/-- **A fenced text is recovered unless the name of its language goes on behind `json`**; then the
rest of the name is extracted as well. -/
theorem extract?_fenced {prose info body rest : String} (h : Fenced prose info body rest) :
    (extract? (fencedAnswer prose info body rest) = some (Text.trim body) ↔
        ("json".toList <+: info.toList → info = "json")) ∧
      ∀ more, info = "json" ++ more →
        extract? (fencedAnswer prose info body rest) =
          some (Text.trim (more ++ "\n" ++ body)) := by
  rw [extract?_fencedAnswer h]
  constructor
  · have hname : info = "json" ↔ info.toList = "json".toList := String.toList_inj.symm
    rw [Option.some_inj, Text.trim, String.ofList_inj, hname, ← leftover_eq_nil_iff]
    exact trimChars_append_eq_iff (isAlphanum_of_mem_leftover h.info_isAlphanum) h.body_opens
  · rintro more rfl
    have hmore : leftover ("json" ++ more).toList = more.toList := by
      rw [String.toList_append, leftover, if_pos (List.prefix_append _ _)]
      rfl
    rw [hmore, Text.trim, String.toList_append, String.toList_append, List.append_assoc]
    rfl

/-- `extract?_fenced` at work: the name `JSON` leaves nothing, although the remark starts with
`json`, and `json5` leaves its digit. -/
theorem extract?_fenced_names :
    Fenced "Sure: `\x7b\x7d` as \n" "JSON" " \x7b\"a\": 1\x7d" "json it is" ∧
      extract? "Sure: `\x7b\x7d` as \n```JSON\n \x7b\"a\": 1\x7d\n```json it is" =
        some "\x7b\"a\": 1\x7d" ∧
      Fenced "" "json5" "[1]" "" ∧ extract? "```json5\n[1]\n```" = some "5\n[1]" := by
  have hupper : Fenced "Sure: `\x7b\x7d` as \n" "JSON" " \x7b\"a\": 1\x7d" "json it is" := by
    decide +kernel
  have hversion : Fenced "" "json5" "[1]" "" := by decide +kernel
  refine ⟨hupper, ?_, hversion, ?_⟩
  · exact (extract?_fenced hupper).1.2 (by decide +kernel)
  · exact (extract?_fenced hversion).2 "5" (by decide +kernel)

/-- **Not every fenced text is recovered.** -/
theorem not_forall_fenced_recovered : ¬ ∀ prose info body rest : String,
    Fenced prose info body rest →
      extract? (fencedAnswer prose info body rest) = some (Text.trim body) := by
  intro hall
  have hfenced : Fenced "" "jsonc" "\x7b\"a\": 1\x7d" "" := by decide +kernel
  have hextract := hall _ _ _ _ hfenced
  exact absurd hextract (by decide +kernel)

end Chat
end CodeDiagram
