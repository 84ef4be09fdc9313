/-
# A text between braces inside an answer

Section 4.1 of `SPEC_FULL.md`: the outermost span between braces.

An answer may hold a JSON text without a fence around it, or behind a fence
that is never closed.  Where there is no block, what is extracted reaches from
the first `{` to the last `}` (`embedded?_eq_some_iff`), so a text between
braces is recovered from each of these answers:

| answer | what may stand around the text |
| --- | --- |
| the text with blanks around | blanks; the text may hold anything, fences too |
| the text in prose | no fence, no `{` before and no `}` behind |
| the text behind an opening fence | the same, and no other fence |

Whatever the answer, what is extracted is a trimmed part of it
(`excerpt_of_extractChars?`).
-/

import CodeDiagram.Proofs.Chat.Fence

namespace CodeDiagram
namespace Chat

open Text (Clear)

variable {opening text inner before after xs ys : List Char}

/-! ### What the strategies give -/

/-- Starts with `{` and ends with `}`. -/
structure Braced (text : List Char) : Prop where
  opens : text.head? = some '{'
  closes : text.getLast? = some '}'

namespace Braced

variable (h : Braced inner)

include h

theorem ne_nil : inner ≠ [] := by
  rintro rfl
  cases h.opens

theorem ends : Span.Ends Text.isBlank inner := Span.ends_of_head? h.opens rfl

theorem ends_reverse : Span.Ends Text.isBlank inner.reverse :=
  Span.ends_of_head? (List.head?_reverse.trans h.closes) rfl

theorem trimChars : Text.trimChars inner = inner := Text.trimChars_of_ends h.ends h.ends_reverse

end Braced

/-- **From the first `{` to the last `}`.** -/
theorem embedded?_eq_some_iff : embedded? text = some inner ↔
    ∃ before after, text = before ++ (inner ++ after) ∧ '{' ∉ before ∧ '}' ∉ after ∧
      Braced inner := by
  constructor
  · intro h
    simp only [embedded?] at h
    split_ifs at h with hempty
    have hinner := Option.some.inj h
    rw [hinner, List.isEmpty_iff] at hempty
    obtain ⟨after, hrest, hafter, hclose⟩ := Text.dropTailWhile_ne_eq_iff.1 hinner
    obtain ⟨before, htext, hbefore, hopen⟩ := Span.dropWhile_ne_eq_iff.1 hrest
    obtain ⟨c, cs, rfl⟩ := List.exists_cons_of_ne_nil hempty
    have hlast := List.getLast?_eq_some_getLast hempty
    exact ⟨before, after, htext, hbefore, hafter, congrArg some (hopen c rfl),
      hlast.trans (congrArg some (hclose _ hlast))⟩
  · rintro ⟨before, after, rfl, hbefore, hafter, hbraced⟩
    have hdrop : (before ++ (inner ++ after)).dropWhile (· != '{') = inner ++ after := by
      refine Span.dropWhile_ne_eq_iff.2 ⟨before, rfl, hbefore, fun c hc => ?_⟩
      rw [List.head?_append, hbraced.opens] at hc
      exact (Option.some.inj hc).symm
    have htail : Text.dropTailWhile (· != '}') (inner ++ after) = inner :=
      Text.dropTailWhile_ne_eq_iff.2 ⟨after, rfl, hafter, fun c hc =>
        Option.some.inj (hc.symm.trans hbraced.closes)⟩
    simp only [embedded?]
    rw [hdrop, htail, if_neg (mt List.isEmpty_iff.1 hbraced.ne_nil)]

/-- A block is a part of the text. -/
theorem infix_of_block? (h : block? opening text = some inner) : inner <:+: text := by
  obtain ⟨⟨before, rest⟩, hopening, h⟩ := Option.bind_eq_some_iff.1 h
  obtain ⟨⟨inner', after⟩, hclosing, h⟩ := Option.bind_eq_some_iff.1 h
  obtain rfl : inner' = inner := Option.some.inj h
  have hrest : rest = inner' ++ (fence.toList ++ after) := Text.cut_eq_some hclosing
  have hinner : inner' <:+: rest := hrest ▸ (List.prefix_append _ _).isInfix
  have hsuffix : rest <:+ text := by
    rw [Text.cut_eq_some hopening, ← List.append_assoc]
    exact List.suffix_append _ _
  exact hinner.trans hsuffix.isInfix

/-- Is a part of the text, not empty and without blanks at its ends. -/
structure Excerpt (text part : List Char) : Prop where
  ne_nil : part ≠ []
  infix_text : part <:+: text
  trimmed : Text.trimChars part = part

theorem Excerpt.mono {part : List Char} (h : Excerpt xs part) (hxs : xs <:+: text) :
    Excerpt text part := ⟨h.ne_nil, h.infix_text.trans hxs, h.trimmed⟩

theorem excerpt_trimChars (h : Text.trimChars text ≠ []) : Excerpt text (Text.trimChars text) :=
  ⟨h, Text.trimChars_infix text, Text.trimChars_trimChars text⟩

theorem excerpt_of_nonBlank? (h : nonBlank? text = some inner) : Excerpt text inner := by
  simp only [nonBlank?] at h
  split_ifs at h with hempty
  rw [← Option.some.inj h]
  exact excerpt_trimChars (mt List.isEmpty_iff.2 hempty)

theorem excerpt_of_embedded? (h : embedded? text = some inner) : Excerpt text inner := by
  obtain ⟨before, after, rfl, -, -, hbraced⟩ := embedded?_eq_some_iff.1 h
  exact ⟨hbraced.ne_nil, ⟨before, after, List.append_assoc _ _ _⟩, hbraced.trimChars⟩

/-- **What is extracted is a trimmed part of the answer.** -/
theorem excerpt_of_extractChars? (h : extractChars? text = some inner) : Excerpt text inner := by
  simp only [extractChars?] at h
  split_ifs at h with hopens
  · rw [← Option.some.inj h]
    refine excerpt_trimChars fun hnil => ?_
    rw [hnil] at hopens
    cases hopens
  · refine Excerpt.mono ?_ (Text.trimChars_infix text)
    split at h
    · next hblock => exact (excerpt_of_nonBlank? h).mono (infix_of_block? hblock)
    · split at h
      · next block hblock =>
        have hname := List.dropWhile_suffix (l := block) Char.isAlphanum
        exact ((excerpt_of_nonBlank? h).mono hname.isInfix).mono (infix_of_block? hblock)
      · exact excerpt_of_embedded? h

/-! ### Answers without a block -/

/-- A text without a fence holds no block. -/
theorem block?_eq_none (hopening : fence.toList <+: opening) (h : ¬ fence.toList <:+: text) :
    block? opening text = none := by
  rw [block?, Text.cut_eq_none fun hfound => h (hopening.isInfix.trans hfound)]
  rfl

/-- A block whose fence is never closed is none. -/
theorem block?_unclosed (hopening : opening ≠ []) (hxs : Clear opening xs (opening ++ ys))
    (hys : Text.cut fence.toList ys = none) : block? opening (xs ++ (opening ++ ys)) = none := by
  rw [block?, Text.cut_append_mark hopening hxs]
  show (Text.cut fence.toList ys).bind _ = none
  rw [hys]
  rfl

/-- Trimming takes no braces. -/
theorem embedded?_trimChars (text : List Char) :
    embedded? (Text.trimChars text) = embedded? text := by
  have hblank : ∀ c : Char, Text.isBlank c = true → c ≠ '{' ∧ c ≠ '}' := by
    intro c hc
    constructor <;> rintro rfl <;> cases hc
  ext1 inner
  rw [embedded?_eq_some_iff, embedded?_eq_some_iff]
  constructor
  · rintro ⟨before, after, htrim, hbefore, hafter, hbraced⟩
    obtain ⟨front, back, htext, hfront, hback⟩ := Text.exists_blanks_around text
    refine ⟨front ++ before, after ++ back, ?_, fun hmem => ?_, fun hmem => ?_, hbraced⟩
    · rw [htext, htrim, List.append_assoc, List.append_assoc, List.append_assoc]
    · rcases List.mem_append.1 hmem with hmem | hmem
      · exact (hblank _ (hfront _ hmem)).1 rfl
      · exact hbefore hmem
    · rcases List.mem_append.1 hmem with hmem | hmem
      · exact hafter hmem
      · exact (hblank _ (hback _ hmem)).2 rfl
  · rintro ⟨before, after, rfl, hbefore, hafter, hbraced⟩
    refine ⟨_, _, Text.trimChars_around hbraced.ne_nil hbraced.ends hbraced.ends_reverse,
      fun hmem => hbefore ?_, fun hmem => hafter ?_, hbraced⟩
    · exact (List.dropWhile_suffix _).subset hmem
    · exact (Text.dropTailWhile_prefix _ _).subset hmem

/-- **Without a fence, what stands between the braces is extracted.** -/
theorem extractChars?_of_unfenced (hfence : ¬ fence.toList <:+: text)
    (hopens : opensJson (Text.trimChars text) = false) :
    extractChars? text = embedded? text := by
  have hfree : ¬ fence.toList <:+: Text.trimChars text := fun h =>
    hfence (h.trans (Text.trimChars_infix text))
  rw [extractChars?, hopens, if_neg Bool.false_ne_true, block?_eq_none fence_prefix_json hfree,
    block?_eq_none List.prefix_rfl hfree]
  exact embedded?_trimChars text

/-- Behind a fence that is never closed there is no block, whether of the language `json` or of any
other. -/
theorem block?_of_unclosed {prose tail : List Char}
    (hprose : ∀ ys, Clear fence.toList prose ys) (htail : ¬ fence.toList <:+: tail) :
    block? (fence ++ "json").toList (prose ++ (fence.toList ++ ("json\n".toList ++ tail))) = none ∧
      block? fence.toList (prose ++ (fence.toList ++ ("json\n".toList ++ tail))) = none := by
  have hcut : ∀ xs, ¬ fence.toList <:+: xs → xs.getLast? ≠ some '`' →
      Text.cut fence.toList (xs ++ tail) = none := by
    intro xs hxs hlast
    rw [Text.cut_append (clear_fence hxs (.inl hlast)), Text.cut_eq_none htail]
    rfl
  constructor
  · have hname : fence.toList ++ ("json\n".toList ++ tail) =
        (fence ++ "json").toList ++ (['\n'] ++ tail) := by
      rw [toList_fence_json, List.append_assoc]
      rfl
    rw [hname]
    refine block?_unclosed (by decide +kernel) ?_ (hcut _ (by decide +kernel) (by decide))
    rw [toList_fence_json, List.append_assoc, ← toList_fence_json]
    exact (hprose _).mono fence_prefix_json
  · exact block?_unclosed fence_ne_nil (hprose _) (hcut _ (by decide +kernel) (by decide))

/-- **Behind a fence that is never closed, what stands between the braces is extracted.** -/
theorem extractChars?_of_unclosed {prose body rest : List Char}
    (hprose : ¬ fence.toList <:+: prose) (hlast : prose.getLast? ≠ some '`')
    (hopens : opensJson (Text.trimChars prose) = false) (hbody : Braced body)
    (hfree : ¬ fence.toList <:+: body ++ rest) :
    extractChars? (prose ++ (fence.toList ++ ("json\n".toList ++ body) ++ rest)) =
      embedded? (prose ++ (fence.toList ++ ("json\n".toList ++ body) ++ rest)) := by
  have htrim : Text.trimChars (prose ++ (fence.toList ++ ("json\n".toList ++ body) ++ rest)) =
      prose.dropWhile Text.isBlank ++ (fence.toList ++ ("json\n".toList ++
        (body ++ Text.dropTailWhile Text.isBlank rest))) := by
    rw [Text.trimChars_around (List.append_ne_nil_of_left_ne_nil fence_ne_nil _)
      (ends_fence_append _), List.append_assoc, List.append_assoc]
    rw [List.reverse_append, List.reverse_append, List.append_assoc]
    exact hbody.ends_reverse.append_of_ne_nil (mt List.reverse_eq_nil_iff.1 hbody.ne_nil) _
  have htail : ¬ fence.toList <:+: body ++ Text.dropTailWhile Text.isBlank rest := fun h =>
    hfree (h.trans ((List.prefix_append_right_inj body).2
      (Text.dropTailWhile_prefix _ rest)).isInfix)
  obtain ⟨hjson, hany⟩ := block?_of_unclosed (clear_prose hprose hlast) htail
  rw [← embedded?_trimChars, extractChars?, htrim, opensJson_append_fence hopens,
    if_neg Bool.false_ne_true, hjson, hany]

/-! ### Which texts are recovered -/

theorem braced_iff : Braced text ↔ ∃ mid, text = '{' :: (mid ++ ['}']) := by
  constructor
  · rintro ⟨hopen, hclose⟩
    obtain ⟨tail, rfl⟩ := List.head?_eq_some_iff.1 hopen
    obtain ⟨front, hfront⟩ := List.getLast?_eq_some_iff.1 hclose
    cases front with
    | nil => cases hfront
    | cons c mid =>
        obtain ⟨rfl, rfl⟩ := List.cons.inj hfront
        exact ⟨mid, rfl⟩
  · rintro ⟨mid, rfl⟩
    exact ⟨rfl, List.getLast?_eq_some_iff.2 ⟨'{' :: mid, rfl⟩⟩

/-- The first `{` of the text stands before its last `}`. -/
def OpensBeforeCloses (text : List Char) : Prop :=
  ∃ before behind front back, text = before ++ '{' :: behind ∧ '{' ∉ before ∧
    text = front ++ '}' :: back ∧ '}' ∉ back ∧ before.length < front.length

/-- **Something stands between the braces if the first `{` stands before the last `}`.** -/
theorem isSome_embedded?_iff : (embedded? text).isSome = true ↔ OpensBeforeCloses text := by
  rw [Option.isSome_iff_exists]
  constructor
  · rintro ⟨inner, h⟩
    obtain ⟨before, after, rfl, hbefore, hafter, hbraced⟩ := embedded?_eq_some_iff.1 h
    obtain ⟨mid, rfl⟩ := braced_iff.1 hbraced
    refine ⟨before, mid ++ '}' :: after, before ++ '{' :: mid, after, ?_, hbefore, ?_, hafter, ?_⟩
    · simp
    · simp
    · simp
  · rintro ⟨before, behind, front, back, htext, hbefore, htext', hback, hlength⟩
    rcases List.append_eq_append_iff.1 (htext.symm.trans htext') with
      ⟨part, rfl, hpart⟩ | ⟨part, rfl, -⟩
    · cases part with
      | nil => exact absurd hlength (by simp)
      | cons c mid =>
          obtain ⟨rfl, rfl⟩ := List.cons.inj hpart
          have hbraced : Braced ('{' :: (mid ++ ['}'])) := braced_iff.2 ⟨mid, rfl⟩
          exact ⟨_, embedded?_eq_some_iff.2
            ⟨before, back, by simp [htext], hbefore, hback, hbraced⟩⟩
    · rw [List.length_append] at hlength
      omega

/-- What may stand around a text between braces: prose that does not start a JSON text and has no
`{`, and a remark without `}`. -/
structure Around (prose rest : String) : Prop where
  prose_free : '{' ∉ prose.toList
  prose_head : (Text.trim prose).toList.head? ≠ some '['
  rest_free : '}' ∉ rest.toList

theorem Around.opensJson {prose rest : String} (h : Around prose rest) :
    opensJson (Text.trimChars prose.toList) = false := by
  have hhead := h.prose_head
  rw [Text.trim, String.toList_ofList] at hhead
  rw [Chat.opensJson]
  cases htrim : Text.trimChars prose.toList with
  | nil => rfl
  | cons c cs =>
      rw [htrim] at hhead
      have hc : c ∈ prose.toList :=
        (Text.trimChars_infix _).subset (htrim ▸ List.mem_cons_self ..)
      rw [List.head?_cons, Option.any_some, Bool.or_eq_false_iff, beq_eq_false_iff_ne,
        beq_eq_false_iff_ne]
      exact ⟨fun hopen => h.prose_free (hopen ▸ hc), fun hopen => hhead (congrArg some hopen)⟩

theorem extract?_eq_some_iff {t s : String} :
    extract? t = some s ↔ extractChars? t.toList = some s.toList := by
  rw [extract?, Option.map_eq_some_iff]
  constructor
  · rintro ⟨inner, hinner, rfl⟩
    rw [hinner, String.toList_ofList]
  · exact fun h => ⟨_, h, String.ofList_toList⟩

section Recovery

variable {t s front prose body rest back : String}

theorem excerpt_of_extract? (h : extract? t = some s) :
    s ≠ "" ∧ s.toList <:+: t.toList ∧ Text.trim s = s := by
  obtain ⟨hne, hinfix, htrimmed⟩ := excerpt_of_extractChars? (extract?_eq_some_iff.1 h)
  refine ⟨mt String.toList_eq_nil_iff.2 hne, hinfix, ?_⟩
  rw [Text.trim, htrimmed, String.ofList_toList]

/-- Blanks around a text between braces are left out. -/
theorem extract?_of_blanks (hbody : Braced body.toList) (hfront : Text.isBlankText front = true)
    (hback : Text.isBlankText back = true) : extract? (front ++ body ++ back) = some body := by
  have htrim : Text.trimChars (front ++ body ++ back).toList = body.toList := by
    rw [String.toList_append, String.toList_append,
      Text.trimChars_append_blanks (List.all_eq_true.1 hback),
      Text.trimChars_blanks_append (List.all_eq_true.1 hfront), hbody.trimChars]
  rw [extract?_eq_some_iff, extractChars?, htrim, opensJson, hbody.opens]
  rfl

/-- So is prose, if the answer holds no fence. -/
theorem extract?_of_prose (hbody : Braced body.toList) (haround : Around prose rest)
    (hne : Text.trim prose ≠ "") (hfence : ¬ fence.toList <:+: (prose ++ body ++ rest).toList) :
    extract? (prose ++ body ++ rest) = some body := by
  have hopens : opensJson (Text.trimChars (prose ++ body ++ rest).toList) = false := by
    have hnil : Text.trimChars prose.toList ≠ [] := by
      rwa [Ne, ← String.toList_eq_nil_iff, Text.trim, String.toList_ofList] at hne
    rw [String.toList_append, String.toList_append, List.append_assoc, opensJson,
      Text.head?_trimChars_append hnil]
    exact haround.opensJson
  rw [extract?_eq_some_iff, extractChars?_of_unfenced hfence hopens, embedded?_eq_some_iff]
  refine ⟨prose.toList, rest.toList, ?_, haround.prose_free, haround.rest_free, hbody⟩
  rw [String.toList_append, String.toList_append, List.append_assoc]

/-- So is a fence that is never closed. -/
theorem extract?_of_unclosed (hbody : Braced body.toList) (haround : Around prose rest)
    (hlast : prose.toList.getLast? ≠ some '`') (hprose : ¬ fence.toList <:+: prose.toList)
    (hfence : ¬ fence.toList <:+: (body ++ rest).toList) :
    extract? (prose ++ "```json\n" ++ body ++ rest) = some body := by
  have htext : (prose ++ "```json\n" ++ body ++ rest).toList =
      prose.toList ++ (fence.toList ++ ("json\n".toList ++ body.toList) ++ rest.toList) := by
    simp [toList_fence]
  have hname : '{' ∉ fence.toList ++ "json\n".toList := by decide +kernel
  rw [String.toList_append] at hfence
  rw [extract?_eq_some_iff, htext,
    extractChars?_of_unclosed hprose hlast haround.opensJson hbody hfence, embedded?_eq_some_iff]
  refine ⟨prose.toList ++ (fence.toList ++ "json\n".toList), rest.toList, ?_, fun hmem => ?_,
    haround.rest_free, hbody⟩
  · simp only [List.append_assoc]
  · exact (List.mem_append.1 hmem).elim haround.prose_free hname

theorem isSome_extract?_iff (hfence : ¬ fence.toList <:+: t.toList)
    (hopens : opensJson (Text.trimChars t.toList) = false) :
    (extract? t).isSome = true ↔ OpensBeforeCloses t.toList := by
  rw [extract?, Option.isSome_map, extractChars?_of_unfenced hfence hopens, isSome_embedded?_iff]

end Recovery

/-- **A text between braces is recovered, and nothing is made up.**

* What is extracted is a part of the answer, not empty and without blanks at its ends.
* A text between braces is recovered from blanks, whatever it holds; from prose without a fence; and
  from behind a fence that is never closed, if that is the only one.
* From an answer without a fence that does not start a JSON text, something is extracted exactly if
  its first `{` stands before its last `}`. -/
theorem extract?_of_braces :
    (∀ t s, extract? t = some s → s ≠ "" ∧ s.toList <:+: t.toList ∧ Text.trim s = s) ∧
    (∀ front body back : String, Braced body.toList → Text.isBlankText front = true →
      Text.isBlankText back = true → extract? (front ++ body ++ back) = some body) ∧
    (∀ prose body rest : String, Braced body.toList → Around prose rest → Text.trim prose ≠ "" →
      ¬ fence.toList <:+: (prose ++ body ++ rest).toList →
        extract? (prose ++ body ++ rest) = some body) ∧
    (∀ prose body rest : String, Braced body.toList → Around prose rest →
      prose.toList.getLast? ≠ some '`' → ¬ fence.toList <:+: prose.toList →
      ¬ fence.toList <:+: (body ++ rest).toList →
        extract? (prose ++ "```json\n" ++ body ++ rest) = some body) ∧
    ∀ t : String, ¬ fence.toList <:+: t.toList → opensJson (Text.trimChars t.toList) = false →
      ((extract? t).isSome = true ↔ OpensBeforeCloses t.toList) :=
  ⟨fun _ _ h => excerpt_of_extract? h,
    fun _ _ _ hbody hfront hback => extract?_of_blanks hbody hfront hback,
    fun _ _ _ hbody haround hne hfence => extract?_of_prose hbody haround hne hfence,
    fun _ _ _ hbody haround hlast hprose hfence =>
      extract?_of_unclosed hbody haround hlast hprose hfence,
    fun _ hfence hopens => isSome_extract?_iff hfence hopens⟩

/-- `extract?_of_braces` at work on a text with a fence inside, on prose with a stray `}`, on an
answer cut off before its closing fence, and on braces in the wrong and the right order. -/
theorem extract?_of_braces_answers :
    extract? "\n\x7b\"a\": \"```json\"\x7d\t" = some "\x7b\"a\": \"```json\"\x7d" ∧
      extract? "So \x7d: \x7b\"a\": 1\x7d\x7d, \x7b?" = some "\x7b\"a\": 1\x7d\x7d" ∧
      extract? "Plan:\n```json\n\x7b\"a\": \x7b\x7d\x7d\n``" = some "\x7b\"a\": \x7b\x7d\x7d" ∧
      (extract? "\x7d backwards \x7b forwards \x7d").isSome = true ∧
      Text.trim "\x7b\"a\": 1\x7d\x7d" = "\x7b\"a\": 1\x7d\x7d" := by
  obtain ⟨hexcerpt, hblanks, hprose, hunclosed, horder⟩ := extract?_of_braces
  have hinline := hprose "So \x7d: " "\x7b\"a\": 1\x7d\x7d" ", \x7b?" ⟨rfl, rfl⟩
    ⟨by decide, by decide, by decide⟩ (by decide) (by decide +kernel)
  refine ⟨hblanks "\n" "\x7b\"a\": \"```json\"\x7d" "\t" ⟨rfl, rfl⟩ rfl rfl, hinline,
    hunclosed "Plan:\n" "\x7b\"a\": \x7b\x7d\x7d" "\n``" ⟨rfl, rfl⟩
      ⟨by decide, by decide, by decide⟩ (by decide) (by decide +kernel) (by decide +kernel),
    ?_, (hexcerpt _ _ hinline).2.2⟩
  refine (horder "\x7d backwards \x7b forwards \x7d" (by decide +kernel) (by decide)).2 ?_
  exact ⟨"\x7d backwards ".toList, " forwards \x7d".toList, "\x7d backwards \x7b forwards ".toList,
    [], by decide, by decide, by decide, by decide, by decide⟩

end Chat
end CodeDiagram
