/-
# How an endpoint may be spelled

An endpoint names the service by its root, and may be spelled with slashes
behind the root, or as the address of the calls, with slashes before and behind
the path:

| endpoint | base address |
| --- | --- |
| root, slashes | root |
| root, slashes, `/chat/completions`, slashes | root, slashes before the path |

The slashes that are left on the base address are taken off when a call is
made, so calls go to the same address in every spelling.
-/

import CodeDiagram.Proofs.Chat.Request
import CodeDiagram.Proofs.Text.Search
import CodeDiagram.Proofs.Text.Trim
import CodeDiagram.Settings.Merge

namespace CodeDiagram
namespace Settings

variable {root base : List Char} {endpoint : String} {j k n : ℕ}

/-- So many slashes. -/
def slashes (n : ℕ) : String := String.ofList (List.replicate n '/')

theorem toList_slashes : (slashes n).toList = List.replicate n '/' := String.toList_ofList

/-! ### Slashes -/

/-- **Slashes are taken off the end** of a text that does not end in one itself. -/
theorem withoutSlashes_append_replicate (h : ¬ ['/'] <:+ root) :
    withoutSlashes (root ++ List.replicate n '/') = root := by
  refine Text.dropTailWhile_eq_iff.2 ⟨_, rfl, fun c hc => ?_, fun c hc => ?_⟩
  · exact beq_iff_eq.2 (List.eq_of_mem_replicate hc)
  · refine beq_eq_false_iff_ne.2 ?_
    rintro rfl
    apply h
    rw [← List.reverse_prefix]
    obtain ⟨rest, hrest⟩ := List.head?_eq_some_iff.1 (Option.mem_def.1 hc)
    exact ⟨rest, hrest.symm⟩

theorem getLast?_append_callPath (front : List Char) :
    (front ++ callPath.toList).getLast? = some 's' := by
  have hlast : callPath.toList.getLast? = some 's' := by decide +kernel
  rw [List.getLast?_append, hlast]
  rfl

/-- The path of the calls does not end in a slash. -/
theorem slash_not_suffix_append_callPath (front : List Char) :
    ¬ ['/'] <:+ front ++ callPath.toList := by
  rw [List.singleton_suffix_iff_getLast?_eq_some, getLast?_append_callPath]
  decide

/-- A text with slashes behind it does not end in the path of the calls, unless it does without
them. -/
theorem callPath_not_suffix_append_replicate (h : ¬ callPath.toList <:+ root) :
    ¬ callPath.toList <:+ root ++ List.replicate n '/' := by
  cases n with
  | zero => rwa [List.replicate_zero, List.append_nil]
  | succ n =>
      rintro ⟨front, hfront⟩
      have hlast := congrArg List.getLast? hfront
      rw [getLast?_append_callPath, List.replicate_succ', ← List.append_assoc,
        List.getLast?_concat] at hlast
      exact absurd hlast (by decide)

/-! ### Base addresses -/

/-- The base address is what stands before the path of the calls, however often that is there. -/
theorem baseOf?_eq_some (hbase : base ≠ []) (hpath : ¬ callPath.toList <:+ base)
    (hend : ¬ ['/'] <:+ base ++ (List.replicate n callPath.toList).flatten)
    (hendpoint : endpoint.toList =
      base ++ (List.replicate n callPath.toList).flatten ++ List.replicate k '/') :
    baseOf? endpoint = some (String.ofList base) := by
  have hkept : Text.dropTailMarks callPath.toList (withoutSlashes endpoint.toList) = base := by
    rw [hendpoint, withoutSlashes_append_replicate hend, Text.dropTailMarks_append_copies hpath]
  rw [baseOf?, hkept]
  exact if_neg (mt List.isEmpty_iff.1 hbase)

theorem callUrl_settings {s : Section} (o : Overrides) (hendpoint : s.endpoint = some endpoint)
    (hbase : baseOf? endpoint = some (String.ofList (root ++ List.replicate n '/')))
    (hroot : ¬ ['/'] <:+ root) : (s.settings o).callUrl = String.ofList root ++ callPath := by
  have hbaseUrl : (s.settings o).baseUrl = String.ofList (root ++ List.replicate n '/') := by
    rw [Section.settings, hendpoint, Option.bind_some, hbase]
    rfl
  rw [callUrl, hbaseUrl, String.toList_ofList, withoutSlashes_append_replicate hroot]

/-- A call that is made goes to the address of the settings. -/
theorem url_of_post {client : Chat.Client} {call : Chat.Call} {settings : Settings}
    {post : Chat.Post} (h : call.post client settings = .ok post) :
    post.url = settings.callUrl := by
  rw [(Chat.Call.post_eq_ok_iff.1 h).1]
  rfl

/-- The settings of a file make calls to this address, whatever else is said and whoever sends
them. -/
def CallsTo (s : Section) (url : String) : Prop :=
  ∀ o : Overrides, (s.settings o).callUrl = url ∧
    ∀ (client : Chat.Client) (call : Chat.Call) (post : Chat.Post),
      call.post client (s.settings o) = .ok post → post.url = url

theorem callsTo_of_callUrl {s : Section} {url : String}
    (h : ∀ o, (s.settings o).callUrl = url) : CallsTo s url :=
  fun o => ⟨h o, fun _ _ _ hpost => (url_of_post hpost).trans (h o)⟩

/-- **The spelling of an endpoint does not show in the address of the calls.**  A root that is not
empty and ends neither in a slash nor in the path of the calls may have slashes behind it, or
slashes, the path and slashes again: calls go to the root and the path. -/
theorem callsTo_of_endpoint (s : Section) (root : String) (j k : ℕ) (hne : root ≠ "")
    (hslash : ¬ "/".toList <:+ root.toList) (hpath : ¬ callPath.toList <:+ root.toList) :
    CallsTo { s with endpoint := some (root ++ slashes k) } (root ++ callPath) ∧
      CallsTo { s with endpoint := some (root ++ slashes j ++ callPath ++ slashes k) }
        (root ++ callPath) := by
  have hslash : ¬ ['/'] <:+ root.toList := hslash
  have hroot : root.toList ≠ [] := mt String.toList_eq_nil_iff.1 hne
  have hfinal : String.ofList root.toList ++ callPath = root ++ callPath := by
    rw [String.ofList_toList]
  constructor
  · refine callsTo_of_callUrl fun o => (callUrl_settings (n := 0) o rfl ?_ hslash).trans hfinal
    rw [List.replicate_zero, List.append_nil]
    refine baseOf?_eq_some (n := 0) (k := k) hroot hpath ?_ ?_
    · rwa [List.replicate_zero, List.flatten_nil, List.append_nil]
    · rw [String.toList_append, toList_slashes, List.replicate_zero, List.flatten_nil,
        List.append_nil]
  · refine callsTo_of_callUrl fun o => (callUrl_settings (n := j) o rfl ?_ hslash).trans hfinal
    have hcopies : (List.replicate 1 callPath.toList).flatten = callPath.toList :=
      List.flatten_singleton
    refine baseOf?_eq_some (n := 1) (k := k) (List.append_ne_nil_of_left_ne_nil hroot _)
      (callPath_not_suffix_append_replicate hpath) ?_ ?_
    · rw [hcopies]
      exact slash_not_suffix_append_callPath _
    · rw [hcopies, String.toList_append, String.toList_append, String.toList_append,
        toList_slashes, toList_slashes]

/-- `callsTo_of_endpoint` at work: a root with a port and a path. -/
theorem callsTo_of_endpoint_port :
    CallsTo { Section.empty with endpoint := some "http://localhost:1234/v1///" }
        "http://localhost:1234/v1/chat/completions" ∧
      CallsTo
        { Section.empty with endpoint := some "http://localhost:1234/v1//chat/completions///" }
        "http://localhost:1234/v1/chat/completions" := by
  have hslash : ¬ "/".toList <:+ "http://localhost:1234/v1".toList := by decide +kernel
  have hpath : ¬ callPath.toList <:+ "http://localhost:1234/v1".toList := by decide +kernel
  have hbase : "http://localhost:1234/v1" ++ slashes 3 = "http://localhost:1234/v1///" := by
    decide +kernel
  have hcall : "http://localhost:1234/v1" ++ slashes 1 ++ callPath ++ slashes 3 =
      "http://localhost:1234/v1//chat/completions///" := by decide +kernel
  have hurl : "http://localhost:1234/v1" ++ callPath =
      "http://localhost:1234/v1/chat/completions" := by decide +kernel
  have hspelled := callsTo_of_endpoint .empty "http://localhost:1234/v1" 1 3 (by decide) hslash
    hpath
  rwa [hbase, hcall, hurl] at hspelled

end Settings
end CodeDiagram
