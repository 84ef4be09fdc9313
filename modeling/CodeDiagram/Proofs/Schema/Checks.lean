/-
# How checks succeed and fail

A check stops at its first defect, so a chain of checks fails as its first
failing link (`bind_eq_error_iff`), and a check of a collection as its first
failing item (`checkAll_eq_error_iff`).  `Raises` bounds the defects with which a
check can fail; the bound of a chain or a list is that of its parts.  When one
item of a collection that passes is changed, its check alone decides
(`checkAll_modify`).

The four schemas are one: the two collections, the elements in order, then the
links in order against the names of the elements (`checkPlan`).
-/

import CodeDiagram.Plan.Schema
import CodeDiagram.Proofs.Json.Fields
import Mathlib.Data.List.Forall2

namespace CodeDiagram

open Json (Fields)

namespace Schema

variable {α β γ δ : Type} {allowed : Defect → Prop} {defect : Defect}

/-! ### Chains -/

/-- Two checks after each other pass if both do. -/
theorem bind_eq_ok_iff {check : Checked α} {next : α → Checked β} {b : β} :
    check >>= next = .ok b ↔ ∃ a, check = .ok a ∧ next a = .ok b := by
  cases check with
  | ok a => exact ⟨fun h => ⟨a, rfl, h⟩, fun ⟨_, ha, h⟩ => Except.ok.inj ha ▸ h⟩
  | error d => exact ⟨fun h => (nomatch h), fun ⟨_, ha, _⟩ => (nomatch ha)⟩

/-- They fail with the defect of the first that fails. -/
theorem bind_eq_error_iff {check : Checked α} {next : α → Checked β} :
    check >>= next = .error defect ↔
      check = .error defect ∨ ∃ a, check = .ok a ∧ next a = .error defect := by
  cases check with
  | ok a =>
      constructor
      · exact fun h => .inr ⟨a, rfl, h⟩
      · rintro (h | ⟨_, ha, h⟩)
        · cases h
        · exact Except.ok.inj ha ▸ h
  | error d =>
      constructor
      · intro h
        exact .inl (congrArg _ (Except.error.inj (show Except.error d = _ from h)))
      · rintro (h | ⟨_, ha, _⟩)
        · exact congrArg _ (Except.error.inj h)
        · cases ha

/-- A check has one outcome. -/
theorem eq_error_iff {check : Checked α} {defect' : Defect} (h : check = .error defect') :
    check = .error defect ↔ some defect' = some defect := by
  rw [h, Option.some.injEq, Except.error.injEq]

/-- A check passes as before if something is made of its result. -/
theorem map_eq_ok_iff {check : Checked α} {f : α → β} {b : β} :
    check.map f = .ok b ↔ ∃ a, check = .ok a ∧ f a = b := by
  cases check with
  | ok a =>
      constructor
      · exact fun h => ⟨a, rfl, Except.ok.inj h⟩
      · rintro ⟨_, ha, h⟩
        cases ha
        exact congrArg _ h
  | error d => exact ⟨fun h => (nomatch h), fun ⟨_, ha, _⟩ => (nomatch ha)⟩

/-- It fails as before as well. -/
theorem map_eq_error_iff {check : Checked α} {f : α → β} :
    check.map f = .error defect ↔ check = .error defect := by
  cases check with
  | ok a => exact ⟨fun h => (nomatch h), fun h => (nomatch h)⟩
  | error d =>
      constructor
      · exact fun h => congrArg _ (Except.error.inj h)
      · exact fun h => congrArg _ (Except.error.inj h)

theorem map_map (check : Checked α) (f : α → β) (g : β → γ) :
    (check.map f).map g = check.map (g ∘ f) := by
  cases check <;> rfl

/-- What is required has to be there. -/
theorem require_eq_ok_iff {value : Option α} {a : α} :
    require value defect = .ok a ↔ value = some a := by
  cases value with
  | some b =>
      exact ⟨fun h => congrArg some (Except.ok.inj h), fun h => congrArg _ (Option.some.inj h)⟩
  | none => exact ⟨fun h => (nomatch h), fun h => (nomatch h)⟩

/-! ### Lists -/

/-- Checks in a row pass if each of them does. -/
theorem mapM_eq_ok_iff {check : α → Checked β} : ∀ {xs : List α} {ys : List β},
    xs.mapM check = .ok ys ↔ List.Forall₂ (fun x y => check x = .ok y) xs ys
  | [], ys => by
      rw [List.mapM_nil, List.forall₂_nil_left_iff]
      exact ⟨fun h => (Except.ok.inj h).symm, fun h => congrArg _ h.symm⟩
  | x :: xs, ys => by
      rw [List.mapM_cons, bind_eq_ok_iff, List.forall₂_cons_left_iff]
      constructor
      · rintro ⟨y, hy, h⟩
        obtain ⟨ys', hys, h⟩ := bind_eq_ok_iff.1 h
        exact ⟨y, ys', hy, mapM_eq_ok_iff.1 hys, (Except.ok.inj h).symm⟩
      · rintro ⟨y, ys', hy, hys, rfl⟩
        exact ⟨y, hy, bind_eq_ok_iff.2 ⟨ys', mapM_eq_ok_iff.2 hys, rfl⟩⟩

/-- A list passes when it is written from its values, if an item passes when it is. -/
theorem mapM_eq_ok_iff_eq_map {check : α → Checked β} {write : β → α}
    (h : ∀ x y, check x = .ok y ↔ x = write y) {xs : List α} {ys : List β} :
    xs.mapM check = .ok ys ↔ xs = ys.map write := by
  rw [mapM_eq_ok_iff]
  simp only [h]
  rw [← List.forall₂_map_right_iff (R := (· = ·)), List.forall₂_eq_eq_eq]

/-- A list has partners exactly when each of its items has one. -/
theorem exists_forall₂_iff {related : α → β → Prop} : ∀ {xs : List α},
    (∃ ys, List.Forall₂ related xs ys) ↔ ∀ x ∈ xs, ∃ y, related x y
  | [] => iff_of_true ⟨[], .nil⟩ fun _ h => (nomatch h)
  | x :: xs => by
      rw [List.forall_mem_cons, ← exists_forall₂_iff]
      constructor
      · rintro ⟨ys, h⟩
        obtain ⟨y, ys, hy, hys, rfl⟩ := List.forall₂_cons_left_iff.1 h
        exact ⟨⟨y, hy⟩, ys, hys⟩
      · rintro ⟨⟨y, hy⟩, ys, hys⟩
        exact ⟨y :: ys, .cons hy hys⟩

/-- The item at a position has its partner there. -/
theorem exists_getElem?_of_forall₂ {related : α → β → Prop} {x : α} :
    ∀ {xs : List α} {ys : List β} {index : Nat}, List.Forall₂ related xs ys →
      xs[index]? = some x → ∃ y, ys[index]? = some y ∧ related x y
  | _, _, 0, .cons hxy _, hx => ⟨_, rfl, Option.some.inj hx ▸ hxy⟩
  | _, _, _ + 1, .cons _ h, hx => by
      rw [List.getElem?_cons_succ] at hx
      simp only [List.getElem?_cons_succ]
      exact exists_getElem?_of_forall₂ h hx

/-- What can be read off each partner can be read off the list. -/
theorem filterMap_eq_map_of_forall₂ {related : α → β → Prop} {read : α → Option γ} {value : β → γ}
    (hread : ∀ x y, related x y → read x = some (value y)) {xs : List α} {ys : List β}
    (h : List.Forall₂ related xs ys) : xs.filterMap read = ys.map value := by
  induction h with
  | nil => rfl
  | cons hxy _ ih => rw [List.filterMap_cons, hread _ _ hxy, ih, List.map_cons]

/-- Partners stay partners when each has an image and its partner is mended accordingly. -/
theorem forall₂_filterMap {related : α → β → Prop} {related' : γ → δ → Prop} {f : α → Option γ}
    {g : β → δ} (hf : ∀ x y, related x y → ∃ z, f x = some z ∧ related' z (g y)) {xs : List α}
    {ys : List β} (h : List.Forall₂ related xs ys) :
    List.Forall₂ related' (xs.filterMap f) (ys.map g) := by
  induction h with
  | nil => exact .nil
  | cons hxy _ ih =>
      obtain ⟨z, hz, hrelated⟩ := hf _ _ hxy
      rw [List.filterMap_cons, hz]
      exact .cons hrelated ih

/-- The images of a list are images under another function as well if each of them is. -/
theorem exists_map_eq_map_iff {f : α → γ} {g : β → γ} {xs : List α} :
    (∃ ys : List β, xs.map f = ys.map g) ↔ ∀ x ∈ xs, ∃ y, f x = g y := by
  rw [← exists_forall₂_iff]
  refine exists_congr fun ys => ?_
  rw [← List.forall₂_eq_eq_eq, List.forall₂_map_left_iff, List.forall₂_map_right_iff]

/-! ### Bounds on the defects -/

/-- Every defect with which the check fails is allowed. -/
def Raises (allowed : Defect → Prop) (check : Checked α) : Prop :=
  ∀ defect, check = .error defect → allowed defect

namespace Raises

theorem of_eq_ok {check : Checked α} {a : α} (h : check = .ok a) : Raises allowed check :=
  fun _ hd => nomatch h.symm.trans hd

theorem require {value : Option α} (h : allowed defect) :
    Raises allowed (Schema.require value defect) := by
  intro d hd
  cases value with
  | some a => cases hd
  | none => exact Except.error.inj hd ▸ h

/-- Checks after each other fail only as one of them does. -/
theorem bind {check : Checked α} {next : α → Checked β} (h : Raises allowed check)
    (hnext : ∀ a, check = .ok a → Raises allowed (next a)) : Raises allowed (check >>= next) := by
  intro d hd
  rcases bind_eq_error_iff.1 hd with hd | ⟨a, ha, hd⟩
  · exact h d hd
  · exact hnext a ha d hd

/-- Checks in a row fail only as one of them does. -/
theorem mapM {check : α → Checked β} : ∀ {xs : List α},
    (∀ x ∈ xs, Raises allowed (check x)) → Raises allowed (xs.mapM check)
  | [], _ => of_eq_ok List.mapM_nil
  | x :: xs, h => by
      rw [List.mapM_cons]
      exact .bind (h x (List.mem_cons_self ..)) fun _ _ =>
        .bind (mapM fun y hy => h y (List.mem_cons_of_mem _ hy)) fun _ _ => .of_eq_ok rfl

theorem map {check : Checked α} (f : α → β) (h : Raises allowed check) :
    Raises allowed (check.map f) := by
  intro d hd
  cases check with
  | ok a => cases hd
  | error d' => exact Except.error.inj hd ▸ h d' rfl

end Raises

/-! ### Collections -/

/-- Checks one item of a collection. -/
def checkItem (outer : Path) (collection : String) (check : Element → Checked α)
    (item : Json × Nat) : Checked α := do
  let path := outer ++ [⟨collection, item.2⟩]
  let fields ← require item.1.fields? (.elementNotObject path)
  check ⟨path, fields⟩

/-- A collection is a list of items with their positions. -/
theorem checkFrom_eq_mapM (outer : Path) (collection : String) (check : Element → Checked α) :
    ∀ (index : Nat) (items : List Json), checkFrom outer collection check index items =
      (items.zipIdx index).mapM (checkItem outer collection check)
  | _, [] => rfl
  | index, item :: items => by
      rw [List.zipIdx_cons, List.mapM_cons, ← checkFrom_eq_mapM outer collection check _ items,
        checkFrom, checkItem]
      exact (bind_assoc ..).symm

theorem checkAll_eq_mapM (outer : Path) (collection : String) (check : Element → Checked α)
    (items : List Json) : checkAll outer collection check items =
      items.zipIdx.mapM (checkItem outer collection check) :=
  checkFrom_eq_mapM outer collection check 0 items

/-- An item passes if it is an object that passes the check at its own path. -/
theorem checkItem_eq_ok_iff {outer : Path} {collection : String} {check : Element → Checked α}
    {item : Json} {index : Nat} {a : α} :
    checkItem outer collection check (item, index) = .ok a ↔
      ∃ fields, item = .object fields ∧
        check ⟨outer ++ [⟨collection, index⟩], fields⟩ = .ok a := by
  cases item with
  | object fields =>
      exact ⟨fun h => ⟨fields, rfl, h⟩, fun ⟨_, hitem, h⟩ => Json.object.inj hitem ▸ h⟩
  | _ => exact ⟨fun h => (nomatch h), fun ⟨_, hitem, _⟩ => (nomatch hitem)⟩

/-- The items that pass are objects that pass, one by one. -/
theorem forall₂_of_checkAll {outer : Path} {collection : String} {check : Element → Checked α}
    {items : List Json} {as : List α} (h : checkAll outer collection check items = .ok as) :
    List.Forall₂ (fun item a => ∃ path fields, item = .object fields ∧
      check ⟨path, fields⟩ = .ok a) items as := by
  rw [checkAll_eq_mapM, mapM_eq_ok_iff] at h
  have hitems : List.Forall₂ (fun item a => ∃ path fields, item = .object fields ∧
      check ⟨path, fields⟩ = .ok a) (items.zipIdx.map Prod.fst) as := by
    rw [List.forall₂_map_left_iff]
    refine h.imp fun item a hitem => ?_
    obtain ⟨fields, hfields, hcheck⟩ := checkItem_eq_ok_iff.1 hitem
    exact ⟨_, fields, hfields, hcheck⟩
  rwa [List.zipIdx_map_fst] at hitems

/-- What a check reads off each item can be read off the items. -/
theorem filterMap_of_checkAll {outer : Path} {collection : String} {check : Element → Checked α}
    {items : List Json} {as : List α} {read : Json → Option β} {value : α → β}
    (hread : ∀ path fields a, check ⟨path, fields⟩ = .ok a →
      read (.object fields) = some (value a))
    (h : checkAll outer collection check items = .ok as) :
    items.filterMap read = as.map value := by
  refine filterMap_eq_map_of_forall₂ (fun item a hitem => ?_) (forall₂_of_checkAll h)
  obtain ⟨path, fields, rfl, hcheck⟩ := hitem
  exact hread path fields a hcheck

/-- A collection fails only as one of its items does. -/
theorem Raises.checkAll {outer : Path} {collection : String} {check : Element → Checked α}
    {items : List Json}
    (h : ∀ index item, items[index]? = some item →
      Raises allowed (checkItem outer collection check (item, index))) :
    Raises allowed (checkAll outer collection check items) := by
  rw [checkAll_eq_mapM]
  refine .mapM fun item hitem => ?_
  exact h item.2 item.1 (List.mem_zipIdx_iff_getElem?.1 hitem)

/-- An item fails because it is no object, or as its check does. -/
theorem Raises.checkItem {outer : Path} {collection : String} {check : Element → Checked α}
    {item : Json} {index : Nat}
    (hobject : item.fields? = none →
      allowed (.elementNotObject (outer ++ [⟨collection, index⟩])))
    (hcheck : ∀ fields, item = .object fields →
      Raises allowed (check ⟨outer ++ [⟨collection, index⟩], fields⟩)) :
    Raises allowed (checkItem outer collection check (item, index)) := by
  cases item with
  | object fields => exact hcheck fields rfl
  | _ => exact fun _ h => Except.error.inj h ▸ hobject rfl

/-- If items that fit pass and the others fail by their index, a collection fails at the first that
does not fit. -/
theorem checkFrom_eq_error_iff {outer : Path} {collection : String} {check : Element → Checked α}
    {fits : Json → Bool} {blame : Nat → Defect} : ∀ (start : Nat) {items : List Json},
    (∀ item ∈ items, ∀ index, fits item = true →
      ∃ a, checkItem outer collection check (item, index) = .ok a) →
    (∀ item ∈ items, ∀ index, fits item = false →
      checkItem outer collection check (item, index) = .error (blame index)) →
    (checkFrom outer collection check start items = .error defect ↔
      (items.findIdx? fun item => !fits item).map (fun index => blame (start + index)) =
        some defect)
  | _, [], _, _ => ⟨fun h => (nomatch h), fun h => (nomatch h)⟩
  | start, item :: items, hpass, hfail => by
      have hmem : item ∈ item :: items := List.mem_cons_self ..
      rw [checkFrom_eq_mapM, List.zipIdx_cons, List.mapM_cons, ← checkFrom_eq_mapM,
        List.findIdx?_cons]
      cases hfits : fits item with
      | true =>
          obtain ⟨a, ha⟩ := hpass item hmem start hfits
          have hrest := checkFrom_eq_error_iff (start + 1)
            (fun item h => hpass item (List.mem_cons_of_mem _ h))
            (fun item h => hfail item (List.mem_cons_of_mem _ h))
          have hshift : ∀ index, blame (start + (index + 1)) = blame (start + 1 + index) := by
            intro index
            rw [Nat.add_right_comm, Nat.add_assoc]
          rw [ha, Bool.not_true, if_neg Bool.false_ne_true, Option.map_map]
          simp only [Function.comp_def, hshift]
          rw [← hrest]
          exact map_eq_error_iff
      | false =>
          rw [hfail item hmem start hfits]
          exact ⟨fun h => congrArg some (Except.error.inj h),
            fun h => congrArg _ (Option.some.inj h)⟩

/-- **The first item that does not pass is blamed**, where each item passes or is blamed. -/
theorem checkAll_eq_error_iff {outer : Path} {collection : String} {check : Element → Checked α}
    {fits : Json → Bool} {blame : Nat → Defect} {items : List Json}
    (hpass : ∀ item ∈ items, ∀ index, fits item = true →
      ∃ a, checkItem outer collection check (item, index) = .ok a)
    (hfail : ∀ item ∈ items, ∀ index, fits item = false →
      checkItem outer collection check (item, index) = .error (blame index)) :
    checkAll outer collection check items = .error defect ↔
      (items.findIdx? fun item => !fits item).map blame = some defect := by
  rw [checkAll, checkFrom_eq_error_iff 0 hpass hfail]
  simp only [Nat.zero_add]

/-- The item at a position passes as the value there. -/
theorem exists_getElem?_of_checkAll {outer : Path} {collection : String}
    {check : Element → Checked α} {items : List Json} {as : List α} {item : Json} {index : Nat}
    (h : checkAll outer collection check items = .ok as) (hitem : items[index]? = some item) :
    ∃ a, as[index]? = some a ∧ checkItem outer collection check (item, index) = .ok a := by
  rw [checkAll_eq_mapM, mapM_eq_ok_iff] at h
  refine exists_getElem?_of_forall₂ h ?_
  rw [List.getElem?_zipIdx, hitem, Option.map_some, Nat.zero_add]

theorem checkFrom_cons (outer : Path) (collection : String) (check : Element → Checked α)
    (start : Nat) (item : Json) (items : List Json) :
    checkFrom outer collection check start (item :: items) = (do
      let a ← checkItem outer collection check (item, start)
      (checkFrom outer collection check (start + 1) items).map (a :: ·)) := by
  rw [checkFrom_eq_mapM, List.zipIdx_cons, List.mapM_cons, ← checkFrom_eq_mapM]
  rfl

/-- A change of one item shows in the result at its own index only. -/
theorem checkFrom_modify {outer : Path} {collection : String} {check : Element → Checked α}
    {change : Json → Json} {result : Checked γ} {update : γ → α → α} {item : Json} :
    ∀ {start index : Nat} {items : List Json} {as : List α},
      checkFrom outer collection check start items = .ok as → items[index]? = some item →
      (∀ a, checkItem outer collection check (item, start + index) = .ok a →
        checkItem outer collection check (change item, start + index) =
          result.map fun c => update c a) →
      checkFrom outer collection check start (items.modify index change) =
        result.map fun c => as.modify index (update c)
  | start, 0, item :: items, as, h, hitem, hchange => by
      rw [checkFrom_cons, bind_eq_ok_iff] at h
      obtain ⟨a, ha, h⟩ := h
      obtain ⟨rest, hrest, rfl⟩ := map_eq_ok_iff.1 h
      cases hitem
      rw [Nat.add_zero] at hchange
      rw [List.modify_zero_cons, checkFrom_cons, hchange a ha, hrest]
      cases result <;> rfl
  | start, index + 1, first :: items, as, h, hitem, hchange => by
      rw [checkFrom_cons, bind_eq_ok_iff] at h
      obtain ⟨a, ha, h⟩ := h
      obtain ⟨rest, hrest, rfl⟩ := map_eq_ok_iff.1 h
      have hshift : start + (index + 1) = start + 1 + index := by omega
      rw [List.modify_succ_cons, checkFrom_cons, ha,
        checkFrom_modify hrest hitem fun a => hshift ▸ hchange a]
      exact map_map ..

/-- **When one item is changed, its check alone decides.**  The other items of a collection that
passed pass as before. -/
theorem checkAll_modify {outer : Path} {collection : String} {check : Element → Checked α}
    {change : Json → Json} {result : Checked γ} {update : γ → α → α} {item : Json} {index : Nat}
    {items : List Json} {as : List α} (h : checkAll outer collection check items = .ok as)
    (hitem : items[index]? = some item)
    (hchange : ∀ a, checkItem outer collection check (item, index) = .ok a →
      checkItem outer collection check (change item, index) = result.map fun c => update c a) :
    checkAll outer collection check (items.modify index change) =
      result.map fun c => as.modify index (update c) := by
  refine checkFrom_modify h hitem ?_
  rw [Nat.zero_add]
  exact hchange

/-! ### Plans -/

variable {elements links : String} {plan : Json}

/-- The two collections of a plan are there if both can be found. -/
theorem collections_eq_ok_iff {items links' : List Json} :
    collections elements links plan = .ok (items, links') ↔
      plan.collection? elements = some items ∧ plan.collection? links = some links' := by
  rw [collections, Json.collection?, Json.collection?, bind_eq_ok_iff]
  constructor
  · rintro ⟨fields, hfields, h⟩
    obtain ⟨as, has, h⟩ := bind_eq_ok_iff.1 h
    obtain ⟨bs, hbs, h⟩ := bind_eq_ok_iff.1 h
    cases h
    rw [require_eq_ok_iff.1 hfields]
    exact ⟨require_eq_ok_iff.1 has, require_eq_ok_iff.1 hbs⟩
  · rintro ⟨hitems, hlinks⟩
    obtain ⟨fields, hfields, hitems⟩ := Option.bind_eq_some_iff.1 hitems
    rw [hfields] at hlinks
    exact ⟨fields, require_eq_ok_iff.2 hfields, bind_eq_ok_iff.2 ⟨items, require_eq_ok_iff.2 hitems,
      bind_eq_ok_iff.2 ⟨links', require_eq_ok_iff.2 hlinks, rfl⟩⟩⟩

/-- What is no object has no collections. -/
theorem collections_of_no_object (h : plan.fields? = none) :
    collections elements links plan = .error .notAnObject := by
  rw [collections, h]
  rfl

/-- The collection of elements is missed first. -/
theorem collections_of_no_elements (hobject : plan.fields? ≠ none)
    (h : plan.collection? elements = none) :
    collections elements links plan = .error (.missingArray elements) := by
  obtain ⟨fields, hfields⟩ := Option.ne_none_iff_exists'.1 hobject
  rw [Json.collection?, hfields, Option.bind_some] at h
  refine bind_eq_error_iff.2 (.inr ⟨fields, require_eq_ok_iff.2 hfields,
    bind_eq_error_iff.2 (.inl ?_)⟩)
  rw [h]
  rfl

/-- The collection of links is missed next. -/
theorem collections_of_no_links (helements : plan.collection? elements ≠ none)
    (h : plan.collection? links = none) :
    collections elements links plan = .error (.missingArray links) := by
  obtain ⟨items, hitems⟩ := Option.ne_none_iff_exists'.1 helements
  obtain ⟨fields, hfields, hitems⟩ := Option.bind_eq_some_iff.1 hitems
  rw [Json.collection?, hfields, Option.bind_some] at h
  refine bind_eq_error_iff.2 (.inr ⟨fields, require_eq_ok_iff.2 hfields,
    bind_eq_error_iff.2 (.inr ⟨items, require_eq_ok_iff.2 hitems,
      bind_eq_error_iff.2 (.inl ?_)⟩)⟩)
  rw [h]
  rfl

/-- Checks a plan of two collections. -/
def checkPlan (elements links : String) (element : Element → Checked α) (name : α → String)
    (link : List String → Element → Checked β) (make : List α → List β → γ) (plan : Json) :
    Checked γ := do
  let (items, links') ← collections elements links plan
  let as ← checkAll [] elements element items
  let bs ← checkAll [] links (link (as.map name)) links'
  return make as bs

/-- A plan fails for its collections, for its elements, or for its links once the elements are
known. -/
theorem Raises.checkPlan {element : Element → Checked α} {name : α → String}
    {link : List String → Element → Checked β} {make : List α → List β → γ}
    (hcollections : Raises allowed (collections elements links plan))
    (helements : ∀ items, plan.collection? elements = some items →
      Raises allowed (Schema.checkAll [] elements element items))
    (hlinks : ∀ items links' as, plan.collection? elements = some items →
      plan.collection? links = some links' →
        Schema.checkAll [] elements element items = .ok as →
          Raises allowed (Schema.checkAll [] links (link (as.map name)) links')) :
    Raises allowed (Schema.checkPlan elements links element name link make plan) := by
  refine .bind hcollections fun pair hpair => ?_
  obtain ⟨items, links'⟩ := pair
  obtain ⟨hitems, hlinks'⟩ := collections_eq_ok_iff.1 hpair
  refine .bind (helements items hitems) fun as has => ?_
  exact .bind (hlinks items links' as hitems hlinks' has) fun _ _ => .of_eq_ok rfl

section Outcome

variable {element : Element → Checked α} {name : α → String}
  {link : List String → Element → Checked β} {make : List α → List β → γ}

theorem checkPlan_of_error (h : collections elements links plan = .error defect) :
    checkPlan elements links element name link make plan = .error defect := by
  rw [checkPlan, h]
  rfl

/-- Once the elements have passed, the links decide. -/
theorem checkPlan_eq_error_iff {items links' : List Json} {as : List α}
    (hcollections : collections elements links plan = .ok (items, links'))
    (has : checkAll [] elements element items = .ok as) :
    checkPlan elements links element name link make plan = .error defect ↔
      checkAll [] links (link (as.map name)) links' = .error defect := by
  rw [checkPlan, hcollections]
  show (checkAll [] elements element items >>= _) = _ ↔ _
  rw [has]
  exact map_eq_error_iff

/-- Once the names of the elements are fixed and the links pass, the elements decide. -/
theorem checkPlan_eq_map {items links' : List Json} {result : Checked δ} {value : δ → List α}
    {names : List String} {bs : List β}
    (hcollections : collections elements links plan = .ok (items, links'))
    (hvalue : checkAll [] elements element items = result.map value)
    (hnames : ∀ d, (value d).map name = names)
    (hbs : checkAll [] links (link names) links' = .ok bs) :
    checkPlan elements links element name link make plan =
      result.map fun d => make (value d) bs := by
  rw [checkPlan, hcollections]
  show (checkAll [] elements element items >>= _) = _
  rw [hvalue]
  cases result with
  | error defect => rfl
  | ok d =>
      show (checkAll [] links (link ((value d).map name)) links' >>= _) = _
      rw [hnames, hbs]
      rfl

end Outcome

/-- The four kinds of plan are checked by one scheme, each with its own names and checks. -/
theorem flowchart_eq_checkPlan :
    flowchart = checkPlan "nodes" "edges" node Flowchart.Node.id edge Flowchart.mk := rfl

theorem sequence_eq_checkPlan :
    sequence = checkPlan "participants" "steps" participant Sequence.Participant.id step
      Sequence.mk := rfl

theorem classDiagram_eq_checkPlan :
    classDiagram = checkPlan "classes" "relationships" classBox ClassDiagram.ClassBox.id
      classRelationship ClassDiagram.mk := rfl

theorem entityRelation_eq_checkPlan :
    entityRelation = checkPlan "entities" "relationships" entity EntityRelation.Entity.name
      entityRelationship EntityRelation.mk := rfl

end Schema
end CodeDiagram
