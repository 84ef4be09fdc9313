/-
# Fields under update

Setting a field shows in that field and nowhere else (`Fields.get?_set`), and
setting it to the value it has changes nothing (`Fields.set_eq_self`).  Of two
updates of one field the later counts, and updates of two fields commute.  A
function on objects is local to some names when it leaves every other field
alone (`Fields.Local`); locality composes, so the fields that a chain of
updates can touch are the names of its links taken together.

An element of a collection is an object at a position of a field that holds an
array.  `Fields.modifyElement` changes one element where it stands: that field
holds the other items as before, and the other fields stay.
-/

import CodeDiagram.Json.Basic
import Mathlib.Tactic.SplitIfs

namespace CodeDiagram
namespace Json
namespace Fields

variable {name other : String} {value : Json} {fields : Fields}

/-- **A field after an update:** the new value under its own name, the old
one under any other. -/
theorem get?_set (name : String) (value : Json) (other : String) :
    ∀ fields : Fields, (fields.set name value).get? other =
      if name = other then some value else fields.get? other
  | [] => rfl
  | (key, old) :: rest => by
      unfold set
      split_ifs with hkey hname hname
      · rw [get?, if_pos (hkey.trans hname)]
      · rw [get?, get?, if_neg (hkey ▸ hname), if_neg (hkey ▸ hname)]
      · rw [get?, if_neg (hname ▸ hkey), get?_set name value other rest, if_pos hname]
      · rw [get?, get?, get?_set name value other rest, if_neg hname]

/-- A field that is set holds what it is set to. -/
@[simp] theorem get?_set_self : (fields.set name value).get? name = some value := by
  rw [get?_set, if_pos rfl]

/-- Any other field holds what it held. -/
theorem get?_set_of_ne (h : name ≠ other) :
    (fields.set name value).get? other = fields.get? other := by
  rw [get?_set, if_neg h]

theorem get?_set_of_not_mem (h : other ∉ [name]) :
    (fields.set name value).get? other = fields.get? other :=
  get?_set_of_ne fun hname => h (List.mem_singleton.2 hname.symm)

/-- A field that is set to a string holds its text. -/
theorem text?_set_self {s : String} : (fields.set name (.string s)).text? name = some s := by
  rw [text?, get?_set_self]
  rfl

theorem text?_set_of_ne (h : name ≠ other) :
    (fields.set name value).text? other = fields.text? other := by
  rw [text?, text?, get?_set_of_ne h]

/-- A field that is set to an array holds its items. -/
theorem items?_set_self {items : List Json} :
    (fields.set name (.array items)).items? name = some items := by
  rw [items?, get?_set_self]
  rfl

theorem items?_set_of_ne (h : name ≠ other) :
    (fields.set name value).items? other = fields.items? other := by
  rw [items?, items?, get?_set_of_ne h]

/-- Of two updates of a field the later counts. -/
@[simp] theorem set_set (name : String) (old value : Json) :
    ∀ fields : Fields, (fields.set name old).set name value = fields.set name value
  | [] => if_pos rfl
  | (key, current) :: rest => by
      by_cases hkey : key = name
      · rw [set, set, if_pos hkey, if_pos hkey, set, if_pos hkey]
      · rw [set, set, if_neg hkey, if_neg hkey, set, if_neg hkey, set_set name old value rest]

/-- Updates of two fields commute if the first field is there already, so that it is not added
behind the other. -/
theorem set_comm_of_get? {old value' : Json} (h : name ≠ other) :
    ∀ {fields : Fields}, fields.get? name = some old →
      (fields.set name value).set other value' = (fields.set other value').set name value
  | (key, current) :: rest, hget => by
      by_cases hkey : key = name
      · have hother : key ≠ other := hkey ▸ h
        rw [set, set, if_pos hkey, if_neg hother, set, set, if_neg hother, if_pos hkey]
      · rw [get?, if_neg hkey] at hget
        by_cases hother : key = other
        · rw [set, set, if_neg hkey, if_pos hother, set, set, if_pos hother, if_neg hkey]
        · rw [set, set, if_neg hkey, if_neg hother, set, set, if_neg hother, if_neg hkey,
            set_comm_of_get? h hget]

/-- Setting a field to the value it has changes nothing. -/
theorem set_eq_self : ∀ {fields : Fields}, fields.get? name = some value →
    fields.set name value = fields
  | (key, old) :: rest, h => by
      rw [get?] at h
      rw [set]
      split_ifs at h ⊢
      · rw [Option.some.inj h]
      · rw [set_eq_self h]

theorem get?_of_text? {s : String} (h : fields.text? name = some s) :
    fields.get? name = some (.string s) := by
  obtain ⟨json, hget, htext⟩ := Option.bind_eq_some_iff.1 h
  cases json <;> cases htext
  exact hget

theorem get?_of_items? {items : List Json} (h : fields.items? name = some items) :
    fields.get? name = some (.array items) := by
  obtain ⟨json, hget, hitems⟩ := Option.bind_eq_some_iff.1 h
  cases json <;> cases hitems
  exact hget

/-- A field holds a text if its value is that string. -/
theorem text?_eq_some_iff {s : String} :
    fields.text? name = some s ↔ fields.get? name = some (.string s) := by
  refine ⟨get?_of_text?, fun h => ?_⟩
  rw [text?, h]
  rfl

/-- A field holds items if its value is that array. -/
theorem items?_eq_some_iff {items : List Json} :
    fields.items? name = some items ↔ fields.get? name = some (.array items) := by
  refine ⟨get?_of_items?, fun h => ?_⟩
  rw [items?, h]
  rfl

/-- Updating a field that is there adds none. -/
theorem map_fst_set {old : Json} : ∀ {fields : Fields}, fields.get? name = some old →
    (fields.set name value).map Prod.fst = fields.map Prod.fst
  | (key, current) :: rest, h => by
      by_cases hkey : key = name
      · rw [set, if_pos hkey, List.map_cons, List.map_cons]
      · rw [get?, if_neg hkey] at h
        rw [set, if_neg hkey, List.map_cons, List.map_cons, map_fst_set h]

/-- One object has the fields of the other, except for those of the names. -/
def AgreesOff (names : List String) (before after : Fields) : Prop :=
  ∀ name ∉ names, after.get? name = before.get? name

/-- Leaves every field alone that has none of the names. -/
def Local (names : List String) (mend : Fields → Fields) : Prop :=
  ∀ fields name, name ∉ names → (mend fields).get? name = fields.get? name

namespace Local

variable {names names' : List String} {mend mend' : Fields → Fields}

theorem id_nil : Local [] id := fun _ _ _ => rfl

/-- Two local changes after each other are local to the names of both. -/
theorem comp (h' : Local names' mend') (h : Local names mend) :
    Local (names ++ names') fun fields => mend' (mend fields) := by
  intro fields name hname
  rw [List.mem_append, not_or] at hname
  rw [h' _ _ hname.2, h _ _ hname.1]

/-- A local change agrees with no change on the names that it leaves alone. -/
theorem agreesOff (h : Local names mend) (fields : Fields) :
    AgreesOff names fields (mend fields) := h fields

theorem text? (h : Local names mend) {name : String} (hname : name ∉ names) (fields : Fields) :
    (mend fields).text? name = fields.text? name := by
  rw [Fields.text?, Fields.text?, h fields name hname]

end Local
end Fields

theorem text?_eq_some_iff {json : Json} {s : String} : json.text? = some s ↔ json = .string s := by
  constructor
  · intro h
    cases json <;> cases h
    rfl
  · rintro rfl
    rfl

theorem items?_eq_some_iff {json : Json} {items : List Json} :
    json.items? = some items ↔ json = .array items := by
  constructor
  · intro h
    cases json <;> cases h
    rfl
  · rintro rfl
    rfl

theorem fields?_eq_some_iff {json : Json} {fields : Fields} :
    json.fields? = some fields ↔ json = .object fields := by
  constructor
  · intro h
    cases json <;> cases h
    rfl
  · rintro rfl
    rfl

/-- The items of a collection of a plan. -/
def collection? (field : String) (plan : Json) : Option (List Json) :=
  plan.fields?.bind fun fields => fields.items? field

/-! ### Elements of collections -/

/-- Changes an object; any other value stays. -/
def mapFields (f : Fields → Fields) : Json → Json
  | .object fields => .object (f fields)
  | other => other

/-- Two changes of the fields after each other are one change. -/
theorem mapFields_mapFields (f g : Fields → Fields) (json : Json) :
    (json.mapFields f).mapFields g = json.mapFields (g ∘ f) := by
  cases json <;> rfl

namespace Fields

variable {collection other : String} {fields element : Fields} {items : List Json}

/-- The element at a position of a collection. -/
def element? (collection : String) (index : Nat) (fields : Fields) : Option Fields :=
  ((fields.items? collection).bind fun items => items[index]?).bind Json.fields?

/-- Changes the element at a position of a collection, if it is there. -/
def modifyElement (collection : String) (index : Nat) (f : Fields → Fields) (fields : Fields) :
    Fields :=
  match fields.items? collection with
  | some items => fields.set collection (.array (items.modify index (mapFields f)))
  | none => fields

/-- An element stands at an index of its collection. -/
theorem element?_eq_some_iff {index : Nat} :
    fields.element? collection index = some element ↔
      ∃ items, fields.items? collection = some items ∧ items[index]? = some (.object element) := by
  simp [element?, Option.bind_eq_some_iff, fields?_eq_some_iff]

theorem element?_eq_some_iff_of_items? {index : Nat} (h : fields.items? collection = some items) :
    fields.element? collection index = some element ↔ items[index]? = some (.object element) := by
  simp [element?_eq_some_iff, h]

/-- To change an element is to set its collection to the changed items. -/
theorem modifyElement_eq_set (index : Nat) (f : Fields → Fields)
    (h : fields.items? collection = some items) :
    fields.modifyElement collection index f =
      fields.set collection (.array (items.modify index (mapFields f))) := by
  rw [modifyElement, h]

/-- Without the collection there is no element to change. -/
theorem modifyElement_eq_self (index : Nat) (f : Fields → Fields)
    (h : fields.items? collection = none) : fields.modifyElement collection index f = fields := by
  rw [modifyElement, h]

theorem modifyElement_set (index : Nat) (f : Fields → Fields) (fields : Fields) :
    (fields.set collection (.array items)).modifyElement collection index f =
      fields.set collection (.array (items.modify index (mapFields f))) := by
  rw [modifyElement_eq_set index f items?_set_self, set_set]

/-- Two changes of an element are one. -/
theorem modifyElement_modifyElement (index : Nat) (f g : Fields → Fields) (fields : Fields) :
    (fields.modifyElement collection index f).modifyElement collection index g =
      fields.modifyElement collection index (g ∘ f) := by
  cases hitems : fields.items? collection with
  | some items =>
      have hboth : mapFields g ∘ mapFields f = mapFields (g ∘ f) :=
        funext fun json => mapFields_mapFields f g json
      rw [modifyElement_eq_set index f hitems, modifyElement_set, List.modify_modify_eq, hboth,
        modifyElement_eq_set index _ hitems]
  | none =>
      rw [modifyElement_eq_self index f hitems, modifyElement_eq_self index g hitems,
        modifyElement_eq_self index _ hitems]

/-- A change of an element leaves the other collections alone. -/
theorem get?_modifyElement_of_ne (h : collection ≠ other) (index : Nat) (f : Fields → Fields)
    (fields : Fields) :
    (fields.modifyElement collection index f).get? other = fields.get? other := by
  unfold modifyElement
  split
  · exact get?_set_of_ne h
  · rfl

theorem text?_modifyElement_of_ne (h : collection ≠ other) (index : Nat) (f : Fields → Fields)
    (fields : Fields) :
    (fields.modifyElement collection index f).text? other = fields.text? other := by
  rw [text?, text?, get?_modifyElement_of_ne h]

theorem items?_modifyElement_of_ne (h : collection ≠ other) (index : Nat) (f : Fields → Fields)
    (fields : Fields) :
    (fields.modifyElement collection index f).items? other = fields.items? other := by
  rw [items?, items?, get?_modifyElement_of_ne h]

/-- The items of a collection of which one element is changed. -/
theorem items?_modifyElement (index : Nat) (f : Fields → Fields) (fields : Fields) :
    (fields.modifyElement collection index f).items? collection =
      (fields.items? collection).map fun items => items.modify index (mapFields f) := by
  cases hitems : fields.items? collection with
  | some items => rw [modifyElement_eq_set index f hitems, items?_set_self, Option.map_some]
  | none => rw [modifyElement_eq_self index f hitems, hitems, Option.map_none]

/-- The changed element stands where the element stood. -/
theorem element?_modifyElement (index : Nat) (f : Fields → Fields) (fields : Fields) :
    (fields.modifyElement collection index f).element? collection index =
      (fields.element? collection index).map f := by
  rw [element?, items?_modifyElement, element?]
  cases fields.items? collection with
  | some items =>
      simp only [Option.map_some, Option.bind_some, List.getElem?_modify_eq]
      cases items[index]? with
      | some item => cases item <;> rfl
      | none => rfl
  | none => rfl

end Fields

end Json
end CodeDiagram
