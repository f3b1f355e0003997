import Nexa.Shared.JsonReading
import Nexa.Shared.Paging

namespace Json

open Paging List

variable {F : Type}

theorem Value.parts {motive : Value F -> Prop} (null : motive .null) (boolean : ∀ value, motive (.boolean value))
    (integer : ∀ value, motive (.integer value)) (float : ∀ value, motive (.float value))
    (string : ∀ text, motive (.string text))
    (array : ∀ items, (∀ item ∈ items, motive item) -> motive (.array items))
    (object : ∀ members, (∀ member ∈ members, motive member.2) -> motive (.object members)) :
    ∀ value, motive value
  | .null => null
  | .boolean value => boolean value
  | .integer value => integer value
  | .float value => float value
  | .string text => string text
  | .array items =>
    array items fun item _ => Value.parts null boolean integer float string array object item
  | .object members =>
    object members fun member _ => Value.parts null boolean integer float string array object member.2
termination_by value => sizeOf value
decreasing_by
  · have smaller := sizeOf_lt_of_mem ‹item ∈ items›
    simp only [Value.array.sizeOf_spec]
    omega
  · obtain ⟨key, value⟩ := member
    have smaller := sizeOf_lt_of_mem ‹(key, value) ∈ members›
    simp only [Prod.mk.sizeOf_spec] at smaller
    simp only [Value.object.sizeOf_spec]
    omega

mutual

def Value.All (node : Value F -> Prop) : Value F -> Prop
  | .null => node .null
  | .boolean value => node (.boolean value)
  | .integer value => node (.integer value)
  | .float value => node (.float value)
  | .string text => node (.string text)
  | .array items => node (.array items) ∧ Value.AllItems node items
  | .object members => node (.object members) ∧ Value.AllMembers node members

def Value.AllItems (node : Value F -> Prop) : List (Value F) -> Prop
  | [] => True
  | item :: items => Value.All node item ∧ Value.AllItems node items

def Value.AllMembers (node : Value F -> Prop) : List (Text × Value F) -> Prop
  | [] => True
  | (_, value) :: members => Value.All node value ∧ Value.AllMembers node members

end

variable {members : List (Text × Value F)} {items : List (Value F)}

section

variable {node : Value F -> Prop}

theorem Value.allItems_iff : Value.AllItems node items <-> ∀ item ∈ items, item.All node := by
  induction items with
  | nil => simp [Value.AllItems]
  | cons item items ih => simp [Value.AllItems, ih]

theorem Value.allMembers_iff : Value.AllMembers node members <-> ∀ member ∈ members, member.2.All node := by
  induction members with
  | nil => simp [Value.AllMembers]
  | cons member members ih =>
    obtain ⟨key, value⟩ := member
    simp [Value.AllMembers, ih]

theorem Value.all_array : (Value.array items).All node <-> node (.array items) ∧ ∀ item ∈ items, item.All node := by
  rw [Value.All, Value.allItems_iff]

theorem Value.all_object :
    (Value.object members).All node <-> node (.object members) ∧ ∀ member ∈ members, member.2.All node := by
  rw [Value.All, Value.allMembers_iff]

theorem Value.All.imp {other : Value F -> Prop} (implies : ∀ value, node value -> other value) {value : Value F}
    (all : value.All node) : value.All other := by
  induction value using Value.parts with
  | null | boolean | integer | float | string => exact implies _ all
  | array items ih =>
    obtain ⟨here, parts⟩ := Value.all_array.mp all
    exact Value.all_array.mpr ⟨implies _ here, fun item member => ih item member (parts item member)⟩
  | object members ih =>
    obtain ⟨here, parts⟩ := Value.all_object.mp all
    exact Value.all_object.mpr ⟨implies _ here, fun member inside => ih member inside (parts member inside)⟩

end

def Value.Keyed (value : Value F) : Prop :=
  value.All fun
    | .object members => (members.map Prod.fst).Nodup
    | _ => True

theorem Value.keyed_array : (Value.array items).Keyed <-> ∀ item ∈ items, item.Keyed := by
  simp [Value.Keyed, Value.all_array]

theorem Value.keyed_object :
    (Value.object members).Keyed <-> (members.map Prod.fst).Nodup ∧ ∀ member ∈ members, member.2.Keyed := by
  simp [Value.Keyed, Value.all_object]

structure Document (F : Type) where
  value : Value F
  keyed : value.Keyed

def lookup (key : Text) (members : List (Text × Value F)) : Option (Value F) :=
  (members.find? fun member => member.1 = key).map Prod.snd

theorem lookup_eq_some (distinct : (members.map Prod.fst).Nodup) {key : Text}
    {value : Value F} : lookup key members = some value <-> (key, value) ∈ members := by
  rw [lookup, Option.map_eq_some_iff]
  constructor
  · rintro ⟨⟨other, found⟩, search, rfl⟩
    obtain ⟨member, rfl⟩ := (Selection.find?_key distinct).mp search
    exact member
  · intro member
    exact ⟨(key, value), (Selection.find?_key distinct).mpr ⟨member, rfl⟩, rfl⟩

theorem mem_of_lookup {members : List (Text × Value F)} {key : Text} {value : Value F}
    (found : lookup key members = some value) : (key, value) ∈ members := by
  obtain ⟨⟨name, other⟩, search, rfl⟩ := Option.map_eq_some_iff.mp found
  obtain rfl : name = key := by simpa using find?_some search
  exact mem_of_find?_eq_some search

theorem lookup_map (key : Text) (change : Value F -> Value F) (members : List (Text × Value F)) :
    lookup key (members.map fun member => (member.1, change member.2)) = (lookup key members).map change := by
  induction members with
  | nil => rfl
  | cons member members ih =>
    by_cases same : member.1 = key
    · simp [lookup, same]
    · simpa [lookup, same] using ih

theorem lookup_perm {others : List (Text × Value F)} (distinct : (members.map Prod.fst).Nodup)
    (perm : others.Perm members) (key : Text) : lookup key others = lookup key members := by
  have distinctOthers := (perm.map Prod.fst).nodup_iff.mpr distinct
  refine Option.ext fun value => ?_
  rw [lookup_eq_some distinctOthers, lookup_eq_some distinct, perm.mem_iff]

def closed (fields : List Text) (members : List (Text × Value F)) : Bool :=
  (members.all fun member => fields.contains member.1) && fields.all fun field => (lookup field members).isSome

def objectWith (fields : List Text) : Value F -> Option (List (Text × Value F))
  | .object members => if closed fields members then some members else none
  | _ => none

theorem objectWith_eq_some {fields : List Text} {value : Value F} :
    objectWith fields value = some members <-> value = .object members ∧ closed fields members = true := by
  cases value with
  | object others =>
    simp only [objectWith, Option.ite_none_right_eq_some, Option.some.injEq, Value.object.injEq]
    constructor
    · rintro ⟨exact, rfl⟩
      exact ⟨rfl, exact⟩
    · rintro ⟨rfl, exact⟩
      exact ⟨exact, rfl⟩
  | null | boolean | integer | float | string | array => simp [objectWith]

def field (name : String) (members : List (Text × Value F)) : Value F := (lookup (textOf name) members).getD .null

theorem member_of_closed {fields : List Text} (exact : closed fields members = true)
    (distinct : (members.map Prod.fst).Nodup) {member : Text × Value F} (inside : member ∈ members) :
    member.1 ∈ fields ∧ lookup member.1 members = some member.2 := by
  rw [closed, Bool.and_eq_true, all_eq_true] at exact
  exact ⟨contains_iff_mem.mp (exact.1 member inside), (lookup_eq_some distinct).mpr inside⟩

theorem Value.Keyed.field (keyed : (Value.object members).Keyed) (name : String) : (field name members).Keyed := by
  obtain ⟨distinct, each⟩ := Value.keyed_object.mp keyed
  rw [Json.field]
  cases found : lookup (textOf name) members with
  | none => trivial
  | some value => exact each _ ((lookup_eq_some distinct).mp found)

variable {κ : Type} [LinearOrder κ] (rank : Text -> κ)

mutual

def Value.sorted : Value F -> Value F
  | .null => .null
  | .boolean value => .boolean value
  | .integer value => .integer value
  | .float value => .float value
  | .string text => .string text
  | .array items => .array (Value.sortedItems items)
  | .object members => .object (ordered (fun member => rank member.1) (Value.sortedMembers members))

def Value.sortedItems : List (Value F) -> List (Value F)
  | [] => []
  | item :: items => item.sorted :: Value.sortedItems items

def Value.sortedMembers : List (Text × Value F) -> List (Text × Value F)
  | [] => []
  | (key, value) :: members => (key, value.sorted) :: Value.sortedMembers members

end

theorem Value.sortedItems_eq (items : List (Value F)) :
    Value.sortedItems rank items = items.map (Value.sorted rank) := by
  induction items with
  | nil => rfl
  | cons item items ih => rw [Value.sortedItems, ih, map_cons]

theorem Value.sortedMembers_eq (members : List (Text × Value F)) :
    Value.sortedMembers rank members = members.map fun member => (member.1, member.2.sorted rank) := by
  induction members with
  | nil => rfl
  | cons member members ih =>
    obtain ⟨key, value⟩ := member
    rw [Value.sortedMembers, ih, map_cons]

theorem Value.sorted_array (items : List (Value F)) :
    (Value.array items).sorted rank = .array (items.map (Value.sorted rank)) := by
  rw [Value.sorted, Value.sortedItems_eq]

theorem Value.sorted_object (members : List (Text × Value F)) :
    (Value.object members).sorted rank =
      .object ((ordered (fun member => rank member.1) members).map
        fun member => (member.1, member.2.sorted rank)) := by
  rw [Value.sorted, Value.sortedMembers_eq]
  congr 1
  exact ordered_map (fun _ => rfl) members

end Json
