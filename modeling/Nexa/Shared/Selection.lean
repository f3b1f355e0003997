import Mathlib.Data.List.Sort

namespace Selection

open List

variable {α β κ : Type} [LinearOrder κ]

structure Least (key : α -> κ) (family : α -> Prop) (item : α) : Prop where
  member : family item
  le : ∀ other, family other -> key item ≤ key other

theorem Least.unique {key : α -> κ} {family : α -> Prop} {left right : α}
    (first : Least key family left) (second : Least key family right)
    (distinct : ∀ a b, family a -> family b -> key a = key b -> a = b) : left = right :=
  distinct left right first.member second.member
    (le_antisymm (first.le right second.member) (second.le left first.member))

theorem Least.congr {key : α -> κ} {family other : α -> Prop} {item : α}
    (least : Least key family item) (same : ∀ a, family a <-> other a) : Least key other item where
  member := (same item).mp least.member
  le := fun a member => least.le a ((same a).mpr member)

theorem find?_key [DecidableEq β] {field : α -> β} {items : List α} (distinct : (items.map field).Nodup)
    {wanted : β} {item : α} :
    items.find? (fun other => field other = wanted) = some item <-> item ∈ items ∧ field item = wanted := by
  constructor
  · intro found
    exact ⟨mem_of_find?_eq_some found, by simpa using find?_some found⟩
  · rintro ⟨member, rfl⟩
    induction items with
    | nil => simp at member
    | cons head rest ih =>
      rw [map_cons, nodup_cons] at distinct
      rcases mem_cons.mp member with rfl | inside
      · simp
      · have other : field head ≠ field item := by
          intro same
          exact distinct.1 (same ▸ mem_map_of_mem inside)
        simp [other, ih distinct.2 inside]

theorem exists_partner {related : α -> β -> Prop} {items : List α} {others : List β}
    (pairs : List.Forall₂ related items others) {item : α} (member : item ∈ items) :
    ∃ other ∈ others, related item other := by
  induction pairs with
  | nil => simp at member
  | cons head _ ih =>
    rcases mem_cons.mp member with rfl | inside
    · exact ⟨_, by simp, head⟩
    · obtain ⟨other, otherInside, holds⟩ := ih inside
      exact ⟨other, by simp [otherInside], holds⟩

variable {before : α -> α -> Prop} [DecidableRel before] {key : α -> κ}

section

variable (compares : ∀ left right, before left right <-> key left ≤ key right)
include compares

theorem pairwise_sorted (items : List α) : (items.insertionSort before).Pairwise before := by
  have : Std.Total before := ⟨fun left right => by simpa only [compares] using le_total _ _⟩
  have : IsTrans α before := ⟨fun a b c first second => by
    rw [compares] at *
    exact le_trans first second⟩
  exact pairwise_insertionSort before items

theorem findSome?_sorted {items : List α} {act : α -> Option β} {answer : β}
    (found : (items.insertionSort before).findSome? act = some answer) :
    ∃ item, Least key (fun other => other ∈ items ∧ (act other).isSome) item ∧
      act item = some answer := by
  have sorted := pairwise_sorted compares items
  rw [findSome?_eq_some_iff] at found
  obtain ⟨earlier, item, later, split, acts, silent⟩ := found
  have inside : item ∈ items := by
    rw [← mem_insertionSort before, split]
    simp
  refine ⟨item, ⟨⟨inside, by simp [acts]⟩, ?_⟩, acts⟩
  rintro other ⟨member, answers⟩
  rw [← mem_insertionSort before, split, mem_append, mem_cons] at member
  rw [split, pairwise_append, pairwise_cons] at sorted
  rcases member with early | rfl | late
  · simp [silent other early] at answers
  · exact le_refl _
  · exact (compares _ _).mp (sorted.2.1.1 other late)

theorem head_sorted {items rest : List α} {first : α} (sorted : items.insertionSort before = first :: rest) :
    Least key (fun other => other ∈ items) first := by
  have found : (items.insertionSort before).findSome? some = some first := by simp [sorted]
  obtain ⟨item, least, same⟩ := findSome?_sorted compares found
  obtain rfl : item = first := by simpa using same
  exact least.congr (by simp)

theorem sorted_eq_of_perm {left right : List α} (perm : left.Perm right)
    (distinct : ∀ a ∈ left, ∀ b ∈ left, key a = key b -> a = b) :
    left.insertionSort before = right.insertionSort before := by
  have same : (left.insertionSort before).Perm (right.insertionSort before) :=
    ((perm_insertionSort before left).trans perm).trans (perm_insertionSort before right).symm
  refine same.eq_of_pairwise ?_ (pairwise_sorted compares left) (pairwise_sorted compares right)
  intro a b leftMember rightMember up down
  rw [compares] at up down
  refine distinct a ?_ b ?_ (le_antisymm up down)
  · simpa using leftMember
  · simpa [perm.mem_iff] using rightMember

end

end Selection
