import Mathlib.Data.List.Perm.Basic
import Nexa.Shared.Selection

namespace Paging

open Selection List

variable {α κ : Type} [LinearOrder κ] (rank : α -> κ)

def ordered (items : List α) : List α := items.insertionSort fun left right => rank left ≤ rank right

def first (limit : Nat) (items : List α) : List α := (ordered rank items).take limit

def Ranked (items : List α) : Prop := (items.map rank).Nodup

def after (cursor : Option κ) (items : List α) : List α :=
  items.filter fun item => cursor.all fun place => place < rank item

def page (limit : Nat) (items : List α) (cursor : Option κ) : List α := first rank limit (after rank cursor items)

def read (limit : Nat) (items : List α) (cursor : Option κ) : List α :=
  if page rank limit items cursor = [] then page rank limit items none else page rank limit items cursor

def nextCursor (found : List α) (cursor : Option κ) : Option κ := (found.getLast?.map rank).or cursor

def cursorAt (limit : Nat) (items : List α) : Nat -> Option κ
  | 0 => none
  | reads + 1 => nextCursor rank (read rank limit items (cursorAt limit items reads)) (cursorAt limit items reads)

variable {items others : List α}

section

theorem ordered_perm (items : List α) : (ordered rank items).Perm items := perm_insertionSort _ items

@[simp]
theorem length_ordered (items : List α) : (ordered rank items).length = items.length :=
  (ordered_perm rank items).length_eq

theorem pairwise_ordered (items : List α) : (ordered rank items).Pairwise fun left right => rank left ≤ rank right :=
  pairwise_sorted (fun _ _ => Iff.rfl) items

variable {rank}

section

variable (ranked : Ranked rank items)

include ranked

omit [LinearOrder κ] in
theorem Ranked.distinct : ∀ a ∈ items, ∀ b ∈ items, rank a = rank b -> a = b :=
  fun _ left _ right same => inj_on_of_nodup_map ranked left right same

omit [LinearOrder κ] in
theorem Ranked.perm (perm : items.Perm others) : Ranked rank others :=
  (perm.map rank).nodup_iff.mp ranked

omit [LinearOrder κ] in
theorem Ranked.sublist (inside : others.Sublist items) : Ranked rank others :=
  List.Nodup.sublist (inside.map rank) ranked

theorem pairwise_lt_ordered : (ordered rank items).Pairwise fun left right => rank left < rank right := by
  have apart : (ordered rank items).Pairwise fun left right => rank left ≠ rank right :=
    pairwise_map.mp (ranked.perm (ordered_perm rank items).symm)
  exact ((pairwise_ordered rank items).and apart).imp fun both => lt_of_le_of_ne both.1 both.2

theorem ordered_eq (perm : items.Perm others)
    (sorted : others.Pairwise fun left right => rank left ≤ rank right) : ordered rank items = others := by
  refine ((ordered_perm rank items).trans perm).eq_of_pairwise ?_ (pairwise_ordered rank items) sorted
  intro a b leftMember rightMember up down
  refine ranked.distinct a ?_ b ?_ (le_antisymm up down)
  · exact (ordered_perm rank items).mem_iff.mp leftMember
  · exact perm.mem_iff.mpr rightMember

theorem ordered_congr (perm : items.Perm others) : ordered rank items = ordered rank others :=
  ordered_eq ranked (perm.trans (ordered_perm rank others).symm) (pairwise_ordered rank others)

end

theorem ordered_map {β : Type} {other : β -> κ} {change : α -> β} (keeps : ∀ item, other (change item) = rank item)
    (items : List α) : ordered other (items.map change) = (ordered rank items).map change := by
  refine (map_insertionSort _ _ change items fun a _ b _ => ?_).symm
  rw [keeps, keeps]

theorem first_congr {limit : Nat} (ranked : Ranked rank items)
    (perm : items.Perm others) : first rank limit items = first rank limit others := by
  rw [first, first, ordered_congr ranked perm]

theorem ordered_agree {ι : Type} [LinearOrder ι] {other : α -> ι} (ranked : Ranked rank items)
    (agree : ∀ a ∈ items, ∀ b ∈ items, other a ≤ other b -> rank a ≤ rank b) :
    ordered rank items = ordered other items := by
  refine ordered_eq ranked (ordered_perm other items).symm ?_
  refine (pairwise_ordered other items).imp_of_mem fun left right le => agree _ ?_ _ ?_ le
  · exact (ordered_perm other items).mem_iff.mp left
  · exact (ordered_perm other items).mem_iff.mp right

theorem ordered_filter (ranked : Ranked rank items) (wanted : α -> Bool) :
    ordered rank (items.filter wanted) = (ordered rank items).filter wanted := by
  refine ordered_eq (ranked.sublist filter_sublist) ?_ ((pairwise_ordered rank items).filter _)
  exact ((ordered_perm rank items).filter wanted).symm

end

section

variable {rank} {limit : Nat}

theorem first_append {kept dropped : List α} (ranked : Ranked rank (kept ++ dropped))
    (late : ∀ item ∈ dropped, limit ≤ kept.countP fun other => rank other ≤ rank item) :
    first rank limit (kept ++ dropped) = first rank limit kept := by
  rcases dropped.eq_nil_or_concat with rfl | ⟨_, witness, rfl⟩
  · rw [append_nil]
  -- There are as many kept items as a page holds, so the page is cut from them.
  have enough : limit ≤ (ordered rank kept).length := by
    rw [length_ordered]
    exact (late witness (by simp)).trans countP_le_length
  rename_i init
  set dropped := init.concat witness
  set front := (ordered rank kept).take limit with frontEq
  set back := (ordered rank kept).drop limit with backEq
  have split : ordered rank kept = front ++ back := (take_append_drop _ _).symm
  have full : front.length = limit := by simpa [frontEq] using enough
  have sorted := pairwise_ordered rank kept
  rw [split, pairwise_append] at sorted
  have before : ∀ a ∈ front, ∀ b ∈ dropped, rank a ≤ rank b := by
    intro a inside b outside
    by_contra above
    have many : limit ≤ (front ++ back).countP fun other => rank other ≤ rank b := by
      rw [← split, (ordered_perm rank kept).countP_eq]
      exact late b outside
    have none : back.countP (fun other => rank other ≤ rank b) = 0 := by
      rw [countP_eq_zero]
      intro other member
      have := sorted.2.2 a inside other member
      simp only [decide_eq_true_eq, not_le]
      exact (not_le.mp above).trans_le this
    have fewer : front.countP (fun other => rank other ≤ rank b) < front.length := by
      refine lt_of_le_of_ne countP_le_length fun all => above ?_
      simpa using countP_eq_length.mp all a inside
    rw [countP_append, none] at many
    omega
  have whole : ordered rank (kept ++ dropped) = front ++ ordered rank (back ++ dropped) := by
    refine ordered_eq ranked ?_ ?_
    · calc (kept ++ dropped).Perm ((front ++ back) ++ dropped) :=
            ((split ▸ ordered_perm rank kept).symm).append_right dropped
        _ = front ++ (back ++ dropped) := append_assoc _ _ _
        List.Perm _ (front ++ ordered rank (back ++ dropped)) := (ordered_perm rank _).symm.append_left front
    · refine pairwise_append.mpr ⟨sorted.1, pairwise_ordered rank _, fun a inside b member => ?_⟩
      rcases mem_append.mp ((ordered_perm rank _).mem_iff.mp member) with inBack | inDropped
      · exact sorted.2.2 a inside b inBack
      · exact before a inside b inDropped
  rw [first, first, whole, take_left' full]

theorem partition_perm {ι : Type} [DecidableEq ι] (kind : α -> ι) {kinds : List ι} (distinct : kinds.Nodup)
    (covered : ∀ item ∈ items, kind item ∈ kinds) :
    (kinds.flatMap fun wanted => items.filter fun item => kind item = wanted).Perm items := by
  induction kinds generalizing items with
  | nil =>
    have empty : items = [] := eq_nil_iff_forall_not_mem.mpr fun item member => by
      simpa using covered item member
    simp [empty]
  | cons wanted rest ih =>
    rw [nodup_cons] at distinct
    -- The other streams are those of the items that are not of this kind.
    have others : (rest.flatMap fun other => items.filter fun item => kind item = other) =
        rest.flatMap fun other => (items.filter fun item => kind item ≠ wanted).filter
          fun item => kind item = other := by
      refine flatMap_congr fun other member => ?_
      rw [filter_filter]
      refine filter_congr fun item _ => ?_
      by_cases same : kind item = other
      · have apart : other ≠ wanted := fun equal => distinct.1 (equal ▸ member)
        simp [same, apart]
      · simp [same]
    rw [flatMap_cons, others]
    refine ((ih distinct.2 fun item member => ?_).append_left _).trans ?_
    · obtain ⟨inside, apart⟩ := mem_filter.mp member
      simpa [show kind item ≠ wanted by simpa using apart] using covered item inside
    · simpa using filter_append_perm (fun item => decide (kind item = wanted)) items

theorem first_streams {streams : List (List α)} (ranked : Ranked rank streams.flatten) :
    first rank limit (streams.flatMap (first rank limit)) = first rank limit streams.flatten := by
  have perm : streams.flatten.Perm (streams.flatMap (first rank limit) ++
      streams.flatMap fun stream => (ordered rank stream).drop limit) := by
    refine List.Perm.trans ?_ (flatMap_append_perm _ _ _).symm
    rw [← flatMap_id']
    refine List.Perm.flatMap_left _ fun stream _ => ?_
    rw [first, take_append_drop]
    exact (ordered_perm rank stream).symm
  rw [first_congr ranked perm, first_append (ranked.perm perm)]
  intro item member
  obtain ⟨stream, inside, behind⟩ := mem_flatMap.mp member
  have sorted := pairwise_ordered rank stream
  rw [← take_append_drop limit (ordered rank stream), pairwise_append] at sorted
  have long : limit < (ordered rank stream).length := by
    have := length_pos_of_mem behind
    rw [length_drop] at this
    omega
  calc limit = (first rank limit stream).countP fun other => rank other ≤ rank item := by
        rw [countP_eq_length.mpr, first, length_take, min_eq_left long.le]
        intro other ahead
        simpa using sorted.2.2 other ahead item behind
    _ ≤ _ := (sublist_flatten_of_mem (mem_map_of_mem inside)).countP_le

end

section

variable {rank} {limit : Nat} {items : List α}

theorem page_none (items : List α) : page rank limit items none = first rank limit items := by
  simp [page, after]

theorem read_none (items : List α) : read rank limit items none = page rank limit items none := by
  rw [read, ite_self]

@[simp]
theorem read_nil (cursor : Option κ) : read rank limit [] cursor = [] := by
  simp [read, page, after, first, ordered]

theorem read_behind (positive : 0 < limit) {place : κ} {item : α} (member : item ∈ items) (behind : place < rank item) :
    ∃ other ∈ read rank limit items (some place), rank other ≤ rank item := by
  have listed : item ∈ ordered rank (after rank (some place) items) :=
    (ordered_perm rank _).mem_iff.mpr (mem_filter.mpr ⟨member, by simpa using behind⟩)
  have sorted := pairwise_ordered rank (after rank (some place) items)
  rw [read, page, first]
  generalize ordered rank (after rank (some place) items) = found at listed sorted
  cases found with
  | nil => cases listed
  | cons head rest =>
    refine ⟨head, by simp [take_cons positive], ?_⟩
    rcases mem_cons.mp listed with rfl | later
    · exact le_refl _
    · exact (pairwise_cons.mp sorted).1 item later

theorem page_streams {streams : List (List α)} (ranked : Ranked rank streams.flatten) (cursor : Option κ) :
    first rank limit (streams.flatMap fun stream => page rank limit stream cursor) =
      page rank limit streams.flatten cursor := by
  have split : (streams.map (after rank cursor)).flatten = after rank cursor streams.flatten := by
    rw [after, filter_flatten]
    rfl
  have within : Ranked rank (streams.map (after rank cursor)).flatten := by
    rw [split]
    exact ranked.sublist filter_sublist
  rw [page, ← split, ← first_streams within, flatMap_map]
  rfl

section

variable (ranked : Ranked rank items)

include ranked

theorem page_eq (cursor : Option κ) :
    page rank limit items cursor = (after rank cursor (ordered rank items)).take limit := by
  rw [page, first, after, ordered_filter ranked, after]

theorem after_last {front back : List α} {item : α}
    (split : ordered rank items = front ++ back) (last : front.getLast? = some item) :
    after rank (some (rank item)) (ordered rank items) = back := by
  have sorted := pairwise_lt_ordered ranked
  obtain ⟨init, rfl⟩ : ∃ init, front = init ++ [item] := by
    obtain ⟨nonempty, rfl⟩ := getLast?_eq_some_iff.mp last |>.imp fun _ same => same
    exact ⟨_, rfl⟩
  rw [split] at sorted ⊢
  rw [pairwise_append, pairwise_append] at sorted
  rw [after, filter_append, filter_eq_nil_iff.mpr, filter_eq_self.mpr, nil_append]
  · intro other member
    simpa using sorted.2.2 item (by simp) other member
  · intro other member
    rcases mem_append.mp member with early | same
    · simpa using (sorted.1.2.2 other early item (by simp)).le
    · simp_all

theorem read_of_after (positive : 0 < limit) {cursor : Option κ}
    {rest : List α} (left : after rank cursor (ordered rank items) = rest) (nonempty : rest ≠ []) :
    read rank limit items cursor = rest.take limit := by
  have found : page rank limit items cursor = rest.take limit := by rw [page_eq ranked, left]
  have something : rest.take limit ≠ [] := by
    rw [Ne, take_eq_nil_iff]
    exact not_or.mpr ⟨positive.ne', nonempty⟩
  rw [read, found, if_neg something]

theorem after_cursorAt (positive : 0 < limit) (reads : Nat)
    (more : ∀ earlier < reads, earlier * limit < items.length) :
    after rank (cursorAt rank limit items reads) (ordered rank items) =
      (ordered rank items).drop (reads * limit) := by
  induction reads with
  | zero => simp [cursorAt, after]
  | succ reads ih =>
    have within := more reads (Nat.lt_succ_self reads)
    have rest : (ordered rank items).drop (reads * limit) ≠ [] := by
      rw [Ne, drop_eq_nil_iff, length_ordered]
      omega
    have slice := read_of_after ranked positive
      (ih fun earlier below => more earlier (Nat.lt_succ_of_lt below)) rest
    have nonempty : ((ordered rank items).drop (reads * limit)).take limit ≠ [] := by
      rw [Ne, take_eq_nil_iff]
      exact not_or.mpr ⟨positive.ne', rest⟩
    -- The last item of the slice is the last one of all that was read so far.
    have last : ((ordered rank items).take ((reads + 1) * limit)).getLast? =
        some ((((ordered rank items).drop (reads * limit)).take limit).getLast nonempty) := by
      rw [Nat.succ_mul, take_add, getLast?_append, getLast?_eq_some_getLast nonempty, Option.some_or]
    rw [cursorAt, slice, nextCursor, getLast?_eq_some_getLast nonempty, Option.map_some, Option.some_or]
    exact after_last ranked (take_append_drop _ _).symm last

theorem read_slice (positive : 0 < limit) {reads : Nat} (more : reads * limit < items.length) :
    read rank limit items (cursorAt rank limit items reads) =
      ((ordered rank items).drop (reads * limit)).take limit := by
  refine read_of_after ranked positive (after_cursorAt ranked positive reads fun earlier below => ?_) ?_
  · exact (Nat.mul_le_mul_right limit below.le).trans_lt more
  · rw [Ne, drop_eq_nil_iff, length_ordered]
    omega

theorem read_wraps (positive : 0 < limit) {reads : Nat}
    (more : ∀ earlier < reads, earlier * limit < items.length) (done : items.length ≤ reads * limit) :
    read rank limit items (cursorAt rank limit items reads) = first rank limit items := by
  have nothing : page rank limit items (cursorAt rank limit items reads) = [] := by
    rw [page_eq ranked, after_cursorAt ranked positive reads more, drop_eq_nil_of_le, take_nil]
    rwa [length_ordered]
  rw [read, if_pos nothing, page_none]

theorem slices_ascend {earlier later : Nat} (order : earlier < later)
    {one other : α} (first : one ∈ ((ordered rank items).drop (earlier * limit)).take limit)
    (second : other ∈ ((ordered rank items).drop (later * limit)).take limit) : rank one < rank other := by
  have sorted := pairwise_lt_ordered ranked
  rw [← take_append_drop (later * limit) (ordered rank items), pairwise_append] at sorted
  refine sorted.2.2 one ?_ other (mem_of_mem_take second)
  rw [take_drop] at first
  have within : earlier * limit + limit ≤ later * limit := by
    rw [← Nat.succ_mul]
    exact Nat.mul_le_mul_right limit order
  exact take_subset_take_left _ within (mem_of_mem_drop first)

end

theorem mem_slice (rank : α -> κ) (positive : 0 < limit) {item : α} (member : item ∈ items) :
    ∃ reads, reads * limit < items.length ∧
      item ∈ ((ordered rank items).drop (reads * limit)).take limit := by
  obtain ⟨index, inside, rfl⟩ := getElem_of_mem ((ordered_perm rank items).mem_iff.mpr member)
  have within : index / limit * limit ≤ index := Nat.div_mul_le_self index limit
  have total := length_ordered rank items
  refine ⟨index / limit, by omega, mem_iff_getElem.mpr ⟨index % limit, ?_, ?_⟩⟩
  · have below := Nat.mod_lt index positive
    have parts := Nat.div_add_mod' index limit
    rw [length_take, length_drop]
    omega
  · rw [getElem_take, getElem_drop]
    congr 1
    exact Nat.div_add_mod' index limit

end

end Paging
