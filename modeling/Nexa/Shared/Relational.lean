import Mathlib.Data.List.Pairwise
import Mathlib.Data.List.Perm.Basic
import Nexa.Shared.Table

/-! A database carries the proof that its rows satisfy the unique constraints and foreign keys of its schema, so a
statement that would break one fails. -/

namespace Relational

open List

/-- What a constraint speaks about, under its name. -/
structure Key where
  name : String
  columns : List Nat
deriving DecidableEq, Repr

structure Schema (T Owner : Type) where
  Row : T -> Type
  /-- Unique constraints. Their columns never change, so foreign keys may point at them. -/
  keys : (table : T) -> Row table -> List Key
  /-- Partial unique indexes: an update may only take a row out of one. -/
  indexes : (table : T) -> Row table -> List Key
  refs : (table : T) -> Row table -> List (T × Key)
  owner : (table : T) -> Row table -> Option Owner

def Tables {T Owner : Type} (schema : Schema T Owner) : Type := (table : T) -> List (schema.Row table)

section

variable {T Owner : Type} [DecidableEq T] {schema : Schema T Owner}

variable {table : T} {keep : Option Owner -> Bool}

namespace Tables

def update (tables : Tables schema) (table : T) (condition : schema.Row table -> Bool)
    (change : schema.Row table -> schema.Row table) : Tables schema :=
  Function.update tables table (updateWhere condition change (tables table))

def append (tables : Tables schema) (table : T) (row : schema.Row table) : Tables schema :=
  Function.update tables table (tables table ++ [row])

@[simp]
theorem update_same (tables : Tables schema) (table : T) (condition : schema.Row table -> Bool)
    (change : schema.Row table -> schema.Row table) :
    tables.update table condition change table = updateWhere condition change (tables table) :=
  Function.update_self ..

@[simp]
theorem update_other (tables : Tables schema) {other : T} (condition : schema.Row table -> Bool)
    (change : schema.Row table -> schema.Row table) (different : other ≠ table) :
    tables.update table condition change other = tables other :=
  Function.update_of_ne different ..

@[simp]
theorem append_same (tables : Tables schema) (table : T) (row : schema.Row table) :
    tables.append table row table = tables table ++ [row] :=
  Function.update_self ..

@[simp]
theorem append_other (tables : Tables schema) {other : T} (row : schema.Row table)
    (different : other ≠ table) : tables.append table row other = tables other :=
  Function.update_of_ne different ..

def replace (tables : Tables schema) (table : T) (rows : List (schema.Row table)) : Tables schema :=
  Function.update tables table rows

@[simp]
theorem replace_same (tables : Tables schema) (table : T) (rows : List (schema.Row table)) :
    tables.replace table rows table = rows :=
  Function.update_self ..

@[simp]
theorem replace_other (tables : Tables schema) {other : T} (rows : List (schema.Row table))
    (different : other ≠ table) : tables.replace table rows other = tables other :=
  Function.update_of_ne different ..

def part (tables : Tables schema) (keep : Option Owner -> Bool) : Tables schema :=
  fun table => (tables table).filter fun row => keep (schema.owner table row)

variable {row : schema.Row table}

omit [DecidableEq T] in
theorem mem_part {tables : Tables schema} :
    row ∈ tables.part keep table <-> row ∈ tables table ∧ keep (schema.owner table row) = true := by
  simp [part]

theorem part_update (tables : Tables schema) (keep : Option Owner -> Bool) (table : T)
    (condition : schema.Row table -> Bool) {change : schema.Row table -> schema.Row table}
    (keeps : ∀ row, schema.owner table (change row) = schema.owner table row) :
    (tables.update table condition change).part keep =
      (tables.part keep).update table condition change := by
  funext other
  by_cases same : other = table
  · subst other
    simp [part, filter_updateWhere, keeps]
  · simp [part, same]

theorem part_update_foreign (tables : Tables schema)
    {condition : schema.Row table -> Bool} {change : schema.Row table -> schema.Row table}
    (keeps : ∀ row, schema.owner table (change row) = schema.owner table row)
    (foreign : ∀ row ∈ tables table, condition row = true -> keep (schema.owner table row) = false) :
    (tables.update table condition change).part keep = tables.part keep := by
  rw [part_update _ _ _ _ keeps]
  funext other
  by_cases same : other = table
  · subst other
    rw [update_same, updateWhere_eq_self]
    intro row member
    by_contra selected
    obtain ⟨inside, owned⟩ := mem_part.1 member
    have outside := foreign row inside (by simpa using selected)
    simp [outside] at owned
  · simp [same]

theorem part_append (tables : Tables schema) (owned : keep (schema.owner table row) = true) :
    (tables.append table row).part keep = (tables.part keep).append table row := by
  funext other
  by_cases same : other = table
  · subst other
    simp [part, owned]
  · simp [part, same]

theorem part_append_foreign (tables : Tables schema) (foreign : keep (schema.owner table row) = false) :
    (tables.append table row).part keep = tables.part keep := by
  funext other
  by_cases same : other = table
  · subst other
    simp [part, foreign]
  · simp [part, same]

variable [DecidableEq Owner]

def slice (tables : Tables schema) (owner : Owner) : Tables schema := tables.part fun other => other = some owner

def others (tables : Tables schema) (owner : Owner) : Tables schema :=
  tables.part fun other => other.isSome ∧ other ≠ some owner

omit [DecidableEq T] in
theorem mem_slice {tables : Tables schema} {owner : Owner} :
    row ∈ tables.slice owner table <-> row ∈ tables table ∧ schema.owner table row = some owner := by
  simp [slice, mem_part]

omit [DecidableEq T] in
theorem slice_others (tables : Tables schema) {owner other : Owner} (different : other ≠ owner) :
    (tables.others owner).slice other = tables.slice other := by
  funext table
  simp only [slice, others, part, filter_filter]
  congr 1
  funext row
  by_cases owned : schema.owner table row = some other <;> simp [owned, different]

omit [DecidableEq T] in
theorem countP_slice_others (tables : Tables schema) (owner : Owner)
    (owned : ∀ row ∈ tables table, (schema.owner table row).isSome)
    (counted : schema.Row table -> Bool) :
    (tables table).countP counted =
      (tables.slice owner table).countP counted + (tables.others owner table).countP counted := by
  simp only [slice, others, part, countP_filter]
  generalize tables table = rows at owned
  induction rows with
  | nil => rfl
  | cons row rest ih =>
    simp only [forall_mem_cons] at owned
    simp only [countP_cons, ih owned.2]
    by_cases mine : schema.owner table row = some owner <;> by_cases inside : counted row <;>
      simp [mine, inside, owned.1] <;> omega

end Tables

structure Patch (schema : Schema T Owner) (table : T) where
  apply : schema.Row table -> schema.Row table
  keys_apply : ∀ row, schema.keys table (apply row) = schema.keys table row := by
    intro row; rfl
  indexes_apply : ∀ row, schema.indexes table (apply row) ⊆ schema.indexes table row := by
    intro row; first | exact List.Subset.refl _ | exact List.nil_subset _
  refs_apply : ∀ row, schema.refs table (apply row) = schema.refs table row := by
    intro row; rfl
  owner_apply : ∀ row, schema.owner table (apply row) = schema.owner table row := by
    intro row; rfl

variable {touched : List T}

namespace Tables

def Kept (before after : Tables schema) (table : T) : Prop :=
  ∀ row ∈ before table, ∃ next ∈ after table,
    schema.keys table next = schema.keys table row ∧ schema.indexes table next ⊆ schema.indexes table row

variable {table : T}

omit [DecidableEq T] in
theorem Kept.of_same {before after : Tables schema} (same : after table = before table) : Kept before after table :=
  fun row member => ⟨row, same ▸ member, rfl, List.Subset.refl _⟩

omit [DecidableEq T] in
theorem Kept.trans {first next last : Tables schema} (left : Kept first next table)
    (right : Kept next last table) : Kept first last table := by
  intro row member
  obtain ⟨between, inside, keys, indexes⟩ := left row member
  obtain ⟨final, present, lastKeys, lastIndexes⟩ := right between inside
  exact ⟨final, present, lastKeys.trans keys, List.Subset.trans lastIndexes indexes⟩

theorem Kept.update (tables : Tables schema) (condition : schema.Row table -> Bool)
    (patch : Patch schema table) (other : T) :
    Kept tables (tables.update table condition patch.apply) other := by
  by_cases same : other = table
  · subst other
    intro row member
    rw [update_same]
    refine ⟨_, mem_updateWhere.2 ⟨row, member, rfl⟩, ?_⟩
    split_ifs
    · exact ⟨patch.keys_apply row, patch.indexes_apply row⟩
    · exact ⟨rfl, List.Subset.refl _⟩
  · exact .of_same (update_other _ _ _ same)

theorem Kept.append (tables : Tables schema) (table : T) (row : schema.Row table) (other : T) :
    Kept tables (tables.append table row) other := by
  by_cases same : other = table
  · subst other
    intro old member
    rw [append_same]
    exact ⟨old, mem_append_left _ member, rfl, List.Subset.refl _⟩
  · exact .of_same (append_other _ _ same)

def Frame (touched : List T) (before after : Tables schema) : Prop :=
  ∀ table, table ∉ touched -> after table = before table

omit [DecidableEq T] in
theorem Frame.refl (touched : List T) (tables : Tables schema) : Frame touched tables tables := fun _ _ => rfl

omit [DecidableEq T] in
theorem Frame.trans {first next last : Tables schema}
    (left : Frame touched first next) (right : Frame touched next last) : Frame touched first last :=
  fun table outside => (right table outside).trans (left table outside)

omit [DecidableEq T] in
theorem Frame.mono {more : List T} {before after : Tables schema}
    (frame : Frame touched before after) (wider : touched ⊆ more) : Frame more before after :=
  fun table outside => frame table fun inside => outside (wider inside)

theorem Frame.update (tables : Tables schema)
    (condition : schema.Row table -> Bool) (change : schema.Row table -> schema.Row table)
    (inside : table ∈ touched) : Frame touched tables (tables.update table condition change) := by
  intro other outside
  exact update_other _ _ _ fun same => outside (same ▸ inside)

theorem Frame.append (tables : Tables schema) (row : schema.Row table)
    (inside : table ∈ touched) : Frame touched tables (tables.append table row) := by
  intro other outside
  exact append_other _ _ fun same => outside (same ▸ inside)

variable [DecidableEq Owner] (tables : Tables schema) {owner : Owner} {table : T}

theorem slice_update (condition : schema.Row table -> Bool) (patch : Patch schema table) :
    (tables.update table condition patch.apply).slice owner =
      (tables.slice owner).update table condition patch.apply :=
  part_update _ _ _ _ patch.owner_apply

theorem slice_append {row : schema.Row table} (owned : schema.owner table row = some owner) :
    (tables.append table row).slice owner = (tables.slice owner).append table row :=
  part_append _ (by simp [owned])

theorem others_update {condition : schema.Row table -> Bool} (patch : Patch schema table)
    (inside : ∀ row ∈ tables table, condition row = true -> schema.owner table row = some owner) :
    (tables.update table condition patch.apply).others owner = tables.others owner := by
  refine part_update_foreign _ patch.owner_apply ?_
  intro row member selected
  simp [inside row member selected]

theorem others_append {row : schema.Row table} (owned : schema.owner table row = some owner) :
    (tables.append table row).others owner = tables.others owner :=
  part_append_foreign _ (by simp [owned])

end Tables

structure Database (schema : Schema T Owner) where
  rows : Tables schema
  unique : ∀ table, (rows table).Pairwise fun row other =>
    (schema.keys table row ++ schema.indexes table row).Disjoint
      (schema.keys table other ++ schema.indexes table other)
  closed : ∀ table, ∀ row ∈ rows table, ∀ ref ∈ schema.refs table row,
    ∃ target ∈ rows ref.1, ref.2 ∈ schema.keys ref.1 target

namespace Database

omit [DecidableEq T] in
theorem ext_rows {left right : Database schema} (same : left.rows = right.rows) : left = right := by
  cases left
  cases right
  simp_all

def select (db : Database schema) (table : T) (condition : schema.Row table -> Bool) : List (schema.Row table) :=
  (db.rows table).filter condition

variable {row : schema.Row table}

omit [DecidableEq T] in
theorem mem_of_select {db : Database schema} {condition : schema.Row table -> Bool}
    (found : db.select table condition = [row]) :
    row ∈ db.rows table ∧ condition row = true := by
  unfold select at found
  rw [← mem_filter, found]
  exact mem_singleton_self row

theorem unique_update (db : Database schema) (table : T) (condition : schema.Row table -> Bool)
    (patch : Patch schema table) (other : T) :
    (db.rows.update table condition patch.apply other).Pairwise fun row next =>
      (schema.keys other row ++ schema.indexes other row).Disjoint
        (schema.keys other next ++ schema.indexes other next) := by
  by_cases same : other = table
  · subst other
    rw [Tables.update_same, updateWhere, pairwise_map]
    refine (db.unique table).imp ?_
    intro row next disjoint
    have shrinks : ∀ row : schema.Row table,
        schema.keys table (if condition row then patch.apply row else row) ++
            schema.indexes table (if condition row then patch.apply row else row) ⊆
          schema.keys table row ++ schema.indexes table row := by
      intro row
      by_cases selected : condition row
      · simp only [selected, if_true, patch.keys_apply]
        exact append_subset.2 ⟨subset_append_left _ _,
          fun key inside => subset_append_right _ _ (patch.indexes_apply row inside)⟩
      · simp [selected]
    intro key inRow inNext
    exact disjoint (shrinks row inRow) (shrinks next inNext)
  · rw [Tables.update_other _ _ _ same]
    exact db.unique other

theorem closed_update (db : Database schema) (table : T) (condition : schema.Row table -> Bool)
    (patch : Patch schema table) (other : T) (row : schema.Row other)
    (member : row ∈ db.rows.update table condition patch.apply other)
    (ref : T × Key) (refers : ref ∈ schema.refs other row) :
    ∃ target ∈ db.rows.update table condition patch.apply ref.1, ref.2 ∈ schema.keys ref.1 target := by
  have survives : ∃ old ∈ db.rows other, ref ∈ schema.refs other old := by
    by_cases same : other = table
    · subst other
      rw [Tables.update_same, mem_updateWhere] at member
      obtain ⟨old, inside, changed⟩ := member
      refine ⟨old, inside, ?_⟩
      subst changed
      by_cases selected : condition old
      · simpa [selected, patch.refs_apply] using refers
      · simpa [selected] using refers
    · rw [Tables.update_other _ _ _ same] at member
      exact ⟨row, member, refers⟩
  obtain ⟨old, inside, oldRefers⟩ := survives
  obtain ⟨target, found, names⟩ := db.closed other old inside ref oldRefers
  by_cases same : ref.1 = table
  · cases ref with
    | mk refTable key =>
      simp only at same
      subst refTable
      refine ⟨if condition target then patch.apply target else target, ?_, ?_⟩
      · rw [Tables.update_same, mem_updateWhere]
        exact ⟨target, found, rfl⟩
      · by_cases selected : condition target
        · simpa [selected, patch.keys_apply] using names
        · simpa [selected] using names
  · rw [Tables.update_other _ _ _ same]
    exact ⟨target, found, names⟩

def update (db : Database schema) (table : T) (condition : schema.Row table -> Bool)
    (patch : Patch schema table) : Database schema where
  rows := db.rows.update table condition patch.apply
  unique := db.unique_update table condition patch
  closed := db.closed_update table condition patch

@[simp]
theorem rows_update (db : Database schema) (table : T) (condition : schema.Row table -> Bool)
    (patch : Patch schema table) :
    (db.update table condition patch).rows = db.rows.update table condition patch.apply := rfl

def Insertable (db : Database schema) (table : T) (row : schema.Row table) : Prop :=
  (∀ other ∈ db.rows table, ∀ key ∈ schema.keys table other ++ schema.indexes table other,
      key ∉ schema.keys table row ++ schema.indexes table row) ∧
    ∀ ref ∈ schema.refs table row, ∃ target ∈ db.rows ref.1, ref.2 ∈ schema.keys ref.1 target

instance (db : Database schema) (table : T) (row : schema.Row table) : Decidable (db.Insertable table row) := by
  unfold Insertable
  infer_instance

def insertRow (db : Database schema) (table : T) (row : schema.Row table)
    (accepted : db.Insertable table row) : Database schema where
  rows := db.rows.append table row
  unique := by
    intro other
    by_cases same : other = table
    · subst other
      rw [Tables.append_same, pairwise_append]
      refine ⟨db.unique table, pairwise_singleton _ _, ?_⟩
      intro old inside new fresh
      rw [mem_singleton.1 fresh]
      intro key inOld inNew
      exact accepted.1 old inside key inOld inNew
    · rw [Tables.append_other _ _ same]
      exact db.unique other
  closed := by
    have grows : ∀ other, db.rows other ⊆ db.rows.append table row other := by
      intro other old inside
      by_cases same : other = table
      · subst other
        simp [inside]
      · simpa [same] using inside
    intro other old member ref refers
    have found : ∃ target ∈ db.rows ref.1, ref.2 ∈ schema.keys ref.1 target := by
      by_cases same : other = table
      · subst other
        rw [Tables.append_same, mem_append, mem_singleton] at member
        rcases member with inside | fresh
        · exact db.closed _ old inside ref refers
        · subst fresh
          exact accepted.2 ref refers
      · rw [Tables.append_other _ _ same] at member
        exact db.closed other old member ref refers
    obtain ⟨target, inside, names⟩ := found
    exact ⟨target, grows _ inside, names⟩

def insert (db : Database schema) (table : T) (row : schema.Row table) : Option (Database schema) :=
  if accepted : db.Insertable table row then some (db.insertRow table row accepted) else none

theorem insert_eq_some {db after : Database schema} :
    db.insert table row = some after <->
      db.Insertable table row ∧ after.rows = db.rows.append table row := by
  unfold insert
  split_ifs with accepted
  · simp only [Option.some.injEq, accepted, true_and]
    constructor
    · intro same
      rw [← same]
      rfl
    · intro same
      exact ext_rows same.symm
  · simp [accepted]

theorem insertRow_of_insert {db after : Database schema} (inserted : db.insert table row = some after) :
    ∃ accepted : db.Insertable table row, db.insertRow table row accepted = after := by
  unfold insert at inserted
  split_ifs at inserted with accepted
  exact ⟨accepted, Option.some.inj inserted⟩

omit [DecidableEq T] in
theorem nodup (db : Database schema) (named : ∀ row, schema.keys table row ≠ []) : (db.rows table).Nodup := by
  refine (db.unique table).imp ?_
  intro row other disjoint same
  subst same
  obtain ⟨key, inside⟩ := exists_mem_of_ne_nil _ (named row)
  exact disjoint (mem_append_left _ inside) (mem_append_left _ inside)

omit [DecidableEq T] in
theorem select_eq_singleton (db : Database schema) (named : ∀ row, schema.keys table row ≠ [])
    {condition : schema.Row table -> Bool} (member : row ∈ db.rows table)
    (holds : condition row = true) (unique : ∀ other ∈ db.rows table, condition other = true -> other = row) :
    db.select table condition = [row] := by
  refine perm_singleton.1 ((perm_ext_iff_of_nodup ((db.nodup named).filter _) (by simp)).2 ?_)
  intro other
  simp only [mem_filter, mem_singleton]
  constructor
  · rintro ⟨inside, selected⟩
    exact unique other inside selected
  · rintro rfl
    exact ⟨member, holds⟩

omit [DecidableEq T] in
theorem eq_of_key (db : Database schema) (key : Key) {row other : schema.Row table}
    (member : row ∈ db.rows table) (otherMember : other ∈ db.rows table)
    (names : key ∈ schema.keys table row ++ schema.indexes table row)
    (otherNames : key ∈ schema.keys table other ++ schema.indexes table other) : row = other := by
  by_contra different
  have symmetric : Std.Symm fun row other : schema.Row table =>
      (schema.keys table row ++ schema.indexes table row).Disjoint
        (schema.keys table other ++ schema.indexes table other) :=
    ⟨fun _ _ disjoint _ left right => disjoint right left⟩
  exact (db.unique table).forall member otherMember different names otherNames

end Database

end

end Relational
