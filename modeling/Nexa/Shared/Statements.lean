import Nexa.Shared.Regions

namespace Locking

open Interaction

abbrev Code (outer : Interface) (Key Row Label ε α : Type) := Program (interface outer Key Row Label ε) ε α

section

variable {outer : Interface} {Key Row Label ε α : Type}

def perform (command : Command outer Key Row Label ε) : Code outer Key Row Label ε command.Answer :=
  @Program.perform (interface outer Key Row Label ε) ε command

def select (wanted : Row -> Bool) : Code outer Key Row Label ε (List Row) := perform (.select wanted)

def acquire (key : Key) (strength : Strength) : Code outer Key Row Label ε (Option Row) :=
  perform (.acquire key strength)

def lock (key : Key) (strength : Strength) : Code outer Key Row Label ε Unit := perform (.claim key strength)

def insert (row : Row) : Code outer Key Row Label ε Bool := perform (.insert row)

def put (row : Row) : Code outer Key Row Label ε Unit := perform (.put row)

def erase (key : Key) : Code outer Key Row Label ε Unit := perform (.erase key)

def outside (command : outer.Command) : Code outer Key Row Label ε (outer.Answer command) := perform (.outer command)

def transact (label : Label) (body : Code outer Key Row Label ε α) : Code outer Key Row Label ε α := do
  perform (.begin label)
  let value <- body.handle fun error => do
    perform (.rollback error)
    .raise error
  perform .commit
  pure value

variable [Keyed Row Key]

def acquireAll (strength : Strength) : List Row -> Code outer Key Row Label ε (List Row)
  | [] => pure []
  | row :: rest => do
    let found <- acquire (Keyed.key row) strength
    let others <- acquireAll strength rest
    pure (found.toList ++ others)

/-- Locked one by one; those that the condition still selects are answered. -/
def selectLocked (wanted : Row -> Bool) (strength : Strength) : Code outer Key Row Label ε (List Row) := do
  let candidates <- select wanted
  let locked <- acquireAll strength candidates
  pure (locked.filter wanted)

def changeFound (change : Row -> Row) : Option Row -> Code outer Key Row Label ε Nat
  | some latest => do
    put (change latest)
    pure 1
  | none => pure 0

def changeAll (wanted : Row -> Bool) (change : Row -> Row) : List Row -> Code outer Key Row Label ε Nat
  | [] => pure 0
  | row :: rest => do
    let found <- acquire (Keyed.key row) .noKeyUpdate
    let changed <- changeFound change (found.filter wanted)
    let others <- changeAll wanted change rest
    pure (changed + others)

def updateWhere (wanted : Row -> Bool) (change : Row -> Row) : Code outer Key Row Label ε Nat := do
  let candidates <- select wanted
  changeAll wanted change candidates

end

variable {strength : Strength}

section

variable {outer : Interface} {Key Row Label ε α : Type} [Keyed Row Key] [DecidableEq Key]
  {law : Law Key Row Label ε} {seen : Chronicle Key Row Label} {transaction : Transaction Key Row Label}
  {fails : Sight Key Row Label -> ε -> Prop}

theorem wp_select {wanted : Row -> Bool} {ends : Sight Key Row Label -> List Row -> Prop} :
    law.contract.wp ends fails (select wanted : Code outer Key Row Label ε _) ⟨seen, some transaction⟩ <->
      ∀ next, law.Drifts transaction.Freezes seen next ->
        ends ⟨next, some (transaction.noting next ((transaction.view next).filter wanted))⟩
          ((transaction.view next).filter wanted) := by
  constructor
  · rintro ⟨-, later⟩ next drifts
    exact later _ _ ⟨next, drifts, .statement rfl (.select wanted)⟩
  · intro later
    refine ⟨rfl, ?_⟩
    rintro answer learned ⟨next, drifts, learns⟩
    cases learns with
    | statement current answers =>
      cases current
      cases answers
      exact later next drifts

theorem wp_acquire {key : Key} {ends : Sight Key Row Label -> Option Row -> Prop} :
    law.contract.wp ends fails (acquire key strength : Code outer Key Row Label ε _)
        ⟨seen, some transaction⟩ <->
      ∀ next, law.Drifts transaction.Freezes seen next ->
        (lookup (transaction.view next) key = none -> ends ⟨next, some transaction⟩ none) ∧
          ∀ row, lookup (transaction.view next) key = some row ->
            ends ⟨next, some ((transaction.noting next [row]).holding [key] strength)⟩ (some row) := by
  constructor
  · rintro ⟨-, later⟩ next drifts
    refine ⟨fun absent => ?_, fun row found => ?_⟩
    · exact later _ _ ⟨next, drifts, .statement rfl (.missing absent)⟩
    · exact later _ _ ⟨next, drifts, .statement rfl (.acquire found trivial)⟩
  · intro later
    refine ⟨rfl, ?_⟩
    rintro answer learned ⟨next, drifts, learns⟩
    cases learns with
    | statement current answers =>
      cases current
      cases answers with
      | missing absent => exact (later next drifts).1 absent
      | acquire found _ => exact (later next drifts).2 _ found

variable {ends : Sight Key Row Label -> Unit -> Prop}

theorem wp_lock {key : Key} :
    law.contract.wp ends fails (lock key strength : Code outer Key Row Label ε _)
        ⟨seen, some transaction⟩ <->
      ∀ next, law.Drifts transaction.Freezes seen next ->
        ends ⟨next, some (transaction.holding [key] strength)⟩ () := by
  constructor
  · rintro ⟨-, later⟩ next drifts
    exact later _ _ ⟨next, drifts, .statement rfl (.claim trivial)⟩
  · intro later
    refine ⟨rfl, ?_⟩
    rintro answer learned ⟨next, drifts, learns⟩
    cases learns with
    | statement current answers =>
      cases current
      cases answers
      exact later next drifts

def Law.Grants (law : Law Key Row Label ε) (transaction : Transaction Key Row Label) (key : Key) : Prop :=
  ∀ guard, law.guard key = some guard -> transaction.Owns guard ∨ guard = key

omit [Keyed Row Key] [DecidableEq Key] in
theorem mayWrite_iff {key : Key} : law.MayWrite ⟨seen, some transaction⟩ key <-> law.Grants transaction key := by
  simp [Law.MayWrite, Law.Grants]

theorem wp_insert {row : Row} {ends : Sight Key Row Label -> Bool -> Prop} :
    law.contract.wp ends fails (insert row : Code outer Key Row Label ε _) ⟨seen, some transaction⟩ <->
      law.Grants transaction (Keyed.key row) ∧
        ∀ next, law.Drifts transaction.Freezes seen next ->
          ((transaction.view next).any (clashes row) = true -> ends ⟨next, some transaction⟩ false) ∧
            ((transaction.view next).any (clashes row) = false ->
              ends
                ⟨next, some ((transaction.writing (.put row)).holding
                  (Keyed.key row :: Keyed.uniques row) .update)⟩ true) := by
  constructor
  · rintro ⟨allowed, later⟩
    refine ⟨mayWrite_iff.1 allowed, fun next drifts => ⟨fun collides => ?_, fun clear => ?_⟩⟩
    · exact later _ _ ⟨next, drifts, .statement rfl (.refuse collides)⟩
    · exact later _ _ ⟨next, drifts, .statement rfl (.insert clear fun _ _ => trivial)⟩
  · rintro ⟨grants, later⟩
    refine ⟨mayWrite_iff.2 grants, ?_⟩
    rintro answer learned ⟨next, drifts, learns⟩
    cases learns with
    | statement current answers =>
      cases current
      cases answers with
      | refuse collides => exact (later next drifts).1 collides
      | insert clear _ => exact (later next drifts).2 clear

theorem wp_put {row : Row} :
    law.contract.wp ends fails (put row : Code outer Key Row Label ε _) ⟨seen, some transaction⟩ <->
      law.Grants transaction (Keyed.key row) ∧
        ∀ next, law.Drifts transaction.Freezes seen next ->
          ends ⟨next, some ((transaction.writing (.put row)).holding [Keyed.key row] .noKeyUpdate)⟩ () := by
  constructor
  · rintro ⟨allowed, later⟩
    refine ⟨mayWrite_iff.1 allowed, fun next drifts => ?_⟩
    exact later _ _ ⟨next, drifts, .statement rfl (.put trivial)⟩
  · rintro ⟨grants, later⟩
    refine ⟨mayWrite_iff.2 grants, ?_⟩
    rintro answer learned ⟨next, drifts, learns⟩
    cases learns with
    | statement current answers =>
      cases current
      cases answers
      exact later next drifts

theorem wp_erase {key : Key} :
    law.contract.wp ends fails (erase key : Code outer Key Row Label ε _) ⟨seen, some transaction⟩ <->
      law.Grants transaction key ∧
        ∀ next, law.Drifts transaction.Freezes seen next ->
          ends ⟨next, some ((transaction.writing (.erase key)).holding [key] .update)⟩ () := by
  constructor
  · rintro ⟨allowed, later⟩
    refine ⟨mayWrite_iff.1 allowed, fun next drifts => ?_⟩
    exact later _ _ ⟨next, drifts, .statement rfl (.erase trivial)⟩
  · rintro ⟨grants, later⟩
    refine ⟨mayWrite_iff.2 grants, ?_⟩
    rintro answer learned ⟨next, drifts, learns⟩
    cases learns with
    | statement current answers =>
      cases current
      cases answers
      exact later next drifts

theorem wp_outside {command : outer.Command} {sight : Sight Key Row Label}
    {ends : Sight Key Row Label -> outer.Answer command -> Prop} :
    law.contract.wp ends fails (outside command : Code outer Key Row Label ε _) sight <->
      ∀ next, law.Drifts (frozenBy sight.transaction) sight.seen next ->
        ∀ answer, ends ⟨next, sight.transaction⟩ answer := by
  constructor
  · rintro ⟨-, later⟩ next drifts answer
    exact later _ _ ⟨next, drifts, .outer⟩
  · intro later
    refine ⟨trivial, ?_⟩
    rintro answer learned ⟨next, drifts, learns⟩
    cases learns with
    | statement current answers => nomatch answers
    | outer => exact later next drifts answer

end

abbrev Assertion (Key Row Label : Type) := Transaction Key Row Label -> Chronicle Key Row Label -> Prop

section

variable {outer : Interface} {Key Row Label ε α β : Type} [Keyed Row Key] [DecidableEq Key]
  (law : Law Key Row Label ε)

def Law.Stable (holds : Assertion Key Row Label) : Prop :=
  ∀ transaction seen next, holds transaction seen -> law.Drifts transaction.Freezes seen next ->
    holds transaction next

/-- From the first assertion it keeps to the law, and the second describes what it returns. -/
def Law.Triple (before : Assertion Key Row Label) (program : Code outer Key Row Label ε α)
    (after : α -> Assertion Key Row Label) : Prop :=
  ∀ seen transaction, law.Lawful seen -> before transaction seen ->
    law.contract.wp
      (fun sight value => ∃ transaction, sight.transaction = some transaction ∧ law.Follows seen sight.seen ∧
        after value transaction sight.seen)
      (fun sight error => sight.transaction.isSome ∧ law.Follows seen sight.seen ∧ law.tolerates error)
      program ⟨seen, some transaction⟩

variable {law} {before : Assertion Key Row Label} {after : α -> Assertion Key Row Label}

theorem stable_of_step {holds : Assertion Key Row Label}
    (keeps : ∀ transaction chronicle entry, law.Lawful chronicle -> holds transaction chronicle ->
      law.permits chronicle entry -> law.Spares transaction.Freezes entry ->
        holds transaction (chronicle.extend entry)) : law.Stable holds := by
  intro transaction seen next held drifts
  induction drifts with
  | refl _ => exact held
  | extend drifts permitted spares ih => exact keeps _ _ _ drifts.lawful ih permitted spares

theorem triple_pure {value : α} (holds : ∀ transaction seen, law.Lawful seen -> before transaction seen ->
      after value transaction seen) :
    law.Triple before (pure value : Code outer Key Row Label ε α) after :=
  fun seen transaction lawful held => ⟨transaction, rfl, .refl lawful, holds transaction seen lawful held⟩

theorem triple_raise {error : ε} (tolerated : law.tolerates error) :
    law.Triple before (.raise error : Code outer Key Row Label ε α) after :=
  fun _ _ lawful _ => ⟨rfl, .refl lawful, tolerated⟩

theorem triple_bind {middle : β -> Assertion Key Row Label} {program : Code outer Key Row Label ε β}
    {rest : β -> Code outer Key Row Label ε α} (first : law.Triple before program middle)
    (second : ∀ value, law.Triple (middle value) (rest value) after) :
    law.Triple before (program >>= rest) after := by
  intro seen transaction lawful held
  rw [wp_bind]
  refine wp_mono (first seen transaction lawful held) ?_ fun _ _ failed => failed
  rintro ⟨next, current⟩ value ⟨transaction, rfl, moved, held⟩
  refine wp_mono (second value next transaction moved.lawful held) ?_ ?_
  · rintro sight result ⟨last, opened, later, ended⟩
    exact ⟨last, opened, moved.trans later, ended⟩
  · rintro sight error ⟨opened, later, tolerated⟩
    exact ⟨opened, moved.trans later, tolerated⟩

variable {program : Code outer Key Row Label ε α}

theorem triple_mono {weaker : Assertion Key Row Label} {stronger : α -> Assertion Key Row Label}
    (triple : law.Triple weaker program stronger)
    (starts : ∀ transaction seen, law.Lawful seen -> before transaction seen -> weaker transaction seen)
    (ends : ∀ value transaction seen, law.Lawful seen -> stronger value transaction seen ->
      after value transaction seen) :
    law.Triple before program after := by
  intro seen transaction lawful held
  refine wp_mono (triple seen transaction lawful (starts _ _ lawful held)) ?_ fun _ _ failed => failed
  rintro sight value ⟨current, opened, moved, held⟩
  exact ⟨current, opened, moved, ends _ _ _ moved.lawful held⟩

theorem triple_exists {ι : Type} {before : ι -> Assertion Key Row Label}
    (triple : ∀ index, law.Triple (before index) program after) :
    law.Triple (fun transaction seen => ∃ index, before index transaction seen) program after := by
  rintro seen transaction lawful ⟨index, held⟩
  exact triple index seen transaction lawful held

theorem triple_and {fact : Prop} (triple : fact -> law.Triple before program after) :
    law.Triple (fun transaction seen => fact ∧ before transaction seen) program after := by
  rintro seen transaction lawful ⟨holds, held⟩
  exact triple holds seen transaction lawful held

theorem triple_given {fact : Prop} (known : ∀ transaction seen, law.Lawful seen -> before transaction seen -> fact)
    (triple : fact -> law.Triple before program after) : law.Triple before program after :=
  fun seen transaction lawful held => triple (known transaction seen lawful held) seen transaction lawful held

theorem triple_demand {condition : Prop} [Decidable condition] {error : ε} (tolerated : law.tolerates error) :
    law.Triple before (.demand condition error : Code outer Key Row Label ε Unit)
      fun _ transaction seen => condition ∧ before transaction seen := by
  intro seen transaction lawful held
  rw [wp_demand]
  exact ⟨fun passed => ⟨transaction, rfl, .refl lawful, passed, held⟩, fun _ => ⟨rfl, .refl lawful, tolerated⟩⟩

theorem triple_assured {condition : Prop} [Decidable condition] {error : ε}
    (holds : ∀ transaction seen, law.Lawful seen -> before transaction seen -> condition) :
    law.Triple before (.demand condition error : Code outer Key Row Label ε Unit) fun _ => before := by
  intro seen transaction lawful held
  rw [wp_demand]
  have passed := holds transaction seen lawful held
  exact ⟨fun _ => ⟨transaction, rfl, .refl lawful, held⟩, fun failed => absurd passed failed⟩

theorem triple_select {wanted : Row -> Bool} {after : List Row -> Assertion Key Row Label}
    (stable : law.Stable before)
    (reads : ∀ transaction next, law.Lawful next -> before transaction next ->
      after ((transaction.view next).filter wanted)
        (transaction.noting next ((transaction.view next).filter wanted)) next) :
    law.Triple before (select wanted : Code outer Key Row Label ε _) after := by
  intro seen transaction lawful held
  rw [wp_select]
  intro next drifts
  exact ⟨_, rfl, drifts.follows, reads _ _ drifts.lawful (stable _ _ _ held drifts)⟩

variable {key : Key}

section

variable (stable : law.Stable before)

include stable

theorem triple_acquire {after : Option Row -> Assertion Key Row Label}
    (missing : ∀ transaction next, law.Lawful next -> before transaction next ->
      lookup (transaction.view next) key = none -> after none transaction next)
    (found : ∀ transaction next row, law.Lawful next -> before transaction next ->
      lookup (transaction.view next) key = some row ->
        after (some row) ((transaction.noting next [row]).holding [key] strength) next) :
    law.Triple before (acquire key strength : Code outer Key Row Label ε _) after := by
  intro seen transaction lawful held
  rw [wp_acquire]
  intro next drifts
  have holds := stable _ _ _ held drifts
  refine ⟨fun absent => ?_, fun row present => ?_⟩
  · exact ⟨_, rfl, drifts.follows, missing _ _ drifts.lawful holds absent⟩
  · exact ⟨_, rfl, drifts.follows, found _ _ _ drifts.lawful holds present⟩

theorem triple_lock {after : Unit -> Assertion Key Row Label}
    (taken : ∀ transaction next, law.Lawful next -> before transaction next ->
      after () (transaction.holding [key] strength) next) :
    law.Triple before (lock key strength : Code outer Key Row Label ε _) after := by
  intro seen transaction lawful held
  rw [wp_lock]
  intro next drifts
  exact ⟨_, rfl, drifts.follows, taken _ _ drifts.lawful (stable _ _ _ held drifts)⟩

theorem triple_insert {row : Row} {after : Bool -> Assertion Key Row Label}
    (grants : ∀ transaction seen, before transaction seen -> law.Grants transaction (Keyed.key row))
    (refused : ∀ transaction next, law.Lawful next -> before transaction next -> after false transaction next)
    (inserted : ∀ transaction next, law.Lawful next -> before transaction next ->
      (transaction.view next).any (clashes row) = false ->
        after true ((transaction.writing (.put row)).holding (Keyed.key row :: Keyed.uniques row) .update)
          next) :
    law.Triple before (insert row : Code outer Key Row Label ε _) after := by
  intro seen transaction lawful held
  rw [wp_insert]
  refine ⟨grants _ _ held, fun next drifts => ?_⟩
  have holds := stable _ _ _ held drifts
  refine ⟨fun _ => ?_, fun clear => ?_⟩
  · exact ⟨_, rfl, drifts.follows, refused _ _ drifts.lawful holds⟩
  · exact ⟨_, rfl, drifts.follows, inserted _ _ drifts.lawful holds clear⟩

theorem triple_put {row : Row} {after : Unit -> Assertion Key Row Label}
    (grants : ∀ transaction seen, before transaction seen -> law.Grants transaction (Keyed.key row))
    (written : ∀ transaction next, law.Lawful next -> before transaction next ->
      after () ((transaction.writing (.put row)).holding [Keyed.key row] .noKeyUpdate) next) :
    law.Triple before (put row : Code outer Key Row Label ε _) after := by
  intro seen transaction lawful held
  rw [wp_put]
  refine ⟨grants _ _ held, fun next drifts => ?_⟩
  exact ⟨_, rfl, drifts.follows, written _ _ drifts.lawful (stable _ _ _ held drifts)⟩

theorem triple_erase {after : Unit -> Assertion Key Row Label}
    (grants : ∀ transaction seen, before transaction seen -> law.Grants transaction key)
    (written : ∀ transaction next, law.Lawful next -> before transaction next ->
      after () ((transaction.writing (.erase key)).holding [key] .update) next) :
    law.Triple before (erase key : Code outer Key Row Label ε _) after := by
  intro seen transaction lawful held
  rw [wp_erase]
  refine ⟨grants _ _ held, fun next drifts => ?_⟩
  exact ⟨_, rfl, drifts.follows, written _ _ drifts.lawful (stable _ _ _ held drifts)⟩

theorem triple_outside {command : outer.Command} :
    law.Triple before (outside command : Code outer Key Row Label ε _) fun _ => before := by
  intro seen transaction lawful held
  rw [wp_outside]
  intro next drifts answer
  exact ⟨_, rfl, drifts.follows, stable _ _ _ held drifts⟩

end

structure Law.Neutral (law : Law Key Row Label ε) (holds : Assertion Key Row Label) : Prop where
  stable : law.Stable holds
  notes : ∀ transaction next rows, law.Lawful next -> holds transaction next ->
    (∀ row ∈ rows, row ∈ transaction.view next) -> holds (transaction.noting next rows) next
  locks : ∀ transaction next keys strength, holds transaction next -> holds (transaction.holding keys strength) next

section

variable (neutral : law.Neutral before)

include neutral

theorem neutral_select {wanted : Row -> Bool} :
    law.Triple before (select wanted : Code outer Key Row Label ε _) fun _ => before :=
  triple_select neutral.stable fun transaction next lawful held =>
    neutral.notes transaction next _ lawful held fun _ member => List.mem_of_mem_filter member

theorem neutral_lock : law.Triple before (lock key strength : Code outer Key Row Label ε _) fun _ => before :=
  triple_lock neutral.stable fun transaction next _ held => neutral.locks transaction next _ _ held

theorem neutral_acquire :
    law.Triple before (acquire key strength : Code outer Key Row Label ε _) fun _ => before := by
  refine triple_acquire neutral.stable (fun _ _ _ held _ => held) fun transaction next row lawful held found => ?_
  refine neutral.locks _ _ _ _ (neutral.notes _ _ _ lawful held fun other member => ?_)
  obtain rfl := List.mem_singleton.1 member
  exact mem_of_lookup found

theorem neutral_acquireAll {rows : List Row} :
    law.Triple before (acquireAll strength rows : Code outer Key Row Label ε _) fun _ => before := by
  induction rows with
  | nil => exact triple_pure fun _ _ _ held => held
  | cons row rest ih =>
    refine triple_bind (neutral_acquire neutral) fun found => ?_
    exact triple_bind ih fun others => triple_pure fun _ _ _ held => held

theorem neutral_selectLocked {wanted : Row -> Bool} :
    law.Triple before (selectLocked wanted strength : Code outer Key Row Label ε _) fun _ => before := by
  refine triple_bind (neutral_select neutral) fun candidates => ?_
  exact triple_bind (neutral_acquireAll neutral) fun locked => triple_pure fun _ _ _ held => held

end

/-- The assertion for a row while it is locked, and that the write ends with the first. -/
structure Law.Updates (law : Law Key Row Label ε) (holds : Assertion Key Row Label)
    (locked : Row -> Assertion Key Row Label) (wanted : Row -> Bool) (change : Row -> Row) : Prop where
  stable : ∀ row, law.Stable (locked row)
  finds : ∀ transaction next row, law.Lawful next -> holds transaction next ->
    lookup (transaction.view next) (Keyed.key row) = some row ->
      locked row ((transaction.noting next [row]).holding [Keyed.key row] .noKeyUpdate) next
  skips : ∀ row transaction next, locked row transaction next -> holds transaction next
  grants : ∀ row transaction next, wanted row = true -> locked row transaction next ->
    law.Grants transaction (Keyed.key (change row))
  writes : ∀ row transaction next, law.Lawful next -> wanted row = true -> locked row transaction next ->
    holds ((transaction.writing (.put (change row))).holding [Keyed.key (change row)] .noKeyUpdate) next

variable {locked : Row -> Assertion Key Row Label} {wanted : Row -> Bool} {change : Row -> Row}

def foundLocked (holds : Assertion Key Row Label) (locked : Row -> Assertion Key Row Label) :
    Option Row -> Assertion Key Row Label
  | some latest => locked latest
  | none => holds

theorem updates_changeFound (updates : law.Updates before locked wanted change) (found : Option Row) :
    law.Triple (foundLocked before locked found)
      (changeFound change (found.filter wanted) : Code outer Key Row Label ε _) fun _ => before := by
  cases found with
  | none => exact triple_pure fun _ _ _ held => held
  | some latest =>
    by_cases selected : wanted latest = true
    · simp only [Option.filter_some, selected, if_true]
      refine triple_bind (triple_put (updates.stable latest) ?_ ?_) fun _ => triple_pure fun _ _ _ held => held
      · exact fun transaction seen held => updates.grants latest transaction seen selected held
      · exact fun transaction next lawful held => updates.writes latest transaction next lawful selected held
    · simp only [Option.filter_some, selected]
      exact triple_pure fun transaction seen _ held => updates.skips latest transaction seen held

theorem updates_changeAll (stable : law.Stable before) (updates : law.Updates before locked wanted change)
    {rows : List Row} :
    law.Triple before (changeAll wanted change rows : Code outer Key Row Label ε _) fun _ => before := by
  induction rows with
  | nil => exact triple_pure fun _ _ _ held => held
  | cons row rest ih =>
    have reads : law.Triple before (acquire (Keyed.key row) .noKeyUpdate : Code outer Key Row Label ε _)
        (foundLocked before locked) := by
      refine triple_acquire stable (fun _ _ _ held _ => held) fun transaction next latest lawful held found => ?_
      have same := key_of_lookup found
      rw [← same] at found ⊢
      exact updates.finds transaction next latest lawful held found
    refine triple_bind reads fun found => triple_bind (updates_changeFound updates found) fun changed => ?_
    exact triple_bind ih fun others => triple_pure fun _ _ _ held => held

theorem updates_updateWhere (neutral : law.Neutral before) (updates : law.Updates before locked wanted change) :
    law.Triple before (updateWhere wanted change : Code outer Key Row Label ε _) fun _ => before :=
  triple_bind (neutral_select neutral) fun _ => updates_changeAll neutral.stable updates

end

section

variable {outer : Interface} {Key Row Label ε α : Type} [Keyed Row Key] [DecidableEq Key]
  {law : Law Key Row Label ε} {seen : Chronicle Key Row Label}

theorem wp_transact {label : Label} {body : Code outer Key Row Label ε α}
    {ends : Sight Key Row Label -> α -> Prop} {raised : Sight Key Row Label -> ε -> Prop}
    (starts : ∀ next, law.Drifts (fun _ => False) seen next ->
      law.contract.wp
        (fun sight value => ∃ transaction, sight.transaction = some transaction ∧
          ∀ next, law.Drifts transaction.Freezes sight.seen next ->
            law.permits next transaction.entry ∧ ends ⟨next.extend transaction.entry, none⟩ value)
        (fun sight error => sight.transaction.isSome ∧ law.tolerates error ∧
          ∀ next, law.Drifts (frozenBy sight.transaction) sight.seen next -> raised ⟨next, none⟩ error)
        body ⟨next, some (.start label)⟩) :
    law.contract.wp ends raised (transact label body) ⟨seen, none⟩ := by
  unfold transact
  rw [wp_bind]
  refine ⟨rfl, ?_⟩
  rintro answer learned ⟨next, drifts, learns⟩
  cases learns with
  | statement current _ => nomatch current
  | begin _ =>
    rw [wp_done, wp_bind, wp_handle]
    refine wp_mono (starts next drifts) ?_ ?_
    · rintro ⟨seen, transaction⟩ value ⟨current, rfl, permitted⟩
      rw [wp_bind]
      refine ⟨⟨current, rfl, fun later drifts => (permitted later drifts).1⟩, ?_⟩
      rintro answer learned ⟨later, drifts, learns⟩
      cases learns with
      | statement _ answers => nomatch answers
      | commit same =>
        cases same
        exact (permitted later drifts).2
    · rintro ⟨seen, transaction⟩ error ⟨opened, tolerated, raises⟩
      rw [wp_bind]
      refine ⟨⟨opened, tolerated⟩, ?_⟩
      rintro answer learned ⟨later, drifts, learns⟩
      cases learns with
      | statement _ answers => nomatch answers
      | rollback => exact raises later drifts

theorem wp_transact_of_triple {label : Label} {body : Code outer Key Row Label ε α}
    {after : α -> Assertion Key Row Label} {ends : Sight Key Row Label -> α -> Prop}
    {raised : Sight Key Row Label -> ε -> Prop}
    (body_triple : ∀ next, law.Drifts (fun _ => False) seen next ->
      law.Triple (fun transaction chronicle => transaction = .start label ∧ chronicle = next) body after)
    (stable : ∀ value, law.Stable (after value))
    (permits : ∀ value transaction next, law.Lawful next -> after value transaction next ->
      law.permits next transaction.entry ∧ ends ⟨next.extend transaction.entry, none⟩ value)
    (raises : ∀ error next, law.Lawful next -> raised ⟨next, none⟩ error) :
    law.contract.wp ends raised (transact label body) ⟨seen, none⟩ := by
  refine wp_transact fun next drifts => ?_
  refine wp_mono (body_triple next drifts next _ drifts.lawful ⟨rfl, rfl⟩) ?_ ?_
  · rintro ⟨seen, current⟩ value ⟨transaction, rfl, _, held⟩
    refine ⟨transaction, rfl, fun later drifts => ?_⟩
    exact permits value transaction later drifts.lawful (stable value _ _ _ held drifts)
  · rintro ⟨seen, current⟩ error ⟨opened, _, tolerated⟩
    exact ⟨opened, tolerated, fun later drifts => raises error later drifts.lawful⟩

end

end Locking
