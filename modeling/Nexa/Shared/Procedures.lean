import Nexa.Shared.Statements

namespace Locking

open Interaction List

section

variable {outer : Interface} {Key Row Label ε α : Type} [Keyed Row Key] [DecidableEq Key]

def Touches (harmless : Key -> Prop) : Command outer Key Row Label ε -> Prop
  | .begin _ => False
  | .commit => False
  | .rollback _ => False
  | .select _ => True
  | .acquire _ _ => True
  | .claim _ _ => True
  | .insert row => harmless (Keyed.key row)
  | .put row => harmless (Keyed.key row)
  | .erase key => harmless key
  | .outer _ => True

structure Law.Tolerant (law : Law Key Row Label ε) (harmless : Key -> Prop) (holds : Assertion Key Row Label) :
    Prop extends law.Neutral holds where
  unguarded : ∀ key, harmless key -> law.guard key = none
  writes : ∀ transaction next change keys strength, harmless change.key -> law.Lawful next ->
    holds transaction next -> holds ((transaction.writing change).holding keys strength) next

variable {law : Law Key Row Label ε} {harmless : Key -> Prop} {before : Assertion Key Row Label}

theorem Law.Tolerant.grants (tolerant : law.Tolerant harmless before) {key : Key} (touched : harmless key)
    (transaction : Transaction Key Row Label) : law.Grants transaction key := by
  intro place guarded
  rw [tolerant.unguarded key touched] at guarded
  cases guarded

theorem triple_confined (tolerant : law.Tolerant harmless before) {program : Code outer Key Row Label ε α}
    (confined : program.Confined (Touches harmless) law.tolerates) :
    law.Triple before program fun _ => before := by
  induction program with
  | done value => exact triple_pure fun _ _ _ held => held
  | raise error => exact triple_raise confined
  | call command next ih =>
    obtain ⟨touches, later⟩ := confined
    have rest : ∀ answer, law.Triple before (next answer) fun _ => before := fun answer => ih answer (later answer)
    -- A program that gives a command performs it and goes on.
    show law.Triple before (Program.perform command >>= next) fun _ => before
    refine triple_bind ?_ rest
    cases command with
    | begin | commit | rollback => exact touches.elim
    | select wanted => exact neutral_select tolerant.toNeutral
    | acquire key strength => exact neutral_acquire tolerant.toNeutral
    | claim key strength => exact neutral_lock tolerant.toNeutral
    | insert row =>
      refine triple_insert tolerant.stable (fun transaction _ _ => tolerant.grants touches transaction) ?_ ?_
      · exact fun _ _ _ held => held
      · exact fun transaction next lawful held _ => tolerant.writes _ _ _ _ _ touches lawful held
    | put row =>
      refine triple_put tolerant.stable (fun transaction _ _ => tolerant.grants touches transaction) ?_
      exact fun transaction next lawful held => tolerant.writes _ _ _ _ _ touches lawful held
    | erase key =>
      refine triple_erase tolerant.stable (fun transaction _ _ => tolerant.grants touches transaction) ?_
      exact fun transaction next lawful held => tolerant.writes _ _ _ _ _ touches lawful held
    | outer command => exact triple_outside tolerant.stable

end

section

variable {outer : Interface} {Key Row Label ε α : Type} [Keyed Row Key] [DecidableEq Key]
  {law : Law Key Row Label ε} {before : Assertion Key Row Label}

theorem filter_eq_of_key {rows : List Row} {key : Key} {row : Row} {wanted : Row -> Bool}
    (distinct : Distinct rows) (found : lookup rows key = some row) (selected : wanted row = true)
    (same : ∀ other, wanted other = true -> Keyed.key other = key) : rows.filter wanted = [row] := by
  induction rows with
  | nil => simp [lookup] at found
  | cons first rest ih =>
    obtain ⟨absent, distinct⟩ := nodup_cons.1 distinct
    by_cases here : Keyed.key first = key
    · obtain rfl : first = row := by simpa [lookup, here] using found
      have others : rest.filter wanted = [] := by
        refine filter_eq_nil_iff.2 fun other member chosen => absent ?_
        rw [here, ← same other chosen]
        exact mem_map_of_mem member
      simp [selected, others]
    · have unwanted : ¬ wanted first = true := fun chosen => here (same first chosen)
      have later : lookup rest key = some row := by simpa [lookup, here] using found
      simp [unwanted, ih distinct later]

theorem triple_updateOne {key : Key} {old : Row} {wanted : Row -> Bool} {change : Row -> Row}
    {after : Assertion Key Row Label} (neutral : law.Neutral before)
    (distinct : ∀ chronicle, law.Lawful chronicle -> Distinct chronicle.rows)
    (sees : ∀ transaction next, law.Lawful next -> before transaction next ->
      lookup (transaction.view next) key = some old)
    (selected : wanted old = true) (same : ∀ row, wanted row = true -> Keyed.key row = key)
    (kept : Keyed.key (change old) = key)
    (grants : ∀ transaction next, before transaction next -> law.Grants transaction key)
    (writes : ∀ transaction next, law.Lawful next -> before transaction next ->
      after ((transaction.writing (.put (change old))).holding [key] .noKeyUpdate) next) :
    law.Triple before (updateWhere wanted change : Code outer Key Row Label ε _)
      fun count transaction next => count = 1 ∧ after transaction next := by
  have reads : law.Triple before (select wanted : Code outer Key Row Label ε _)
      fun rows transaction next => rows = [old] ∧ before transaction next := by
    refine triple_select neutral.stable fun transaction next lawful held => ⟨?_, ?_⟩
    · exact filter_eq_of_key ((distinct next lawful).applyAll _) (sees transaction next lawful held) selected same
    · exact neutral.notes _ _ _ lawful held fun _ member => mem_of_mem_filter member
  have locks : law.Triple before (acquire key .noKeyUpdate : Code outer Key Row Label ε _)
      fun found transaction next => found = some old ∧ before transaction next := by
    refine triple_acquire neutral.stable (fun transaction next lawful held absent => ?_)
      fun transaction next row lawful held found => ⟨?_, ?_⟩
    · rw [sees transaction next lawful held] at absent
      cases absent
    · rw [← found]
      exact sees transaction next lawful held
    · refine neutral.locks _ _ _ _ (neutral.notes _ _ _ lawful held fun other member => ?_)
      obtain rfl := mem_singleton.1 member
      exact mem_of_lookup found
  have changes : law.Triple before (changeFound change (some old) : Code outer Key Row Label ε _)
      fun count transaction next => count = 1 ∧ after transaction next := by
    refine triple_bind (triple_put neutral.stable (fun transaction next held => ?_)
      fun transaction next lawful held => ?_) fun _ => triple_pure fun _ _ _ held => ⟨rfl, held⟩
    · exact kept.symm ▸ grants transaction next held
    · exact kept.symm ▸ writes transaction next lawful held
  refine triple_bind reads fun rows => triple_and fun only => ?_
  subst only
  have last : law.Triple after (changeAll wanted change [] : Code outer Key Row Label ε _)
      fun others transaction next => others = 0 ∧ after transaction next :=
    triple_pure fun _ _ _ held => ⟨rfl, held⟩
  have first : law.Triple before (acquire (Keyed.key old) .noKeyUpdate : Code outer Key Row Label ε _)
      fun found transaction next => found = some old ∧ before transaction next := by
    rw [same old selected]
    exact locks
  refine triple_bind first fun found => triple_and fun present => ?_
  subst present
  simp only [Option.filter_some, selected, if_true]
  refine triple_bind changes fun count => triple_and fun one => triple_bind last fun others => ?_
  exact triple_and fun none_left => triple_pure fun _ _ _ held => ⟨by omega, held⟩

end

section

variable {outer : Interface} {Key Row Label ε α β : Type} [Keyed Row Key] [DecidableEq Key]
  (law : Law Key Row Label ε)

def Law.Persistent (holds : Chronicle Key Row Label -> Prop) : Prop :=
  ∀ chronicle entry, law.Lawful chronicle -> holds chronicle -> law.permits chronicle entry ->
    holds (chronicle.extend entry)

/-- Whole transactions. Where one raises, the error is tolerated, and what held before holds still. -/
def Law.Runs (before : Chronicle Key Row Label -> Prop) (program : Code outer Key Row Label ε α)
    (after : α -> Chronicle Key Row Label -> Prop) : Prop :=
  ∀ seen, before seen ->
    law.contract.wp (fun sight value => sight.transaction = none ∧ after value sight.seen)
      (fun sight error => sight.transaction = none ∧ law.tolerates error ∧ before sight.seen) program ⟨seen, none⟩

variable {law} {before : Chronicle Key Row Label -> Prop} {after : α -> Chronicle Key Row Label -> Prop}

theorem Law.Persistent.drifts {frozen : Key -> Prop} {seen next : Chronicle Key Row Label}
    (persistent : law.Persistent before) (held : before seen) (drifts : law.Drifts frozen seen next) :
    before next := by
  induction drifts with
  | refl _ => exact held
  | extend drifts permitted _ ih => exact persistent _ _ drifts.lawful ih permitted

theorem persistent_and {fact : Prop} (persistent : law.Persistent before) :
    law.Persistent fun seen => fact ∧ before seen :=
  fun _ _ lawful held permitted => ⟨held.1, persistent _ _ lawful held.2 permitted⟩

theorem runs_pure {value : α} (holds : ∀ seen, before seen -> after value seen) :
    law.Runs before (pure value : Code outer Key Row Label ε α) after :=
  fun seen held => ⟨rfl, holds seen held⟩

theorem runs_raise {error : ε} (tolerated : law.tolerates error) :
    law.Runs before (.raise error : Code outer Key Row Label ε α) after :=
  fun _ held => ⟨rfl, tolerated, held⟩

variable {program : Code outer Key Row Label ε β} {rest : β -> Code outer Key Row Label ε α}

theorem runs_bind {middle : β -> Chronicle Key Row Label -> Prop} (first : law.Runs before program middle)
    (second : ∀ value, law.Runs (middle value) (rest value) after)
    (weakens : ∀ value seen, middle value seen -> before seen) :
    law.Runs before (program >>= rest) after := by
  intro seen held
  rw [wp_bind]
  refine wp_mono (first seen held) ?_ fun _ _ failed => failed
  rintro ⟨next, current⟩ value ⟨rfl, reached⟩
  refine wp_mono (second value next reached) (fun _ _ ended => ended) ?_
  exact fun sight error failed => ⟨failed.1, failed.2.1, weakens value _ failed.2.2⟩

theorem runs_then
    (first : law.Runs before program fun _ => before) (second : ∀ value, law.Runs before (rest value) after) :
    law.Runs before (program >>= rest) after :=
  runs_bind first second fun _ _ held => held

theorem runs_thenOf {fact : β -> Prop} (first : law.Runs before program fun value seen => fact value ∧ before seen)
    (second : ∀ value, fact value -> law.Runs before (rest value) after) :
    law.Runs before (program >>= rest) after := by
  refine runs_bind first (fun value seen held => ?_) fun _ _ held => held.2
  refine wp_mono (second value held.1 seen held.2) (fun _ _ ended => ended) fun _ _ failed => ?_
  exact ⟨failed.1, failed.2.1, held.1, failed.2.2⟩

theorem runs_handle {program : Code outer Key Row Label ε α} {handler : ε -> Code outer Key Row Label ε α}
    (first : law.Runs before program after)
    (second : ∀ error, law.tolerates error -> law.Runs before (handler error) after) :
    law.Runs before (program.handle handler) after := by
  intro seen held
  rw [wp_handle]
  refine wp_mono (first seen held) (fun _ _ ended => ended) ?_
  rintro ⟨next, current⟩ error ⟨rfl, tolerated, kept⟩
  exact second error tolerated next kept

theorem runs_outside {command : outer.Command} (persistent : law.Persistent before) :
    law.Runs before (outside command : Code outer Key Row Label ε _) fun _ => before := by
  intro seen held
  rw [wp_outside]
  exact fun next drifts answer => ⟨rfl, persistent.drifts held drifts⟩

theorem runs_demand {condition : Prop} [Decidable condition] {error : ε} (tolerated : law.tolerates error) :
    law.Runs before (.demand condition error : Code outer Key Row Label ε Unit)
      fun _ seen => condition ∧ before seen := by
  intro seen held
  rw [wp_demand]
  exact ⟨fun passed => ⟨rfl, passed, held⟩, fun _ => ⟨rfl, tolerated, held⟩⟩

theorem runs_mono {weaker : Chronicle Key Row Label -> Prop} {stronger : α -> Chronicle Key Row Label -> Prop}
    {program : Code outer Key Row Label ε α} (runs : law.Runs weaker program stronger)
    (starts : ∀ seen, before seen <-> weaker seen) (ends : ∀ value seen, stronger value seen -> after value seen) :
    law.Runs before program after := by
  intro seen held
  refine wp_mono (runs seen ((starts seen).1 held)) ?_ ?_
  · exact fun sight value ended => ⟨ended.1, ends value _ ended.2⟩
  · exact fun sight error failed => ⟨failed.1, failed.2.1, (starts _).2 failed.2.2⟩

def Outside : Command outer Key Row Label ε -> Prop
  | .outer _ => True
  | _ => False

theorem runs_confined (persistent : law.Persistent before) {program : Code outer Key Row Label ε α}
    (confined : program.Confined Outside law.tolerates) : law.Runs before program fun _ => before := by
  induction program with
  | done value => exact runs_pure fun _ held => held
  | raise error => exact runs_raise confined
  | call command next ih =>
    show law.Runs before (Program.perform command >>= next) fun _ => before
    refine runs_then ?_ fun answer => ih answer (confined.2 answer)
    cases command with
    | outer command => exact runs_outside persistent
    | _ => exact confined.1.elim

def Opens (label : Label) (before : Chronicle Key Row Label -> Prop) : Assertion Key Row Label :=
  fun transaction chronicle => transaction = .start label ∧ before chronicle

theorem runs_transact {label : Label} {body : Code outer Key Row Label ε α}
    {ended : α -> Assertion Key Row Label} (persistent : law.Persistent before)
    (triple : law.Triple (Opens label before) body ended) (stable : ∀ value, law.Stable (ended value))
    (permits : ∀ value transaction next, law.Lawful next -> ended value transaction next ->
      law.permits next transaction.entry ∧ after value (next.extend transaction.entry)) :
    law.Runs before (transact label body) after := by
  intro seen held
  refine wp_transact fun next drifts => ?_
  have started : Opens label before (.start label) next := ⟨rfl, persistent.drifts held drifts⟩
  refine wp_mono (triple next _ drifts.lawful started) ?_ ?_
  · rintro ⟨seen, current⟩ value ⟨transaction, rfl, _, reached⟩
    refine ⟨transaction, rfl, fun later drifts => ?_⟩
    have allowed := permits value transaction later drifts.lawful (stable value _ _ _ reached drifts)
    exact ⟨allowed.1, rfl, allowed.2⟩
  · rintro ⟨later, current⟩ error ⟨opened, moved, tolerated⟩
    refine ⟨opened, tolerated, fun last drifts => ⟨rfl, tolerated, ?_⟩⟩
    exact persistent.drifts (persistent.drifts started.2 moved) drifts

end

end Locking
