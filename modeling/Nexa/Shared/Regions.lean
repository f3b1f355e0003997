import Nexa.Shared.Locking

/-! A transaction writes a row only when it holds the guard of its key exclusively, so it sees the rows under a guard
as if it ran alone. -/

namespace Locking

open Interaction List Function Transaction

section

variable {Key Row Label : Type} [Keyed Row Key] [DecidableEq Key]

/-- The rows to start from, the guard of each key, and the entries that may follow. -/
structure Law (Key Row Label ε : Type) where
  initial : List Row -> Prop
  guard : Key -> Option Key
  permits : Chronicle Key Row Label -> Entry Key Row Label -> Prop
  tolerates : ε -> Prop

variable {ε : Type} {law : Law Key Row Label ε}

inductive Law.Lawful (law : Law Key Row Label ε) : Chronicle Key Row Label -> Prop where
  | initial {rows : List Row} (begins : law.initial rows) : Lawful law ⟨rows, []⟩
  | extend {chronicle : Chronicle Key Row Label} {entry : Entry Key Row Label}
      (lawful : Lawful law chronicle) (permitted : law.permits chronicle entry) :
      Lawful law (chronicle.extend entry)

def Law.Spares (law : Law Key Row Label ε) (frozen : Key -> Prop) (entry : Entry Key Row Label) : Prop :=
  ∀ change ∈ entry.written, ∀ guard, law.guard change.key = some guard -> ¬ frozen guard

inductive Law.Drifts (law : Law Key Row Label ε) (frozen : Key -> Prop) (seen : Chronicle Key Row Label) :
    Chronicle Key Row Label -> Prop where
  | refl (lawful : law.Lawful seen) : Drifts law frozen seen seen
  | extend {next : Chronicle Key Row Label} {entry : Entry Key Row Label} (drifts : Drifts law frozen seen next)
      (permitted : law.permits next entry) (spares : law.Spares frozen entry) :
      Drifts law frozen seen (next.extend entry)

variable {frozen : Key -> Prop} {seen next : Chronicle Key Row Label}

theorem Law.Drifts.lawful (drifts : law.Drifts frozen seen next) : law.Lawful next := by
  induction drifts with
  | refl lawful => exact lawful
  | extend _ permitted _ ih => exact ih.extend permitted

theorem Law.Spares.under_eq {entry : Entry Key Row Label}
    (spares : law.Spares frozen entry) {place : Key} (held : frozen place) (rows : List Row) :
    under law.guard place (applyAll rows entry.written) = under law.guard place rows :=
  under_applyAll_foreign (fun change written guarded => spares change written _ guarded held) _

theorem Law.Spares.lookup_eq {entry : Entry Key Row Label}
    (spares : law.Spares frozen entry) {key place : Key} (guarded : law.guard key = some place)
    (held : frozen place) (rows : List Row) : lookup (applyAll rows entry.written) key = lookup rows key := by
  rw [← lookup_under guarded, spares.under_eq held, lookup_under guarded]

theorem Law.Drifts.under_eq (drifts : law.Drifts frozen seen next) {place : Key} (held : frozen place) :
    under law.guard place next.rows = under law.guard place seen.rows := by
  induction drifts with
  | refl _ => rfl
  | extend _ _ spares ih => rw [← ih]; exact spares.under_eq held _

theorem Law.Drifts.lookup_eq
    (drifts : law.Drifts frozen seen next) {key place : Key} (guarded : law.guard key = some place)
    (held : frozen place) : lookup next.rows key = lookup seen.rows key := by
  rw [← lookup_under guarded, drifts.under_eq held, lookup_under guarded]

abbrev Law.Follows (law : Law Key Row Label ε) (seen next : Chronicle Key Row Label) : Prop :=
  law.Drifts (fun _ => False) seen next

theorem Law.Drifts.follows (drifts : law.Drifts frozen seen next) : law.Follows seen next := by
  induction drifts with
  | refl lawful => exact .refl lawful
  | extend _ permitted _ ih => exact .extend ih permitted fun _ _ _ _ => id

theorem Law.Drifts.trans {first middle last : Chronicle Key Row Label}
    (before : law.Drifts frozen first middle) (after : law.Drifts frozen middle last) :
    law.Drifts frozen first last := by
  induction after with
  | refl _ => exact before
  | extend _ permitted spares ih => exact .extend ih permitted spares

/-- What a transaction freezes is what its locks freeze, and nothing is frozen outside of one. -/
def frozenBy : Option (Transaction Key Row Label) -> Key -> Prop
  | none, _ => False
  | some transaction, key => transaction.Freezes key

end

section

variable {outer : Interface} {Process Key Row Label ε Outside : Type} [Keyed Row Key] [DecidableEq Key]
  [DecidableEq Process]

structure Sight (Key Row Label : Type) where
  seen : Chronicle Key Row Label
  transaction : Option (Transaction Key Row Label)

def Law.MayWrite (law : Law Key Row Label ε) (sight : Sight Key Row Label) (key : Key) : Prop :=
  ∃ transaction, sight.transaction = some transaction ∧
    ∀ guard, law.guard key = some guard -> transaction.Owns guard ∨ guard = key

def Law.allows (law : Law Key Row Label ε) (sight : Sight Key Row Label) :
    Command outer Key Row Label ε -> Prop
  | .begin _ => sight.transaction = none
  | .commit =>
    ∃ transaction, sight.transaction = some transaction ∧
      ∀ next, law.Drifts transaction.Freezes sight.seen next -> law.permits next transaction.entry
  | .rollback error => sight.transaction.isSome ∧ law.tolerates error
  | .select _ => sight.transaction.isSome
  | .acquire _ _ => sight.transaction.isSome
  | .claim _ _ => sight.transaction.isSome
  | .insert row => law.MayWrite sight (Keyed.key row)
  | .put row => law.MayWrite sight (Keyed.key row)
  | .erase key => law.MayWrite sight key
  | .outer _ => True

inductive Learns (sight : Sight Key Row Label) (next : Chronicle Key Row Label) :
    (command : Command outer Key Row Label ε) -> command.Answer -> Sight Key Row Label -> Prop where
  | begin {label : Label} (closed : sight.transaction = none) :
      Learns sight next (.begin label) () ⟨next, some (.start label)⟩
  | commit {transaction : Transaction Key Row Label} (current : sight.transaction = some transaction) :
      Learns sight next .commit () ⟨next.extend transaction.entry, none⟩
  | rollback {error : ε} : Learns sight next (.rollback error) () ⟨next, none⟩
  | statement {transaction after : Transaction Key Row Label} {command : Command outer Key Row Label ε}
      {answer : command.Answer} (current : sight.transaction = some transaction)
      (answers : Statement next (fun _ _ => True) transaction command answer after) :
      Learns sight next command answer ⟨next, some after⟩
  | outer {command : outer.Command} {answer : outer.Answer command} :
      Learns sight next (.outer command) answer ⟨next, sight.transaction⟩

def Law.contract (law : Law Key Row Label ε) : Contract (interface outer Key Row Label ε) (Sight Key Row Label) where
  allows := law.allows
  learns := fun sight command answer learned =>
    ∃ next, law.Drifts (frozenBy sight.transaction) sight.seen next ∧ Learns sight next command answer learned

def Law.Knows (law : Law Key Row Label ε) (process : Process) (world : World Process Key Row Label ε Outside)
    (sight : Sight Key Row Label) : Prop :=
  world.opened process = sight.transaction ∧ law.Drifts (frozenBy sight.transaction) sight.seen world.chronicle

def Idle (sight : Sight Key Row Label) : Prop := sight.transaction = none

structure Law.Holds (law : Law Key Row Label ε) (world : World Process Key Row Label ε Outside) : Prop where
  lawful : law.Lawful world.chronicle
  owned : ∀ process transaction, world.opened process = some transaction ->
    ∀ change ∈ transaction.written, ∀ guard, law.guard change.key = some guard -> transaction.Owns guard
  apart : ∀ one other transaction foreign, one ≠ other -> world.opened one = some transaction ->
    world.opened other = some foreign ->
      ∀ key mine taken, (key, mine) ∈ transaction.held -> (key, taken) ∈ foreign.held -> mine.conflicts taken = false
  tolerated : ∀ error ∈ world.failures, law.tolerates error

variable {law : Law Key Row Label ε} {world : World Process Key Row Label ε Outside} {process : Process}

variable {key : Key} {transaction : Transaction Key Row Label}

omit [DecidableEq Process] in
theorem Law.Holds.not_owns (holds : law.Holds world) {other : Process}
    {foreign : Transaction Key Row Label} (different : process ≠ other)
    (current : world.opened process = some transaction) (opened : world.opened other = some foreign)
    (freezes : transaction.Freezes key) : ¬ foreign.Owns key := by
  rintro ⟨taken, theirs, exclusive⟩
  obtain ⟨mine, held, freezing⟩ := freezes
  have clear := holds.apart process other _ _ different current opened key mine taken held theirs
  rw [freezing.conflicts exclusive] at clear
  cases clear

theorem Law.Holds.close (holds : law.Holds world) {chronicle : Chronicle Key Row Label} {failures : List ε}
    {outside : Outside} (lawful : law.Lawful chronicle) (tolerated : ∀ error ∈ failures, law.tolerates error) :
    law.Holds ⟨chronicle, update world.opened process none, failures, outside⟩ where
  lawful := lawful
  owned := by
    intro other transaction opened
    by_cases same : other = process
    · subst same
      simp at opened
    · simp only [update_of_ne same] at opened
      exact holds.owned other transaction opened
  apart := by
    intro one other transaction foreign different first second
    by_cases mine : one = process
    · subst mine
      simp at first
    by_cases theirs : other = process
    · subst theirs
      simp at second
    simp only [update_of_ne mine] at first
    simp only [update_of_ne theirs] at second
    exact holds.apart one other transaction foreign different first second
  tolerated := tolerated

theorem Law.Holds.replace (holds : law.Holds world) {next : Transaction Key Row Label}
    (owned : ∀ change ∈ next.written, ∀ guard, law.guard change.key = some guard -> next.Owns guard)
    (free : ∀ key strength, (key, strength) ∈ next.held -> Free world.opened process key strength) :
    law.Holds { world with opened := update world.opened process (some next) } where
  lawful := holds.lawful
  owned := by
    intro other transaction opened
    by_cases same : other = process
    · subst same
      simp only [update_self, Option.some.injEq] at opened
      exact opened ▸ owned
    · simp only [update_of_ne same] at opened
      exact holds.owned other transaction opened
  apart := by
    intro one other transaction foreign different first second key mine taken held theirs
    by_cases same : one = process
    · subst same
      simp only [update_self, Option.some.injEq] at first
      subst first
      simp only [update_of_ne (Ne.symm different)] at second
      exact free key mine held other foreign (Ne.symm different) second taken theirs
    by_cases same : other = process
    · subst same
      simp only [update_self, Option.some.injEq] at second
      subst second
      simp only [update_of_ne different] at first
      rw [conflicts_comm]
      exact free key taken theirs one transaction different first mine held
    simp only [update_of_ne ‹one ≠ process›] at first
    simp only [update_of_ne same] at second
    exact holds.apart one other transaction foreign different first second key mine taken held theirs
  tolerated := holds.tolerated

variable {seen : Chronicle Key Row Label}

section

variable {chronicle : Chronicle Key Row Label} {free : Key -> Strength -> Prop}
  {transaction next : Transaction Key Row Label} {command : Command outer Key Row Label ε}
  {answer : command.Answer}

section

variable (answers : Statement chronicle free transaction command answer next)

include answers

theorem Statement.anyway : Statement chronicle (fun _ _ => True) transaction command answer next := by
  cases answers with
  | select wanted => exact .select wanted
  | missing absent => exact .missing absent
  | acquire found _ => exact .acquire found trivial
  | claim _ => exact .claim trivial
  | refuse collides => exact .refuse collides
  | insert clear _ => exact .insert clear fun _ _ => trivial
  | put _ => exact .put trivial
  | erase _ => exact .erase trivial

theorem Statement.held_subset : transaction.held ⊆ next.held := by
  cases answers <;> simp [noting, holding, writing]

theorem Statement.frees
    {strength : Strength} (held : (key, strength) ∈ next.held) :
    (key, strength) ∈ transaction.held ∨ free key strength := by
  cases answers with
  | select | missing | refuse => exact .inl held
  | acquire found frees | claim frees | put frees | erase frees =>
    obtain ⟨rfl, rfl⟩ | before := mem_cons.1 held
    · exact .inr frees
    · exact .inl before
  | insert clear frees =>
    obtain taken | before := mem_append.1 held
    · obtain ⟨unique, member, same⟩ := mem_map.1 taken
      cases same
      exact .inr (frees _ member)
    · exact .inl before

end

omit [Keyed Row Key] [DecidableEq Key] in
theorem Transaction.owns_holding {keys : List Key} {strength : Strength} (exclusive : strength.Exclusive)
    (member : key ∈ keys) : (transaction.holding keys strength).Owns key :=
  ⟨strength, mem_append_left _ (mem_map_of_mem member), exclusive⟩

omit [Keyed Row Key] [DecidableEq Key] in
theorem Transaction.Owns.mono (owns : transaction.Owns key) (subset : transaction.held ⊆ next.held) :
    next.Owns key := by
  obtain ⟨strength, held, exclusive⟩ := owns
  exact ⟨strength, subset held, exclusive⟩

omit [Keyed Row Key] [DecidableEq Key] in
theorem Transaction.Owns.freezes (owns : transaction.Owns key) : transaction.Freezes key := by
  obtain ⟨strength, held, exclusive⟩ := owns
  exact ⟨strength, held, exclusive.freezing⟩

omit [Keyed Row Key] [DecidableEq Key] in
theorem Law.MayWrite.owns
    (may : law.MayWrite ⟨seen, some transaction⟩ key) (subset : transaction.held ⊆ next.held)
    (takes : next.Owns key) {guard : Key} (guarded : law.guard key = some guard) : next.Owns guard := by
  obtain ⟨current, same, owned⟩ := may
  cases same
  obtain owns | rfl := owned guard guarded
  · exact owns.mono subset
  · exact takes

theorem Statement.owned (answers : Statement chronicle free transaction command answer next)
    (allowed : law.allows ⟨seen, some transaction⟩ command) {change : Change Key Row}
    (written : change ∈ next.written) :
    change ∈ transaction.written ∨ ∀ guard, law.guard change.key = some guard -> next.Owns guard := by
  have subset := answers.held_subset
  cases answers with
  | select | missing | refuse | acquire | claim => exact .inl written
  | insert | put | erase =>
    obtain before | last := mem_append.1 written
    · exact .inl before
    · obtain rfl := mem_singleton.1 last
      refine .inr fun guard => Law.MayWrite.owns allowed subset (owns_holding ?_ ?_)
      · simp [Strength.Exclusive]
      · simp

end

theorem Law.Knows.other {other : Process} {sight : Sight Key Row Label}
    {opened : Option (Transaction Key Row Label)} {failures : List ε} {outside : Outside}
    (knows : law.Knows other world sight) (different : other ≠ process) :
    law.Knows other
      (⟨world.chronicle, update world.opened process opened, failures, outside⟩ :
        World Process Key Row Label ε Outside) sight := by
  refine ⟨?_, knows.2⟩
  simp only [update_of_ne different]
  exact knows.1

theorem Law.Holds.statement (holds : law.Holds world)
    {next : Transaction Key Row Label} {command : Command outer Key Row Label ε}
    {answer : command.Answer} (current : world.opened process = some transaction)
    (allowed : law.allows ⟨seen, some transaction⟩ command)
    (answers : Statement world.chronicle (Free world.opened process) transaction command answer next) :
    law.Holds { world with opened := update world.opened process (some next) } := by
  refine holds.replace (fun change written guard guarded => ?_) (fun key strength held => ?_)
  · obtain before | owned := answers.owned allowed written
    · exact (holds.owned _ _ current change before guard guarded).mono answers.held_subset
    · exact owned guard guarded
  · obtain before | free := answers.frees held
    · intro other foreign different opened taken theirs
      exact holds.apart _ _ _ _ (Ne.symm different) current opened key strength taken before theirs
    · exact free

omit [DecidableEq Process] in
theorem Law.Holds.spares (holds : law.Holds world) {other : Process}
    (different : other ≠ process) (current : world.opened process = some transaction) :
    law.Spares (frozenBy (world.opened other)) transaction.entry := by
  intro change written guard guarded frozen
  cases opened : world.opened other with
  | none =>
    rw [opened] at frozen
    exact frozen
  | some foreign =>
    rw [opened] at frozen
    exact holds.not_owns different opened current frozen
      (holds.owned _ _ current change written guard guarded)

theorem Law.secure (law : Law Key Row Label ε) (outside : Shared outer Process Outside) :
    law.contract.Secure (database outside : Shared (interface outer Key Row Label ε) Process _)
      law.Holds law.Knows Idle where
  executes := by
    intro process world next sight command answer holds knows allowed executes
    obtain ⟨seen, transaction⟩ := sight
    obtain ⟨opened, drifts⟩ := knows
    cases executes with
    | begin closed =>
      have fresh : transaction = none := allowed
      subst fresh
      refine ⟨?_, ⟨_, ⟨world.chronicle, drifts, .begin rfl⟩, by simp, .refl holds.lawful⟩, ?_⟩
      · exact holds.replace (by simp [start]) (by simp [start])
      · exact fun other knowledge different knew => knew.other different
    | commit current =>
      obtain ⟨mine, same, permitted⟩ := allowed
      cases same
      rw [current] at opened
      cases opened
      have permits := permitted _ drifts
      refine ⟨holds.close (holds.lawful.extend permits) holds.tolerated, ⟨_, ⟨_, drifts, .commit rfl⟩, ?_⟩, ?_⟩
      · exact ⟨by simp, .refl (holds.lawful.extend permits)⟩
      · intro other knowledge different knew
        refine ⟨by simpa [update_of_ne different] using knew.1, ?_⟩
        refine knew.2.extend permits ?_
        exact knew.1 ▸ holds.spares different current
    | rollback current =>
      refine ⟨holds.close holds.lawful ?_, ⟨_, ⟨_, drifts, .rollback⟩, by simp, .refl holds.lawful⟩, ?_⟩
      · intro reason member
        obtain rfl | before := mem_cons.1 member
        · exact allowed.2
        · exact holds.tolerated reason before
      · exact fun other knowledge different knew => knew.other different
    | statement current answers =>
      rw [current] at opened
      cases opened
      refine ⟨holds.statement current allowed answers,
        ⟨_, ⟨_, drifts, .statement rfl answers.anyway⟩, by simp, .refl holds.lawful⟩, ?_⟩
      exact fun other knowledge different knew => knew.other different
    | outer executes =>
      refine ⟨⟨holds.lawful, holds.owned, holds.apart, holds.tolerated⟩,
        ⟨_, ⟨_, drifts, .outer⟩, opened, .refl holds.lawful⟩, ?_⟩
      exact fun other knowledge different knew => knew
  leaves := by
    intro process world holds
    refine ⟨holds.close holds.lawful holds.tolerated, ⟨⟨world.chronicle, none⟩, rfl, ?_⟩, ?_⟩
    · exact ⟨by simp [database], .refl holds.lawful⟩
    · exact fun other knowledge different knew => knew.other different

omit [DecidableEq Process] in
theorem Law.starts (lawful : law.Lawful world.chronicle) (closed : ∀ process, world.opened process = none)
    (unfailed : world.failures = []) :
    law.Holds world ∧ ∀ process, ∃ sight, Idle sight ∧ law.Knows process world sight := by
  refine ⟨⟨lawful, ?_, ?_, ?_⟩, fun process => ⟨⟨world.chronicle, none⟩, rfl, closed process, .refl lawful⟩⟩
  · intro process transaction current
    rw [closed process] at current
    cases current
  · intro one other transaction foreign _ current
    rw [closed one] at current
    cases current
  · intro failure failed
    rw [unfailed] at failed
    cases failed

end

end Locking
