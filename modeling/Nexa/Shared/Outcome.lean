import Mathlib.Tactic.Common

namespace Outcome

open List

variable {ε α β : Type}

def require (condition : Prop) [Decidable condition] (failure : ε) : Except ε Unit :=
  if condition then .ok () else .error failure

def failureOf : Except ε α -> Option ε
  | .ok _ => none
  | .error failure => some failure

def orFail (failure : ε) : Option α -> Except ε α
  | some value => .ok value
  | none => .error failure

theorem bind_eq_ok {value : Except ε α} {next : α -> Except ε β} {result : β} :
    (value >>= next) = .ok result <-> ∃ input, value = .ok input ∧ next input = .ok result := by
  cases value <;> simp [bind, Except.bind]

theorem pure_eq_ok {value result : α} : (pure value : Except ε α) = .ok result <-> value = result := by
  simp [pure, Except.pure]

theorem map_eq_ok {value : Except ε α} {change : α -> β} {result : β} :
    change <$> value = .ok result <-> ∃ input, value = .ok input ∧ change input = result := by
  cases value <;> simp [Functor.map, Except.map]

theorem fst_eq_ok {value : Except ε (α × β)} {result : α} :
    Prod.fst <$> value = .ok result <-> ∃ answer, value = .ok (result, answer) := by
  simp [map_eq_ok]

theorem require_eq_ok {condition : Prop} [Decidable condition] {failure : ε} {value : Unit} :
    require condition failure = .ok value <-> condition := by
  unfold require
  split_ifs with holds <;> simp [holds]

theorem orFail_eq_ok {failure : ε} {value : Option α} {result : α} :
    orFail failure value = .ok result <-> value = some result := by
  cases value <;> simp [orFail]

theorem ok_eq_ok {value result : α} : (.ok value : Except ε α) = .ok result <-> value = result := by
  simp

theorem forM_eq_ok {check : α -> Except ε Unit} {items : List α} {value : Unit} :
    items.forM check = .ok value <-> ∀ item ∈ items, check item = .ok () := by
  induction items with
  | nil => simp [pure, Except.pure]
  | cons item rest ih =>
    change (check item >>= fun _ => rest.forM check) = .ok value <-> _
    rw [bind_eq_ok]
    simp only [ih, forall_mem_cons]
    constructor
    · rintro ⟨⟨⟩, passed, others⟩
      exact ⟨passed, others⟩
    · rintro ⟨passed, others⟩
      exact ⟨(), passed, others⟩

theorem mapM_require_eq_ok {condition : α -> Prop} [DecidablePred condition] {failure : α -> ε}
    {change : α -> β} {items : List α} {results : List β} :
    (items.mapM fun item => do
      require (condition item) (failure item)
      return change item) = .ok results <->
      (∀ item ∈ items, condition item) ∧ items.map change = results := by
  induction items generalizing results with
  | nil => simp [pure, Except.pure]
  | cons item rest ih =>
    simp only [mapM_cons, bind_eq_ok, require_eq_ok, pure_eq_ok, ih]
    constructor
    · rintro ⟨_, ⟨_, holds, rfl⟩, _, ⟨all, rfl⟩, rfl⟩
      exact ⟨by simpa using ⟨holds, all⟩, rfl⟩
    · rintro ⟨all, rfl⟩
      have both : condition item ∧ ∀ other ∈ rest, condition other := by simpa using all
      exact ⟨_, ⟨(), both.1, rfl⟩, _, ⟨both.2, rfl⟩, rfl⟩

theorem foldlM_invariant {holds : β -> Prop} {step : β -> α -> Except ε β} {items : List α}
    (keeps : ∀ state item next, item ∈ items -> holds state -> step state item = .ok next -> holds next)
    {start finish : β} (initial : holds start) (run : items.foldlM step start = .ok finish) :
    holds finish := by
  induction items generalizing start with
  | nil =>
    rw [foldlM_nil, pure_eq_ok] at run
    exact run ▸ initial
  | cons item rest ih =>
    rw [foldlM_cons, bind_eq_ok] at run
    obtain ⟨next, stepped, remaining⟩ := run
    refine ih ?_ (keeps start item next (by simp) initial stepped) remaining
    intro state other after member
    exact keeps state other after (by simp [member])

end Outcome
