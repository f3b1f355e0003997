import Nexa.Refinement.Submit
import Nexa.Shared.TokenBucket
import Nexa.System.Step

namespace Nexa

open Relational Outcome TokenBucket Tables

def rateBuckets (db : Db) (scope : Scope) : List RateBucket := db.select .rateBuckets fun row => row.scope = scope

def inSeconds (now : Time) : ℚ := (now : ℚ) / 1000000

def bucketAt (policy : Policy) (rows : List RateBucket) (now : Time) : Bucket := match rows with
  | row :: _ => ⟨row.tokens, inSeconds row.lastRefillAt⟩
  | [] => ⟨policy.capacity, inSeconds now⟩

variable {db : Db} {scope : Scope} {policy : Policy} {now : Time}

theorem rateBuckets_cases (db : Db) (scope : Scope) :
    rateBuckets db scope = [] ∨ ∃ row, rateBuckets db scope = [row] ∧ row.scope = scope := by
  rcases found : rateBuckets db scope with _ | ⟨row, rest⟩
  · exact .inl rfl
  · have inside : row ∈ rateBuckets db scope := by simp [found]
    obtain ⟨member, named⟩ := List.mem_filter.mp inside
    have here : row.scope = scope := by simpa using named
    refine .inr ⟨row, ?_, here⟩
    rw [<- found]
    refine db.select_eq_singleton (by intro row; simp [keysOf]) member named ?_
    intro other present selected
    refine db.eq_of_key ⟨"pk_rate_buckets", scope.columns⟩ present member ?_ ?_
    · have same : other.scope = scope := by simpa using selected
      exact List.mem_append_left _ (by simp [keysOf, same])
    · exact List.mem_append_left _ (by simp [keysOf, here])

def singleTenantRate : Policy where
  capacity := 1
  rate := 5
  one_le := by norm_num
  positive := by norm_num

def fullBucket (policy : Policy) (scope : Scope) (now : Time) : RateBucket where
  scope := scope
  tokens := policy.capacity
  capacity := policy.capacity
  refillRate := policy.rate
  lastRefillAt := now
  version := 1

theorem rateBuckets_opened (db : Db) (scope : Scope) (policy : Policy) (now : Time) :
    ∃ row, rateBuckets ((db.insert .rateBuckets (fullBucket policy scope now)).getD db) scope = [row] ∧
      row.scope = scope ∧ (⟨row.tokens, inSeconds row.lastRefillAt⟩ : Bucket) =
        bucketAt policy (rateBuckets db scope) now := by
  rcases rateBuckets_cases db scope with absent | ⟨row, found, here⟩
  · -- Without a row of the scope no key stands in the way of the insert.
    have accepted : db.Insertable .rateBuckets (fullBucket policy scope now) := by
      constructor
      · intro other present key inside clash
        have same : other.scope.columns = scope.columns := by
          simp [keysOf, indexesOf, fullBucket] at inside clash
          rw [inside] at clash
          simpa using clash
        have missing : other ∉ rateBuckets db scope := by simp [absent]
        exact missing (List.mem_filter.mpr ⟨present, by simpa using Scope.columns_injective same⟩)
      · intro ref refers
        simp [refsOf] at refers
    refine ⟨fullBucket policy scope now, ?_, rfl, ?_⟩
    · rw [Database.insert, dif_pos accepted, Option.getD_some]
      change ((db.rows.append .rateBuckets _) .rateBuckets).filter _ = _
      rw [append_same, List.filter_append]
      have before : (db.rows .rateBuckets).filter (fun row => row.scope = scope) = [] := absent
      rw [before]
      simp [fullBucket]
    · rw [absent]
      rfl
  · have refused : ¬ db.Insertable .rateBuckets (fullBucket policy scope now) := by
      intro accepted
      have member : row ∈ rateBuckets db scope := by simp [found]
      have present := (List.mem_filter.mp member).1
      refine accepted.1 row present ⟨"pk_rate_buckets", scope.columns⟩ ?_ ?_
      · exact List.mem_append_left _ (by simp [keysOf, here])
      · exact List.mem_append_left _ (by simp [keysOf, fullBucket])
    refine ⟨row, ?_, here, ?_⟩
    · rw [Database.insert, dif_neg refused, Option.getD_none, found]
    · rw [found]
      rfl

theorem elapsed_eq (now last : Time) :
    ((now - last : Nat) : ℚ) / 1000000 = max 0 (inSeconds now - inSeconds last) := by
  rw [inSeconds, inSeconds, <- sub_div]
  rcases le_total last now with forward | back
  · rw [Nat.cast_sub forward, max_eq_right]
    exact div_nonneg (sub_nonneg.mpr (by exact_mod_cast forward)) (by norm_num)
  · have negative : ((now : ℚ) - last) / 1000000 ≤ 0 :=
      div_nonpos_of_nonpos_of_nonneg (sub_nonpos.mpr (by exact_mod_cast back)) (by norm_num)
    rw [Nat.sub_eq_zero_of_le back, max_eq_left negative]
    norm_num

def rateLimited (wait : Nat) : Failure :=
  .application
    { code := .rateLimited, status := 429, message := "Submit rate limit exceeded", retryAfter := some wait }

def takePatch (policy : Policy) (tokens : ℚ) (now : Time) : Patch nexaSchema .rateBuckets where
  apply bucket :=
    { bucket with
      tokens := tokens - 1, capacity := policy.capacity, refillRate := policy.rate, lastRefillAt := now
      version := bucket.version + 1 }

theorem rateBuckets_taken {row : RateBucket} (found : rateBuckets db scope = [row]) (here : row.scope = scope)
    (policy : Policy) (tokens : ℚ) (now : Time) :
    rateBuckets (db.update .rateBuckets (fun bucket => bucket.scope = scope) (takePatch policy tokens now)) scope =
      [(takePatch policy tokens now).apply row] := by
  have kept : (updateWhere (fun bucket : RateBucket => bucket.scope = scope)
      (takePatch policy tokens now).apply (db.rows .rateBuckets)).filter (fun bucket => bucket.scope = scope) =
      updateWhere (fun bucket : RateBucket => bucket.scope = scope) (takePatch policy tokens now).apply
        (rateBuckets db scope) :=
    filter_updateWhere fun _ _ _ => rfl
  rw [rateBuckets, Database.select, Database.rows_update, update_same, kept, found]
  simp [here]

theorem rateLock_spec (db : Db) (scope : Scope) (policy : Policy) (now : Time) :
    let tokens := level policy (bucketAt policy (rateBuckets db scope) now) (inSeconds now)
    (tokens < 1 ∧ rateLock db scope policy.capacity policy.rate now = .error (rateLimited (wait policy tokens))) ∨
      (1 ≤ tokens ∧ ∃ after row, rateLock db scope policy.capacity policy.rate now = .ok after ∧
        rateBuckets after scope = [row] ∧ row.tokens = tokens - 1 ∧ row.lastRefillAt = now) := by
  intro tokens
  obtain ⟨row, found, here, same⟩ := rateBuckets_opened db scope policy now
  have refilled : max 0 (min policy.capacity
      (row.tokens + ((now - row.lastRefillAt : Nat) : ℚ) / 1000000 * policy.rate)) = tokens := by
    rw [elapsed_eq]
    change level policy ⟨row.tokens, inSeconds row.lastRefillAt⟩ (inSeconds now) = tokens
    rw [same]
  generalize opening : (db.insert .rateBuckets (fullBucket policy scope now)).getD db = inserted at found
  have opened : one (inserted.select .rateBuckets fun row => row.scope = scope) = .ok row := one_eq_ok.mpr found
  have shape : rateLock db scope policy.capacity policy.rate now =
      (one (inserted.select .rateBuckets fun row => row.scope = scope) >>= fun row =>
        let tokens := max 0 (min policy.capacity
          (row.tokens + ((now - row.lastRefillAt : Nat) : ℚ) / 1000000 * policy.rate))
        require (1 ≤ tokens) (rateLimited (wait policy tokens)) >>= fun _ =>
          pure (inserted.update .rateBuckets (fun bucket => bucket.scope = scope)
            (takePatch policy tokens now))) := by
    subst inserted
    rfl
  rw [shape, opened]
  simp only [bind, Except.bind, refilled]
  by_cases enough : 1 ≤ tokens
  · refine .inr ⟨enough, _, _, ?_, rateBuckets_taken found here policy tokens now, rfl, rfl⟩
    rw [require, if_pos enough]
    rfl
  · refine .inl ⟨not_le.mp enough, ?_⟩
    rw [require, if_neg enough]

theorem rateBuckets_update_other {other : Scope} (patch : Patch nexaSchema .rateBuckets)
    (keeps : ∀ row : RateBucket, (patch.apply row : RateBucket).scope = row.scope) (differ : other ≠ scope) :
    rateBuckets (db.update .rateBuckets (fun bucket => bucket.scope = scope) patch) other = rateBuckets db other := by
  have kept : (updateWhere (fun bucket : RateBucket => bucket.scope = scope) patch.apply
      (db.rows .rateBuckets)).filter (fun bucket => bucket.scope = other) =
      updateWhere (fun bucket : RateBucket => bucket.scope = scope) patch.apply (rateBuckets db other) :=
    filter_updateWhere fun row _ _ => by rw [keeps]
  rw [rateBuckets, Database.select, Database.rows_update, update_same, kept, updateWhere_eq_self]
  intro row member
  have here : row.scope = other := by simpa using (List.mem_filter.mp member).2
  simp [here, differ]

theorem rateLock_other {after : Db} {other : Scope} {capacity refillRate : ℚ}
    (locked : rateLock db scope capacity refillRate now = .ok after) (differ : other ≠ scope) :
    rateBuckets after other = rateBuckets db other := by
  simp only [rateLock, bind_eq_ok, require_eq_ok, pure_eq_ok, exists_const] at locked
  obtain ⟨_, _, _, rfl⟩ := locked
  refine (rateBuckets_update_other _ (fun _ => rfl) differ).trans ?_
  generalize fresh : ({ scope, tokens := capacity, capacity, refillRate, lastRefillAt := now, version := 1 } :
    RateBucket) = row
  have elsewhere : row.scope ≠ other := by
    subst row
    exact differ.symm
  cases inserted : db.insert .rateBuckets row with
  | none => rfl
  | some opened =>
    rw [Option.getD_some, rateBuckets, Database.select, (Database.insert_eq_some.mp inserted).2,
      append_same, List.filter_append]
    simp [elsewhere, rateBuckets, Database.select]

theorem counterLock_frame {after : Db} {counter : AdmissionCounter}
    (locked : counterLock db scope now = .ok (after, counter)) :
    Frame [.admissionCounters] db.rows after.rows := by
  simp only [counterLock, bind_eq_ok, one_eq_ok, pure_eq_ok, Prod.mk.injEq] at locked
  obtain ⟨_, _, rfl, rfl⟩ := locked
  exact insert_frame db .admissionCounters _

structure Submission where
  now : Time
  admitted : Bool

def submission (policy : Policy) (scope : Scope) (db : Db) (now : Time) : Db × Bool :=
  match rateLock db scope policy.capacity policy.rate now with
  | .ok after => (after, true)
  | .error _ => (db, false)

/-- The submissions of a scope in order. In between anything may happen that leaves its bucket alone. -/
inductive Submissions (policy : Policy) (scope : Scope) (first : Db) : List Submission -> Db -> Prop
  | start : Submissions policy scope first [] first
  | submit {log : List Submission} {db : Db} (earlier : Submissions policy scope first log db) (now : Time) :
      Submissions policy scope first (log ++ [⟨now, (submission policy scope db now).2⟩])
        (submission policy scope db now).1
  | elsewhere {log : List Submission} {db other : Db} (earlier : Submissions policy scope first log db)
      (alone : rateBuckets other scope = rateBuckets db scope) : Submissions policy scope first log other

def admissions (log : List Submission) : List Time :=
  (log.filter fun submission => submission.admitted).map Submission.now

def Full (policy : Policy) (scope : Scope) (db : Db) : Prop :=
  ∀ row ∈ rateBuckets db scope, row.tokens = policy.capacity

structure Stores (policy : Policy) (scope : Scope) (db : Db) (bucket : Bucket) : Prop where
  same : ∀ now, level policy (bucketAt policy (rateBuckets db scope) now) (inSeconds now) =
    level policy bucket (inSeconds now)
  bounds : ∀ row ∈ rateBuckets db scope, 0 ≤ row.tokens ∧ row.tokens ≤ policy.capacity

theorem Stores.full (full : Full policy scope db) : Stores policy scope db ⟨policy.capacity, 0⟩ := by
  rcases rateBuckets_cases db scope with absent | ⟨row, found, -⟩
  · refine ⟨fun now => ?_, by simp [absent]⟩
    rw [absent, bucketAt, level_full, level_full]
  · have tokens : row.tokens = policy.capacity := full row (by simp [found])
    refine ⟨fun now => ?_, ?_⟩
    · simp only [found, bucketAt, tokens, level_full]
    · intro other member
      obtain rfl : other = row := by simpa [found] using member
      rw [tokens]
      exact ⟨zero_le_one.trans policy.one_le, le_rfl⟩

theorem Stores.taken {bucket : Bucket} {row : RateBucket} (found : rateBuckets db scope = [row])
    (enough : 1 ≤ level policy bucket (inSeconds now)) (left : row.tokens = level policy bucket (inSeconds now) - 1)
    (asked : row.lastRefillAt = now) : Stores policy scope db (take policy bucket (inSeconds now)) := by
  refine ⟨fun later => ?_, ?_⟩
  · rw [found, bucketAt, take, left, asked]
  · intro other member
    obtain rfl : other = row := by simpa [found] using member
    have top := level_le policy bucket (inSeconds now)
    rw [left]
    exact ⟨sub_nonneg.mpr enough, by linarith⟩

theorem Submissions.stores {first : Db} {log : List Submission} (full : Full policy scope first)
    (history : Submissions policy scope first log db) :
    Admits policy ⟨policy.capacity, 0⟩ ((admissions log).map inSeconds) ∧
      Stores policy scope db (takes policy ⟨policy.capacity, 0⟩ ((admissions log).map inSeconds)) := by
  induction history with
  | start => exact ⟨trivial, .full full⟩
  | @submit log db earlier now ih =>
    obtain ⟨admits, stores⟩ := ih
    rcases rateLock_spec db scope policy now with ⟨-, locked⟩ | ⟨enough, after, row, locked, found, left, asked⟩
    · have refused : submission policy scope db now = (db, false) := by rw [submission, locked]
      have none : admissions (log ++ [⟨now, false⟩]) = admissions log := by simp [admissions]
      rw [refused, none]
      exact ⟨admits, stores⟩
    · have accepted : submission policy scope db now = (after, true) := by rw [submission, locked]
      have one : (admissions (log ++ [⟨now, true⟩])).map inSeconds =
          (admissions log).map inSeconds ++ [inSeconds now] := by simp [admissions]
      rw [stores.same] at enough left
      rw [accepted, one, admits_append, takes_append]
      exact ⟨⟨admits, enough⟩, .taken found enough left asked⟩
  | elsewhere _ alone ih =>
    obtain ⟨admits, stores⟩ := ih
    exact ⟨admits, ⟨alone ▸ stores.same, alone ▸ stores.bounds⟩⟩

theorem admissions_sublist (log : List Submission) : (admissions log).Sublist (log.map Submission.now) :=
  List.filter_sublist.map _

theorem inSeconds_le {earlier later : Time} (order : earlier ≤ later) : inSeconds earlier ≤ inSeconds later :=
  div_le_div_of_nonneg_right (by exact_mod_cast order) (by norm_num)

section

variable {first after : Db} {log : List Submission} {call : Call} {user : UserId} {tenantId : TenantId}
  {storage : Option ApplicationError} {admission : Admission}

theorem Submissions.locked (history : Submissions policy scope first log db) {capacity refillRate : ℚ}
    (burst : capacity = policy.capacity) (rate : refillRate = policy.rate)
    (locked : rateLock db scope capacity refillRate now = .ok after) :
    Submissions policy scope first (log ++ [⟨now, true⟩]) after := by
  subst burst rate
  have step := history.submit now
  have accepted : submission policy scope db now = (after, true) := by rw [submission, locked]
  rwa [accepted] at step

theorem rateBuckets_frame {touched : List Table} (frame : Frame touched db.rows after.rows)
    (outside : Table.rateBuckets ∉ touched) (scope : Scope) : rateBuckets after scope = rateBuckets db scope := by
  rw [rateBuckets, rateBuckets, Database.select, Database.select, frame _ outside]

theorem admitJob_submits (admitted : admitJob db call user tenantId storage = .ok (after, admission)) :
    (policy.capacity = admission.policy.tenantRateBurst -> policy.rate = admission.policy.tenantRatePerSecond ->
      Submissions policy (.tenant tenantId) first log db ->
      Submissions policy (.tenant tenantId) first (log ++ [⟨call.now, true⟩]) after) ∧
    (policy.capacity = admission.policy.userRateBurst -> policy.rate = admission.policy.userRatePerSecond ->
      Submissions policy (.user tenantId user) first log db ->
      Submissions policy (.user tenantId user) first (log ++ [⟨call.now, true⟩]) after) := by
  simp only [admitJob, bind_eq_ok, require_eq_ok, orFail_eq_ok, one_eq_ok, pure_eq_ok, Prod.mk.injEq,
    exists_const] at admitted
  obtain ⟨_, _, _, _, _, _, _, policy, rfl, ⟨first, globalCounter⟩, lockedGlobal, ⟨second, tenantCounter⟩,
    lockedTenant, ⟨third, userCounter⟩, lockedUser, _, _, _, rated, ratedTenant, last, ratedUser, rfl,
    rfl⟩ := admitted
  have frame : Frame [.admissionCounters] db.rows third.rows :=
    ((counterLock_frame lockedGlobal).trans (counterLock_frame lockedTenant)).trans (counterLock_frame lockedUser)
  have alone := rateBuckets_frame frame (by decide)
  constructor
  · intro burst rate history
    exact ((history.elsewhere (alone _)).locked burst.symm rate.symm ratedTenant).elsewhere
      (rateLock_other ratedUser (by simp))
  · intro burst rate history
    exact ((history.elsewhere (alone _)).elsewhere (rateLock_other ratedTenant (by simp))).locked burst.symm
      rate.symm ratedUser

end

theorem refused_takes {times : List ℚ} {time : ℚ} (admits : Admits policy ⟨policy.capacity, 0⟩ times)
    (refused : level policy (takes policy ⟨policy.capacity, 0⟩ times) time < 1) :
    0 ≤ (takes policy ⟨policy.capacity, 0⟩ times).tokens ∧ (takes policy ⟨policy.capacity, 0⟩ times).last ∈ times := by
  rcases List.eq_nil_or_concat times with rfl | ⟨earlier, last, rfl⟩
  · have full : level policy ⟨policy.capacity, 0⟩ time < 1 := refused
    rw [level_full] at full
    exact absurd policy.one_le (not_le.mpr full)
  · rw [List.concat_eq_append] at admits ⊢
    rw [takes_append, take]
    exact ⟨sub_nonneg.mpr (admits_append.mp admits).2, by simp⟩

theorem inSeconds_add (now : Time) (wait : Nat) : inSeconds (now + wait * 1000000) = inSeconds now + wait := by
  rw [inSeconds, inSeconds]
  push_cast
  field_simp

/-- In every window a scope is admitted at most what its bucket holds and is refilled with, and a refused
submission that waits as told, with no other of its scope, passes. -/
theorem submissions_rate_limited {first : Db} {log : List Submission} (full : Full policy scope first)
    (history : Submissions policy scope first log db) (ordered : (log.map Submission.now).Pairwise (· ≤ ·)) :
    (∀ start length : ℚ, 0 ≤ length ->
      (((admissions log).filter fun now => start ≤ inSeconds now ∧ inSeconds now ≤ start + length).length : ℚ) ≤
        policy.capacity + policy.rate * length) ∧
    (∀ row ∈ rateBuckets db scope, 0 ≤ row.tokens ∧ row.tokens ≤ policy.capacity) ∧
    ∀ now failure, (∀ earlier ∈ log, earlier.now ≤ now) ->
      rateLock db scope policy.capacity policy.rate now = .error failure ->
      ∃ wait, failure = rateLimited wait ∧
        ∀ other later, rateBuckets other scope = rateBuckets db scope -> now + wait * 1000000 ≤ later ->
          ∃ after, rateLock other scope policy.capacity policy.rate later = .ok after := by
  obtain ⟨admits, stores⟩ := history.stores full
  refine ⟨?_, stores.bounds, ?_⟩
  · intro start length nonnegative
    have sorted : ((admissions log).map inSeconds).Pairwise (· ≤ ·) :=
      List.pairwise_map.mpr ((ordered.sublist (admissions_sublist log)).imp inSeconds_le)
    have bound := length_within_le sorted admits (le_add_of_nonneg_right nonnegative : start ≤ start + length)
    rw [within, List.filter_map, List.length_map, add_sub_cancel_left] at bound
    exact bound
  · intro now failure latest raised
    rcases rateLock_spec db scope policy now with ⟨refused, locked⟩ | ⟨-, after, -, locked, -⟩
    · rw [locked] at raised
      refine ⟨_, (Except.error.inj raised).symm, ?_⟩
      intro other later alone waited
      rw [stores.same] at refused waited
      obtain ⟨solvent, gave⟩ := refused_takes admits refused
      have asked : (takes policy ⟨policy.capacity, 0⟩ ((admissions log).map inSeconds)).last ≤ inSeconds now := by
        obtain ⟨time, admitted, same⟩ := List.mem_map.mp gave
        obtain ⟨earlier, member, rfl⟩ := List.mem_map.mp ((admissions_sublist log).subset admitted)
        rw [<- same]
        exact inSeconds_le (latest earlier member)
      have elapsed := inSeconds_le waited
      rw [inSeconds_add] at elapsed
      have enough := one_le_level_of_waited solvent asked refused elapsed
      rcases rateLock_spec other scope policy later with ⟨short, -⟩ | ⟨-, after, -, passed, -⟩
      · rw [alone, stores.same] at short
        exact absurd enough (not_le.mpr short)
      · exact ⟨after, passed⟩
    · rw [locked] at raised
      cases raised

theorem submissions_rate_limited_installed :
    let db := (submission singleTenantRate (.tenant 7) installation 0).1
    ∃ wait after, rateLock db (.tenant 7) 1 5 0 = .error (rateLimited wait) ∧
      rateLock db (.tenant 7) 1 5 (wait * 1000000) = .ok after := by
  intro db
  have empty : Full singleTenantRate (.tenant 7) installation := by
    intro row member
    cases member
  have fresh : Submissions singleTenantRate (.tenant 7) installation [] installation := .start
  have history := fresh.submit 0
  have short : (rateLock db (.tenant 7) 1 5 0).isOk = false := by decide +kernel
  cases locked : rateLock db (.tenant 7) 1 5 0 with
  | ok after =>
    rw [locked] at short
    cases short
  | error failure =>
    obtain ⟨wait, rfl, passes⟩ :=
      (submissions_rate_limited empty history (by simp)).2.2 0 failure (by simp) locked
    obtain ⟨after, passed⟩ := passes db (wait * 1000000) rfl (by simp)
    exact ⟨wait, after, rfl, passed⟩

end Nexa
