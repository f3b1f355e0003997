import Nexa.Workloads.CpuState

/-! `cpu_iterative.py`. A run goes through the points of one recurrence, and shows its observer some of them. -/

namespace Nexa.Workloads

open Json Outcome

structure Sha256 where
  hexdigest : ByteArray -> List Char
  length : ∀ raw, (hexdigest raw).length = 64
  hex : ∀ raw, ∀ character ∈ hexdigest raw, isLowerHex (.scalar character) = true

def Sha256.checksum (sha : Sha256) (raw : ByteArray) : Json.Text := textOf "sha256:" ++ scalarText (sha.hexdigest raw)

inductive CpuInputError where
  | input (message : String)
  | unicode
deriving DecidableEq

def inputHooks : Hooks Json.Text CpuInputError where
  parseFloat literal := .ok (.float literal)
  pairs members := .ok (dictOf members)
  constant literal := .ok (.float literal)

def initialValue : Value Json.Text -> Except CpuInputError Int
  | .integer value =>
    if 0 ≤ value ∧ value ≤ 2147483647 then .ok value
    else .error (.input "initial_value is outside the contract range")
  | _ => .error (.input "initial_value is outside the contract range")

def validateInput (raw : ByteArray) : Except CpuInputError Int := match (decodeUtf8 raw).map (loads inputHooks) with
  | none | some (.error .decode) => .error (.input "input is not valid UTF-8 JSON")
  | some (.error (.raised error)) => .error error
  | some (.ok (.object members)) =>
    if closed [textOf "initial_value"] members then
      initialValue ((lookup (textOf "initial_value") members).getD .null)
    else .error (.input "input must contain exactly initial_value")
  | some (.ok _) => .error (.input "input must contain exactly initial_value")

structure CpuJob where
  inputBytes : ByteArray
  iterations : Int
  seed : Int
  modulus : Int
  specChecksum : Json.Text

structure CpuResult where
  iterations : Int
  finalAccumulator : Int
  inputChecksum : Json.Text
  specChecksum : Json.Text
  resultBytes : ByteArray

def recur (modulus index accumulator : Int) : Int := (accumulator * 1664525 + 1013904223 + index) % modulus

def recurs (modulus : Int) : Nat -> Int -> Int -> Int
  | 0, _, accumulator => accumulator
  | count + 1, step, accumulator => recurs modulus count (step + 1) (recur modulus step accumulator)

def loop (job : CpuJob) (observed : Bool) (stride : Int) : Nat -> Int -> Int -> Int × List (Int × Int)
  | 0, _, accumulator => (accumulator, [])
  | fuel + 1, step, accumulator =>
    if step < job.iterations then
      let stop := if observed then min job.iterations (step + stride) else job.iterations
      let accumulator := recurs job.modulus (stop - step).toNat step accumulator
      let (final, shown) := loop job observed stride fuel stop accumulator
      (final, if observed then (stop, accumulator) :: shown else shown)
    else (accumulator, [])

def resultDocument (job : CpuJob) (accumulator : Int) (inputChecksum : Json.Text) : List (Json.Text × Value Empty) :=
  [(textOf "iterations", .integer job.iterations), (textOf "final_accumulator", .integer accumulator),
    (textOf "input_checksum", .string inputChecksum), (textOf "spec_checksum", .string job.specChecksum)]

def resultStyle : Style Empty where
  quote := dumpString
  float := Empty.elim
  rank := none

def resumes (job : CpuJob) (inputChecksum : Json.Text) (state : CpuState) : Prop :=
  (0 ≤ state.step ∧ state.step ≤ job.iterations) ∧ (0 ≤ state.accumulator ∧ state.accumulator < job.modulus) ∧
    state.inputChecksum = inputChecksum ∧ state.specChecksum = job.specChecksum

instance (job : CpuJob) (inputChecksum : Json.Text) (state : CpuState) :
    Decidable (resumes job inputChecksum state) := by
  unfold resumes
  infer_instance

variable (sha : Sha256)

def origin (job : CpuJob) (initialValue : Int) : Option CpuState -> Except CpuInputError (Int × Int)
  | none => .ok (0, (initialValue + job.seed) % job.modulus)
  | some state => do
    require (resumes job (sha.checksum job.inputBytes) state)
      (.input "resume state does not belong to this input and spec")
    return (state.step, state.accumulator)

def run (job : CpuJob) (resume : Option CpuState) (observed : Bool) (stride : Int) :
    Except CpuInputError (CpuResult × List (Int × Int)) := do
  let initialValue <- validateInput job.inputBytes
  require (1 ≤ job.iterations ∧ job.iterations ≤ 1000000000) (.input "iterations is outside the contract range")
  require (0 ≤ job.seed ∧ job.seed ≤ 2147483647) (.input "seed is outside the contract range")
  require (2 ≤ job.modulus ∧ job.modulus ≤ 2147483647) (.input "modulus is outside the contract range")
  require (isChecksum job.specChecksum) (.input "spec_checksum is invalid")
  require (1 ≤ stride) (.input "observer_stride is invalid")
  let (step, accumulator) <- origin sha job initialValue resume
  let (final, shown) := loop job observed stride (job.iterations - step).toNat step accumulator
  let document := resultDocument job final (sha.checksum job.inputBytes)
  let resultBytes <- orFail .unicode (encodeUtf8 (dumps resultStyle (.object document)))
  return (
    { iterations := job.iterations, finalAccumulator := final, inputChecksum := sha.checksum job.inputBytes
      specChecksum := job.specChecksum, resultBytes },
    if observed then (step, accumulator) :: shown else shown)

variable {sha}

theorem recurs_add (modulus : Int) (count more : Nat) (step accumulator : Int) :
    recurs modulus (count + more) step accumulator =
      recurs modulus more (step + count) (recurs modulus count step accumulator) := by
  induction count generalizing step accumulator with
  | zero => simp [recurs]
  | succ count ih =>
    have shift : step + 1 + (count : Int) = step + ((count + 1 : Nat) : Int) := by omega
    rw [Nat.succ_add, recurs, ih, recurs, shift]

variable {accumulator : Int}

theorem recurs_bounds {modulus : Int} (positive : 0 < modulus) (count : Nat) {step : Int}
    (bounds : 0 ≤ accumulator ∧ accumulator < modulus) :
    0 ≤ recurs modulus count step accumulator ∧ recurs modulus count step accumulator < modulus := by
  induction count generalizing step accumulator with
  | zero => exact bounds
  | succ count ih => exact ih ⟨Int.emod_nonneg _ positive.ne', Int.emod_lt_of_pos _ positive⟩

def OnPath (job : CpuJob) (first : Int) (point : Int × Int) : Prop :=
  (0 ≤ point.1 ∧ point.1 ≤ job.iterations) ∧ point.2 = recurs job.modulus point.1.toNat 0 first

theorem OnPath.advance {job : CpuJob} {first step stop : Int} (on : OnPath job first (step, accumulator))
    (forward : step ≤ stop) (within : stop ≤ job.iterations) :
    OnPath job first (stop, recurs job.modulus (stop - step).toNat step accumulator) := by
  obtain ⟨⟨low, high⟩, here⟩ := on
  dsimp only at low high here
  refine ⟨⟨by dsimp only; omega, within⟩, ?_⟩
  have split : stop.toNat = step.toNat + (stop - step).toNat := by omega
  have reach : (0 : Int) + (step.toNat : Int) = step := by omega
  dsimp only
  rw [split, recurs_add, reach, here]

variable {stride : Int}

theorem loop_onPath {job : CpuJob} {first : Int} (observed : Bool) (positive : 1 ≤ stride) {fuel : Nat}
    {step : Int} (on : OnPath job first (step, accumulator))
    (enough : (job.iterations - step).toNat ≤ fuel) :
    OnPath job first (job.iterations, (loop job observed stride fuel step accumulator).1) ∧
      ∀ point ∈ (loop job observed stride fuel step accumulator).2, OnPath job first point := by
  induction fuel generalizing step accumulator with
  | zero =>
    have done : step = job.iterations := by
      have high := on.1.2
      dsimp only at high
      omega
    subst done
    exact ⟨on, by simp [loop]⟩
  | succ fuel ih =>
    have high : step ≤ job.iterations := on.1.2
    by_cases running : step < job.iterations
    · -- The next stop lies ahead, so the rest of the way needs less fuel.
      generalize stopping : (if observed then min job.iterations (step + stride) else job.iterations) = stop
      have ahead : step < stop ∧ stop ≤ job.iterations := by
        subst stop
        split_ifs <;> omega
      have next := on.advance ahead.1.le ahead.2
      have rest := ih next (by omega)
      simp only [loop, if_pos running, stopping]
      refine ⟨rest.1, ?_⟩
      intro point member
      cases observed with
      | false => exact rest.2 point member
      | true =>
        rcases List.mem_cons.mp member with rfl | later
        · exact next
        · exact rest.2 point later
    · have done : step = job.iterations := by omega
      subst done
      simp only [loop, lt_irrefl, if_false]
      exact ⟨on, by simp⟩

theorem isChecksum_checksum (sha : Sha256) (raw : ByteArray) : isChecksum (sha.checksum raw) = true := by
  have seven : (textOf "sha256:").length = 7 := by decide
  rw [isChecksum_iff, Sha256.checksum]
  refine ⟨⟨List.take_left' seven, ?_⟩, ?_⟩
  · rw [List.length_append, seven, scalarText, List.length_map, sha.length]
  · rw [List.drop_left' seven]
    intro point member
    obtain ⟨character, inside, rfl⟩ := List.mem_map.mp member
    exact sha.hex raw character inside

structure Accepted (job : CpuJob) (initialValue : Int) : Prop where
  input : validateInput job.inputBytes = .ok initialValue
  iterations : 1 ≤ job.iterations ∧ job.iterations ≤ 1000000000
  seed : 0 ≤ job.seed ∧ job.seed ≤ 2147483647
  modulus : 2 ≤ job.modulus ∧ job.modulus ≤ 2147483647
  specChecksum : isChecksum job.specChecksum = true

variable {resume : Option CpuState}

theorem accepted_of_run {job : CpuJob} {observed : Bool}
    {outcome : CpuResult × List (Int × Int)} (ran : run sha job resume observed stride = .ok outcome) :
    ∃ initialValue, Accepted job initialValue := by
  simp only [run, bind_eq_ok, require_eq_ok, exists_const] at ran
  obtain ⟨initialValue, input, iterations, seed, modulus, specChecksum, -⟩ := ran
  exact ⟨initialValue, input, iterations, seed, modulus, specChecksum⟩

theorem stride_of_run {job : CpuJob} {observed : Bool}
    {outcome : CpuResult × List (Int × Int)} (ran : run sha job resume observed stride = .ok outcome) : 1 ≤ stride := by
  simp only [run, bind_eq_ok, require_eq_ok, exists_const] at ran
  obtain ⟨-, -, -, -, -, -, positive, -⟩ := ran
  exact positive

def resultOf (sha : Sha256) (job : CpuJob) (final : Int) : Except CpuInputError CpuResult :=
  (orFail .unicode (encodeUtf8 (dumps resultStyle
    (.object (resultDocument job final (sha.checksum job.inputBytes)))))).map fun resultBytes =>
      { iterations := job.iterations, finalAccumulator := final, inputChecksum := sha.checksum job.inputBytes
        specChecksum := job.specChecksum, resultBytes }

theorem run_accepted {job : CpuJob} {initialValue : Int} (accepted : Accepted job initialValue) (observed : Bool)
    (positive : 1 ≤ stride) {step : Int}
    (begins : origin sha job initialValue resume = .ok (step, accumulator)) :
    run sha job resume observed stride =
      (resultOf sha job (loop job observed stride (job.iterations - step).toNat step accumulator).1).map
        fun result => (result,
          if observed then
            (step, accumulator) :: (loop job observed stride (job.iterations - step).toNat step accumulator).2
          else (loop job observed stride (job.iterations - step).toNat step accumulator).2) := by
  simp only [run, accepted.input, require, if_pos accepted.iterations, if_pos accepted.seed, if_pos accepted.modulus,
    if_pos accepted.specChecksum, if_pos positive, begins, bind, Except.bind, resultOf]
  cases orFail CpuInputError.unicode (encodeUtf8 (dumps resultStyle (.object (resultDocument job
    (loop job observed stride (job.iterations - step).toNat step accumulator).1
    (sha.checksum job.inputBytes))))) <;> rfl

theorem dumps_resultDocument (job : CpuJob) (final : Int) (inputChecksum : Json.Text) :
    dumps resultStyle (.object (resultDocument job final inputChecksum)) =
      textOf "\x7b\"iterations\":" ++ (integerText job.iterations ++ (textOf ",\"final_accumulator\":" ++
        (integerText final ++ (textOf ",\"input_checksum\":" ++ (dumpString inputChecksum ++
          (textOf ",\"spec_checksum\":" ++ (dumpString job.specChecksum ++ textOf "\x7d"))))))) := by
  have order : arrange resultStyle.rank (dumpsMembers resultStyle (resultDocument job final inputChecksum)) =
      [(textOf "iterations", integerText job.iterations), (textOf "final_accumulator", integerText final),
        (textOf "input_checksum", dumpString inputChecksum), (textOf "spec_checksum", dumpString job.specChecksum)] :=
    rfl
  rw [dumps, order]
  simp only [List.map_cons, List.map_nil, joined, memberText, List.append_assoc, List.cons_append]
  rfl

theorem resultOf_accepted {job : CpuJob} {initialValue : Int} (accepted : Accepted job initialValue) (final : Int) :
    ∃ result, resultOf sha job final = .ok result := by
  have input := ascii_dumpString (printable_of_isChecksum (isChecksum_checksum sha job.inputBytes))
  have spec := ascii_dumpString (printable_of_isChecksum accepted.specChecksum)
  have ascii : Ascii (dumps resultStyle (.object (resultDocument job final (sha.checksum job.inputBytes)))) := by
    rw [dumps_resultDocument]
    refine ascii_append.mpr ⟨by unfold Ascii; decide, ascii_append.mpr ⟨ascii_integerText _, ?_⟩⟩
    refine ascii_append.mpr ⟨by unfold Ascii; decide, ascii_append.mpr ⟨ascii_integerText _, ?_⟩⟩
    refine ascii_append.mpr ⟨by unfold Ascii; decide, ascii_append.mpr ⟨input, ?_⟩⟩
    exact ascii_append.mpr ⟨by unfold Ascii; decide, ascii_append.mpr ⟨spec, by unfold Ascii; decide⟩⟩
  obtain ⟨raw, encoded, _⟩ := encodeUtf8_scalar fun point member => scalar_of_ascii (ascii point member)
  exact ⟨_, by rw [resultOf, encoded]; rfl⟩

def firstAccumulator (job : CpuJob) (initialValue : Int) : Int := (initialValue + job.seed) % job.modulus

def snapshot (sha : Sha256) (job : CpuJob) (point : Int × Int) : CpuState where
  step := point.1
  accumulator := point.2
  inputChecksum := sha.checksum job.inputBytes
  specChecksum := job.specChecksum

/-- What a job can be resumed from: a run shows its observer points, and one is encoded, and decoded for the next. -/
inductive Reached (sha : Sha256) (job : CpuJob) : Option CpuState -> Prop
  | begin : Reached sha job none
  | interrupted {resume : Option CpuState} {stride : Int} {result : CpuResult} {shown : List (Int × Int)}
      {point : Int × Int} {raw : ByteArray} {state : CpuState} (before : Reached sha job resume)
      (ran : run sha job resume true stride = .ok (result, shown)) (seen : point ∈ shown)
      (encoded : encodeState (snapshot sha job point) = .ok raw)
      (decoded : decodeState raw job.iterations job.modulus (sha.checksum job.inputBytes) job.specChecksum =
        .ok state) : Reached sha job (some state)

variable {job : CpuJob} {initialValue : Int}

theorem Accepted.bounds (accepted : Accepted job initialValue) {point : Int × Int}
    (on : OnPath job (firstAccumulator job initialValue) point) : 0 ≤ point.2 ∧ point.2 < job.modulus := by
  have positive : 0 < job.modulus := by
    have low := accepted.modulus.1
    omega
  rw [on.2]
  exact recurs_bounds positive _ ⟨Int.emod_nonneg _ positive.ne', Int.emod_lt_of_pos _ positive⟩

theorem codec_of_resumes (accepted : Accepted job initialValue) {state : CpuState}
    (own : resumes job (sha.checksum job.inputBytes) state) :
    ∃ raw, encodeState state = .ok raw ∧
      decodeState raw job.iterations job.modulus (sha.checksum job.inputBytes) job.specChecksum = .ok state ∧
      ∀ other, decodeState other job.iterations job.modulus (sha.checksum job.inputBytes) job.specChecksum =
        .ok state -> other = raw := by
  obtain ⟨⟨low, high⟩, ⟨nonnegative, below⟩, input, spec⟩ := own
  have iterations := accepted.iterations
  have modulus := accepted.modulus
  have valid : state.Valid := by
    refine ⟨⟨low, ?_⟩, ⟨nonnegative, ?_⟩, ?_, ?_⟩
    · unfold stateMaxInteger
      omega
    · unfold stateMaxInteger
      omega
    · rw [input]
      exact isChecksum_checksum sha _
    · rw [spec]
      exact accepted.specChecksum
  obtain ⟨raw, encoded, decoded⟩ := decodeState_encodeState valid ⟨high, below⟩
  rw [input, spec] at decoded
  refine ⟨raw, encoded, decoded, ?_⟩
  intro other accepts
  have same := encodeState_of_decodeState accepts
  rw [encoded] at same
  exact (Except.ok.inj same).symm

theorem resumes_of_onPath (accepted : Accepted job initialValue) {point : Int × Int}
    (on : OnPath job (firstAccumulator job initialValue) point) :
    resumes job (sha.checksum job.inputBytes) (snapshot sha job point) :=
  ⟨on.1, accepted.bounds on, rfl, rfl⟩

theorem Reached.origin_onPath (accepted : Accepted job initialValue) (reached : Reached sha job resume) :
    ∃ point, origin sha job initialValue resume = .ok point ∧ OnPath job (firstAccumulator job initialValue) point := by
  induction reached with
  | begin =>
    have positive := accepted.iterations.1
    exact ⟨_, rfl, ⟨le_rfl, by omega⟩, rfl⟩
  | @interrupted resume stride result shown point raw state before ran seen encoded decoded ih =>
    obtain ⟨start, begins, onStart⟩ := ih
    have positive := stride_of_run ran
    have path := loop_onPath true positive onStart le_rfl
    have on : OnPath job (firstAccumulator job initialValue) point := by
      rw [run_accepted accepted true positive begins] at ran
      obtain ⟨made, -, same⟩ := map_eq_ok.mp ran
      obtain ⟨-, rfl⟩ := Prod.mk.inj same
      rcases List.mem_cons.mp seen with rfl | later
      · exact onStart
      · exact path.2 point later
    have own : resumes job (sha.checksum job.inputBytes) (snapshot sha job point) := resumes_of_onPath accepted on
    obtain ⟨bytes, written, read, -⟩ := codec_of_resumes accepted own
    obtain rfl : bytes = raw := Except.ok.inj (written.symm.trans encoded)
    obtain rfl : snapshot sha job point = state := Except.ok.inj (read.symm.trans decoded)
    refine ⟨point, ?_, on⟩
    simp only [origin, require, if_pos own]
    rfl

/-- However often a job is interrupted, its result is that of one run, and a state comes back from its bytes alone. -/
theorem run_resumed {quiet : List (Int × Int)} {result : CpuResult} {single : Int}
    (uninterrupted : run sha job none false single = .ok (result, quiet)) {resume : Option CpuState}
    (reached : Reached sha job resume) (observed : Bool) {stride : Int} (positive : 1 ≤ stride) :
    (∃ shown, run sha job resume observed stride = .ok (result, shown) ∧
      ∀ point ∈ shown, resumes job (sha.checksum job.inputBytes) (snapshot sha job point)) ∧
    ∀ state, resumes job (sha.checksum job.inputBytes) state ->
      ∃ raw, encodeState state = .ok raw ∧
        decodeState raw job.iterations job.modulus (sha.checksum job.inputBytes) job.specChecksum = .ok state ∧
        ∀ other, decodeState other job.iterations job.modulus (sha.checksum job.inputBytes) job.specChecksum =
          .ok state -> other = raw := by
  obtain ⟨initialValue, accepted⟩ := accepted_of_run uninterrupted
  refine ⟨?_, fun state own => codec_of_resumes accepted own⟩
  obtain ⟨start, begins, onStart⟩ := reached.origin_onPath accepted
  have path := loop_onPath observed positive onStart le_rfl
  -- Both runs end at the same point of the path, and the result is made of nothing else.
  have ended : ∃ final, resultOf sha job final = .ok result ∧ OnPath job (firstAccumulator job initialValue)
      (job.iterations, final) := by
    have nothing : Reached sha job none := .begin
    obtain ⟨first, beginsFirst, onFirst⟩ := nothing.origin_onPath accepted
    have once := stride_of_run uninterrupted
    have whole := loop_onPath false once onFirst le_rfl
    rw [run_accepted accepted false once beginsFirst] at uninterrupted
    obtain ⟨made, final, same⟩ := map_eq_ok.mp uninterrupted
    obtain ⟨rfl, -⟩ := Prod.mk.inj same
    exact ⟨_, final, whole.1⟩
  obtain ⟨final, made, onFinal⟩ := ended
  have same : (loop job observed stride (job.iterations - start.1).toNat start.1 start.2).1 = final :=
    path.1.2.trans onFinal.2.symm
  rw [run_accepted accepted observed positive begins, same, made]
  refine ⟨_, rfl, ?_⟩
  intro point member
  refine resumes_of_onPath accepted ?_
  cases observed with
  | false => exact path.2 point member
  | true =>
    rcases List.mem_cons.mp member with rfl | later
    · exact onStart
    · exact path.2 point later

def zeroSha : Sha256 where
  hexdigest _ := List.replicate 64 '0'
  length _ := List.length_replicate
  hex _ _ member := by
    obtain ⟨-, rfl⟩ := List.mem_replicate.mp member
    decide

def sampleJob : CpuJob where
  inputBytes := "\x7b\"initial_value\":5\x7d".toByteArray
  iterations := 3
  seed := 4
  modulus := 97
  specChecksum := zeroSha.checksum ByteArray.empty

theorem sampleJob_accepted : Accepted sampleJob 5 where
  input := by
    have text : decodeUtf8 sampleJob.inputBytes = some (textOf "\x7b\"initial_value\":5\x7d") :=
      decodeUtf8_toByteArray "\x7b\"initial_value\":5\x7d"
    have same : textOf "\x7b\"initial_value\":5\x7d" = openBrace ::
        ((dumpString (textOf "initial_value") ++ .scalar ':' :: integerText 5) ++ [closeBrace]) := by decide
    have alone : dictOf [(textOf "initial_value", (.integer 5 : Value Json.Text))] =
        [(textOf "initial_value", .integer 5)] := rfl
    have writes : Writes (fun members => dictOf members = members)
        (.object [(textOf "initial_value", (.integer 5 : Value Json.Text))]) _ := .object alone (.last (.integer 5))
    have accepts : ∀ members : List (Json.Text × Value Json.Text), dictOf members = members ->
        inputHooks.pairs members = .ok members := fun _ kept => congrArg Except.ok kept
    have read := loads_written accepts writes
    rw [<- same] at read
    rw [validateInput, text, Option.map_some, read]
    rfl
  iterations := by decide
  seed := by decide
  modulus := by decide
  specChecksum := isChecksum_checksum _ _

theorem run_resumed_sample :
    ∃ (result : CpuResult) (quiet : List (Int × Int)) (state : CpuState),
      run zeroSha sampleJob none false 1 = .ok (result, quiet) ∧ state.step = 2 ∧
      Reached zeroSha sampleJob (some state) ∧
      ∃ shown, run zeroSha sampleJob (some state) true 7 = .ok (result, shown) := by
  have whole : ∀ observed stride, 1 ≤ stride -> ∃ result,
      run zeroSha sampleJob none observed stride = .ok (result,
        if observed then (0, 9) :: (loop sampleJob observed stride 3 0 9).2
        else (loop sampleJob observed stride 3 0 9).2) := by
    intro observed stride positive
    obtain ⟨result, made⟩ : ∃ result, resultOf zeroSha sampleJob (loop sampleJob observed stride 3 0 9).1 =
        .ok result := resultOf_accepted sampleJob_accepted _
    have begins : origin zeroSha sampleJob 5 none = .ok (0, 9) := rfl
    refine ⟨result, ?_⟩
    rw [run_accepted sampleJob_accepted observed positive begins]
    change (resultOf zeroSha sampleJob (loop sampleJob observed stride 3 0 9).1).map _ = _
    rw [made]
    rfl
  obtain ⟨result, single⟩ := whole false 1 (by decide)
  obtain ⟨other, interrupted⟩ := whole true 2 (by decide)
  have nothing : Reached zeroSha sampleJob none := .begin
  obtain ⟨-, codec⟩ := run_resumed single nothing true (by decide : (1 : Int) ≤ 2)
  have own : resumes sampleJob (zeroSha.checksum sampleJob.inputBytes)
      (snapshot zeroSha sampleJob (2, recurs 97 2 0 9)) := by
    refine ⟨by decide, ?_, rfl, rfl⟩
    exact recurs_bounds (by decide) 2 (by decide)
  obtain ⟨raw, encoded, decoded, -⟩ := codec _ own
  have seen : (2, recurs 97 2 0 9) ∈ (0, 9) :: (loop sampleJob true 2 3 0 9).2 := by
    refine List.mem_cons_of_mem _ ?_
    exact List.mem_cons_self
  have reached : Reached zeroSha sampleJob (some (snapshot zeroSha sampleJob (2, recurs 97 2 0 9))) :=
    .interrupted nothing interrupted seen encoded decoded
  obtain ⟨⟨shown, resumed, -⟩, -⟩ := run_resumed single reached true (by decide : (1 : Int) ≤ 7)
  exact ⟨result, _, _, single, rfl, reached, shown, resumed⟩

end Nexa.Workloads
