import Nexa.Workloads.CanonicalJson
import Nexa.Workloads.CpuIterative

/-! `training_state.py`, and `validate_training_cursor` of `adapter_launch.py`. -/

namespace Nexa.Workloads

open Json Outcome

def maxEpochs : Int := 100
def maxBatchSize : Int := 512
def minSubset : Int := 100
def maxSubset : Int := 50000
def maxSeed : Int := 2 ^ 31 - 1
def maxThreads : Int := 64

inductive TrainingStateError where
  | state (message : String)
  | overflow
deriving DecidableEq

structure TrainingParameters where
  subsetSize : Int
  batchSize : Int
  epochs : Int
deriving DecidableEq

def batchesPerEpoch (subsetSize batchSize : Int) : Int := -Int.fdiv (-subsetSize) batchSize

def TrainingParameters.perEpoch (parameters : TrainingParameters) : Int :=
  batchesPerEpoch parameters.subsetSize parameters.batchSize

structure Sampling where
  sha : Sha256
  permutation : Int -> Int -> Int -> List Nat

def packed (positions : List Nat) : List UInt8 :=
  positions.flatMap fun position =>
    [UInt8.ofNat position, UInt8.ofNat (position / 2 ^ 8), UInt8.ofNat (position / 2 ^ 16),
      UInt8.ofNat (position / 2 ^ 24)]

def fromHex : Json.Text -> List UInt8
  | high :: low :: text =>
    UInt8.ofNat (16 * (hexValue high).getD 0 + (hexValue low).getD 0) :: fromHex text
  | _ => []

section

variable (sha : Sha256)

def permutationChecksum (order : List Nat) : Json.Text := sha.checksum ⟨(packed order).toArray⟩

def initialOrderDigest (epoch : Int) : Json.Text :=
  sha.checksum ("nexa-sample-order-v1:" ++ toString epoch).toByteArray

def chainOrderDigest (previous : Json.Text) (positions : List Nat) : Json.Text :=
  sha.checksum ⟨(fromHex (previous.drop 7) ++ packed positions).toArray⟩

end

section

variable {F : Type}

def integerWithin (low high : Int) : Value F -> Bool
  | .integer value => low ≤ value ∧ value ≤ high
  | _ => false

def isChecksumValue : Value F -> Bool
  | .string text => isChecksum text
  | _ => false

def integerOf : Value F -> Int
  | .integer value => value
  | _ => 0

def stringOf : Value F -> Json.Text
  | .string text => text
  | _ => []

def membersOf : Value F -> List (Json.Text × Value F)
  | .object members => members
  | _ => []

def checksums : Value F -> Option (List (Value F))
  | .array items => if items.all isChecksumValue then some items else none
  | _ => none

def trainingFields : List Json.Text :=
  [textOf "schema_version", textOf "format", textOf "architecture_id", textOf "architecture_version",
    textOf "preprocessing", textOf "optimizer", textOf "threads", textOf "input_checksum", textOf "spec_checksum",
    textOf "cursor", textOf "sampler", textOf "sample_order"]

def optimizerFields : List Json.Text := [textOf "algorithm", textOf "learning_rate", textOf "momentum"]

def samplerFields : List Json.Text :=
  [textOf "algorithm", textOf "seed", textOf "subset_size", textOf "batch_size", textOf "epochs",
    textOf "permutation_checksum"]

def positionFields : List Json.Text := [textOf "epoch", textOf "batch_index", textOf "step"]

def orderFields : List Json.Text := [textOf "completed", textOf "running"]

def parametersOf (sampler : List (Json.Text × Value F)) : TrainingParameters where
  subsetSize := integerOf (field "subset_size" sampler)
  batchSize := integerOf (field "batch_size" sampler)
  epochs := integerOf (field "epochs" sampler)

end

section

variable {F : Type} (floats : Floats F) (sampling : Sampling)

def isText (literal : String) (value : Value F) : Prop := pyEq floats value (.string (textOf literal)) = true

instance (literal : String) (value : Value F) : Decidable (isText floats literal value) := by
  unfold isText
  infer_instance

def checkLearningRate (failure : TrainingStateError) : Value F -> Except TrainingStateError Unit
  | .integer rate => do
    require (rate.natAbs < 2 ^ 1024 - 2 ^ 970) .overflow
    require (0 < rate ∧ rate ≤ 1) failure
  | .float rate =>
    require (floats.isFinite rate ∧ floats.aboveInteger rate 0 ∧ floats.atMostInteger rate 1) failure
  | _ => .error failure

def checkOptimizer (value : Value F) : Except TrainingStateError Unit := do
  let failure := .state "training state optimizer is invalid"
  let optimizer <- orFail failure (objectWith optimizerFields value)
  require (isText floats "sgd-momentum-v1" (field "algorithm" optimizer)) failure
  require (pyEq floats (field "momentum" optimizer) (.float (floats.literal ['0', '.', '9']))) failure
  checkLearningRate floats failure (field "learning_rate" optimizer)

def checkSampler (value : Value F) : Except TrainingStateError (List (Json.Text × Value F)) := do
  let failure := .state "training state sampler is invalid"
  let sampler <- orFail failure (objectWith samplerFields value)
  require (isText floats "nexa-sampler-v1" (field "algorithm" sampler)) failure
  require (integerWithin 0 maxSeed (field "seed" sampler)) failure
  require (integerWithin minSubset maxSubset (field "subset_size" sampler)) failure
  require (integerWithin 1 maxBatchSize (field "batch_size" sampler)) failure
  require (integerWithin 1 maxEpochs (field "epochs" sampler)) failure
  return sampler

def checkCursor (parameters : TrainingParameters) (value : Value F) :
    Except TrainingStateError (List (Json.Text × Value F)) := do
  let failure := .state "training state cursor is invalid"
  let cursor <- orFail failure (objectWith positionFields value)
  let epoch := integerOf (field "epoch" cursor)
  let batchIndex := integerOf (field "batch_index" cursor)
  require (integerWithin 0 parameters.epochs (field "epoch" cursor)) failure
  require (integerWithin 0 (parameters.perEpoch - 1) (field "batch_index" cursor)) failure
  require (¬(epoch = parameters.epochs ∧ batchIndex ≠ 0)) failure
  -- Python's equality: the step may be a boolean or a float.
  require (pyEq floats (field "step" cursor) (.integer (epoch * parameters.perEpoch + batchIndex))) failure
  return cursor

def checkPermutation (verifyPermutation finished : Bool) (epoch : Int) (sampler : List (Json.Text × Value F)) :
    Except TrainingStateError Unit :=
  let seed := integerOf (field "seed" sampler)
  let subsetSize := integerOf (field "subset_size" sampler)
  let expected := permutationChecksum sampling.sha (sampling.permutation seed epoch subsetSize)
  let found := field "permutation_checksum" sampler
  if finished then
    require (found matches .null) (.state "finished training state must not carry a permutation")
  else
    require (isChecksumValue found ∧ (verifyPermutation = true -> stringOf found = expected))
      (.state "training state permutation does not match the sampler")

def checkOrder (finished : Bool) (epoch batchIndex : Int) (value : Value F) : Except TrainingStateError Unit := do
  let failure := .state "training state sample order is invalid"
  let order <- orFail failure (objectWith orderFields value)
  let completed <- orFail failure (checksums (field "completed" order))
  require ((completed.length : Int) = epoch) failure
  let running := field "running" order
  if finished then
    require (running matches .null) (.state "finished training state must not carry a running digest")
  else
    require (isChecksumValue running ∧ (batchIndex = 0 -> stringOf running = initialOrderDigest sampling.sha epoch))
      (.state "training state running digest is invalid")

def validateTrainingState (document : Value F) (verifyPermutation : Bool) :
    Except TrainingStateError (List (Json.Text × Value F)) := do
  let members <- orFail (.state "training state fields are not closed") (objectWith trainingFields document)
  require (pyEq floats (field "schema_version" members) (.integer 1) ∧
      isText floats "pytorch-cifar10-state-v1" (field "format" members) ∧
      isText floats "nexa-cifar10-smallcnn-v1" (field "architecture_id" members) ∧
      isText floats "1" (field "architecture_version" members) ∧
      isText floats "cifar10-u8-chw-v1" (field "preprocessing" members))
    (.state "training state identity is not allowlisted")
  checkOptimizer floats (field "optimizer" members)
  require (integerWithin 1 maxThreads (field "threads" members)) (.state "training state thread count is invalid")
  require (isChecksumValue (field "input_checksum" members) ∧ isChecksumValue (field "spec_checksum" members))
    (.state "training state checksums are invalid")
  let sampler <- checkSampler floats (field "sampler" members)
  let parameters := parametersOf sampler
  let cursor <- checkCursor floats parameters (field "cursor" members)
  let epoch := integerOf (field "epoch" cursor)
  checkPermutation sampling verifyPermutation (epoch = parameters.epochs) epoch sampler
  checkOrder sampling (epoch = parameters.epochs) epoch (integerOf (field "batch_index" cursor))
    (field "sample_order" members)
  return members

def samplerState (members : List (Json.Text × Value F)) : Value F :=
  .object [(textOf "cursor", field "cursor" members), (textOf "sampler", field "sampler" members),
    (textOf "sample_order", field "sample_order" members)]

def samplerStateChecksum (members : List (Json.Text × Value F)) : Except EncodeError Json.Text := do
  let raw <- canonicalJson floats (samplerState members)
  return sampling.sha.checksum raw

def cursorFields : List Json.Text :=
  [textOf "step", textOf "epoch", textOf "item_cursor", textOf "sampler_state_checksum"]

def itemCursor (parameters : TrainingParameters) (epoch batchIndex : Int) : Int :=
  if epoch = parameters.epochs then 0 else min parameters.subsetSize (batchIndex * parameters.batchSize)

def runtimeCursor (members : List (Json.Text × Value F)) : Except EncodeError (List (Json.Text × Value F)) := do
  let cursor := membersOf (field "cursor" members)
  let parameters := parametersOf (membersOf (field "sampler" members))
  let item := itemCursor parameters (integerOf (field "epoch" cursor)) (integerOf (field "batch_index" cursor))
  let checksum <- samplerStateChecksum floats sampling members
  return [(textOf "step", field "step" cursor), (textOf "epoch", field "epoch" cursor),
    (textOf "item_cursor", .integer item), (textOf "sampler_state_checksum", .string checksum)]

end

inductive LaunchSpecError where
  | spec (message : String)
deriving DecidableEq

def validateTrainingCursor {F : Type} (cursor : Value F) (parameters : TrainingParameters) :
    Except LaunchSpecError (List (Json.Text × Value F)) := do
  let members <- orFail (.spec "training cursor is invalid") (objectWith cursorFields cursor)
  require (integerWithin 0 parameters.epochs (field "epoch" members) ∧
      integerWithin 0 (parameters.epochs * parameters.perEpoch) (field "step" members) ∧
      integerWithin 0 parameters.subsetSize (field "item_cursor" members) ∧
      isChecksumValue (field "sampler_state_checksum" members))
    (.spec "training cursor is invalid")
  let epoch := integerOf (field "epoch" members)
  let batchIndex := integerOf (field "step" members) - epoch * parameters.perEpoch
  require (((0 ≤ batchIndex ∧ batchIndex < parameters.perEpoch) ∨ (epoch = parameters.epochs ∧ batchIndex = 0)) ∧
      integerOf (field "item_cursor" members) = itemCursor parameters epoch batchIndex)
    (.spec "training cursor is inconsistent")
  return members

structure TrainingParameters.Allowed (parameters : TrainingParameters) : Prop where
  subset : minSubset ≤ parameters.subsetSize ∧ parameters.subsetSize ≤ maxSubset
  batch : 1 ≤ parameters.batchSize ∧ parameters.batchSize ≤ maxBatchSize
  epochs : 1 ≤ parameters.epochs ∧ parameters.epochs ≤ maxEpochs

structure Position (parameters : TrainingParameters) (epoch batchIndex : Int) : Prop where
  epochWithin : 0 ≤ epoch ∧ epoch ≤ parameters.epochs
  batchWithin : 0 ≤ batchIndex ∧ batchIndex < parameters.perEpoch
  finished : epoch = parameters.epochs -> batchIndex = 0

def stepOf (parameters : TrainingParameters) (epoch batchIndex : Int) : Int :=
  epoch * parameters.perEpoch + batchIndex

variable {epoch batchIndex : Int}

section

variable {parameters : TrainingParameters}

section

variable (allowed : parameters.Allowed)

include allowed

theorem TrainingParameters.Allowed.perEpoch_spec :
    (parameters.perEpoch - 1) * parameters.batchSize < parameters.subsetSize ∧
      parameters.subsetSize ≤ parameters.perEpoch * parameters.batchSize := by
  have positive : 0 < parameters.batchSize := by linarith [allowed.batch.1]
  have quotient := Int.mul_ediv_add_emod (-parameters.subsetSize) parameters.batchSize
  have low := Int.emod_nonneg (-parameters.subsetSize) positive.ne'
  have high := Int.emod_lt_of_pos (-parameters.subsetSize) positive
  rw [TrainingParameters.perEpoch, batchesPerEpoch, Int.fdiv_eq_ediv_of_nonneg _ positive.le]
  constructor <;> nlinarith

theorem TrainingParameters.Allowed.perEpoch_bounds : 1 ≤ parameters.perEpoch ∧ parameters.perEpoch ≤ maxSubset := by
  obtain ⟨short, whole⟩ := allowed.perEpoch_spec
  have subset := allowed.subset
  have batch := allowed.batch
  simp only [minSubset, maxSubset] at subset ⊢
  constructor <;> nlinarith

theorem Position.itemCursor_eq
    (position : Position parameters epoch batchIndex) :
    itemCursor parameters epoch batchIndex = batchIndex * parameters.batchSize ∧
      0 ≤ batchIndex * parameters.batchSize ∧ batchIndex * parameters.batchSize ≤ parameters.subsetSize := by
  have short := allowed.perEpoch_spec.1
  have batch := allowed.batch
  obtain ⟨low, high⟩ := position.batchWithin
  have within : batchIndex * parameters.batchSize ≤ (parameters.perEpoch - 1) * parameters.batchSize := by
    nlinarith
  refine ⟨?_, by nlinarith, by linarith⟩
  rw [itemCursor]
  split_ifs with last
  · rw [position.finished last, zero_mul]
  · exact min_eq_right (by linarith)

theorem Position.step_bounds
    (position : Position parameters epoch batchIndex) :
    0 ≤ stepOf parameters epoch batchIndex ∧
      stepOf parameters epoch batchIndex ≤ parameters.epochs * parameters.perEpoch := by
  have one := allowed.perEpoch_bounds.1
  obtain ⟨low, high⟩ := position.batchWithin
  obtain ⟨first, last⟩ := position.epochWithin
  rw [stepOf]
  refine ⟨by positivity, ?_⟩
  rcases last.eq_or_lt with finished | before
  · rw [position.finished finished, finished, add_zero]
  · nlinarith

theorem Position.finished_iff
    (position : Position parameters epoch batchIndex) :
    stepOf parameters epoch batchIndex = parameters.epochs * parameters.perEpoch <-> epoch = parameters.epochs := by
  have one := allowed.perEpoch_bounds.1
  obtain ⟨low, high⟩ := position.batchWithin
  rw [stepOf]
  constructor
  · intro total
    by_contra other
    have before : epoch + 1 ≤ parameters.epochs := by
      have bounds := position.epochWithin
      omega
    nlinarith
  · intro last
    rw [position.finished last, last, add_zero]

end

end

variable {parameters : TrainingParameters} {verifyPermutation : Bool}

section

variable {F : Type} {floats : Floats F} {sampling : Sampling}

variable {value : Value F}

theorem integerWithin_iff {low high : Int} :
    integerWithin low high value = true <-> ∃ number, value = .integer number ∧ low ≤ number ∧ number ≤ high := by
  cases value <;> simp [integerWithin]

theorem isChecksumValue_iff :
    isChecksumValue value = true <-> ∃ text, value = .string text ∧ isChecksum text = true := by
  cases value <;> simp [isChecksumValue]

theorem isText_iff {literal : String} : isText floats literal value <-> value = .string (textOf literal) := by
  cases value <;> simp [isText, pyEq, numbersEqual, number?]

theorem checksums_eq_some {items : List (Value F)} :
    checksums value = some items <-> value = .array items ∧ ∀ item ∈ items, isChecksumValue item = true := by
  cases value with
  | array others =>
    simp only [checksums, Option.ite_none_right_eq_some, Option.some.injEq, Value.array.injEq, List.all_eq_true]
    constructor
    · rintro ⟨each, rfl⟩
      exact ⟨rfl, each⟩
    · rintro ⟨rfl, each⟩
      exact ⟨each, rfl⟩
  | null | boolean | integer | float | string | object => simp [checksums]

variable {sampler : List (Json.Text × Value F)}

theorem checkSampler_eq_ok :
    checkSampler floats value = .ok sampler <->
      (value = .object sampler ∧ closed samplerFields sampler = true) ∧
        field "algorithm" sampler = .string (textOf "nexa-sampler-v1") ∧
        integerWithin 0 maxSeed (field "seed" sampler) = true ∧
        integerWithin minSubset maxSubset (field "subset_size" sampler) = true ∧
        integerWithin 1 maxBatchSize (field "batch_size" sampler) = true ∧
        integerWithin 1 maxEpochs (field "epochs" sampler) = true := by
  simp only [checkSampler, bind_eq_ok, orFail_eq_ok, require_eq_ok, pure_eq_ok, objectWith_eq_some, isText_iff]
  constructor
  · rintro ⟨found, object, _, algorithm, _, seed, _, subset, _, batch, _, epochs, rfl⟩
    exact ⟨object, algorithm, seed, subset, batch, epochs⟩
  · rintro ⟨object, algorithm, seed, subset, batch, epochs⟩
    exact ⟨sampler, object, (), algorithm, (), seed, (), subset, (), batch, (), epochs, rfl⟩

theorem checkSampler_allowed
    (accepted : checkSampler floats value = .ok sampler) : (parametersOf sampler).Allowed := by
  obtain ⟨_, _, _, subset, batch, epochs⟩ := checkSampler_eq_ok.mp accepted
  obtain ⟨subsetSize, subsetField, subsetWithin⟩ := integerWithin_iff.mp subset
  obtain ⟨batchSize, batchField, batchWithin⟩ := integerWithin_iff.mp batch
  obtain ⟨count, epochsField, epochsWithin⟩ := integerWithin_iff.mp epochs
  constructor
  · simpa only [parametersOf, subsetField, integerOf] using subsetWithin
  · simpa only [parametersOf, batchField, integerOf] using batchWithin
  · simpa only [parametersOf, epochsField, integerOf] using epochsWithin

theorem checkCursor_position {cursor : List (Json.Text × Value F)}
    (accepted : checkCursor floats parameters value = .ok cursor) :
    (value = .object cursor ∧ closed positionFields cursor = true) ∧
      ∃ epoch batchIndex, Position parameters epoch batchIndex ∧ field "epoch" cursor = .integer epoch ∧
        field "batch_index" cursor = .integer batchIndex ∧
        pyEq floats (field "step" cursor) (.integer (stepOf parameters epoch batchIndex)) = true := by
  simp only [checkCursor, bind_eq_ok, orFail_eq_ok, require_eq_ok, pure_eq_ok, objectWith_eq_some] at accepted
  obtain ⟨found, object, _, epochs, _, batches, _, last, _, step, rfl⟩ := accepted
  obtain ⟨epoch, epochField, epochWithin⟩ := integerWithin_iff.mp epochs
  obtain ⟨batchIndex, batchField, batchWithin⟩ := integerWithin_iff.mp batches
  simp only [epochField, batchField, integerOf] at last step
  refine ⟨object, epoch, batchIndex, ⟨epochWithin, ⟨batchWithin.1, by omega⟩, fun finished => ?_⟩, epochField,
    batchField, step⟩
  by_contra other
  exact last ⟨finished, other⟩

theorem checkPermutation_field {finished : Bool}
    (accepted : checkPermutation sampling verifyPermutation finished epoch sampler = .ok ()) :
    field "permutation_checksum" sampler = .null ∨ isChecksumValue (field "permutation_checksum" sampler) = true := by
  unfold checkPermutation at accepted
  split at accepted
  · rw [require_eq_ok] at accepted
    cases found : field "permutation_checksum" sampler <;> simp_all
  · exact .inr (require_eq_ok.mp accepted).1

theorem checkOrder_fields {finished : Bool}
    (accepted : checkOrder sampling finished epoch batchIndex value = .ok ()) :
    ∃ order completed, (value = .object order ∧ closed orderFields order = true) ∧
      (field "completed" order = .array completed ∧ ∀ item ∈ completed, isChecksumValue item = true) ∧
      (finished = true ∧ field "running" order = .null ∨ isChecksumValue (field "running" order) = true) := by
  simp only [checkOrder, bind_eq_ok, orFail_eq_ok, require_eq_ok, objectWith_eq_some, checksums_eq_some] at accepted
  obtain ⟨order, object, completed, items, _, _, running⟩ := accepted
  refine ⟨order, completed, object, items, ?_⟩
  split at running
  · rw [require_eq_ok] at running
    cases found : field "running" order <;> simp_all
  · exact .inr (require_eq_ok.mp running).1

theorem plain_integer {number : Int} (safe : number.natAbs ≤ maxSafeInteger) : Plain (.integer number : Value F) := safe

theorem plain_integerWithin {low high : Int} (within : integerWithin low high value = true)
    (lowest : -9007199254740991 ≤ low) (highest : high ≤ 9007199254740991) : Plain value := by
  obtain ⟨number, rfl, above, below⟩ := integerWithin_iff.mp within
  refine plain_integer ?_
  rw [maxSafeInteger]
  omega

theorem plain_checksum (valid : isChecksumValue value = true) : Plain value := by
  obtain ⟨text, rfl, checksum⟩ := isChecksumValue_iff.mp valid
  exact printable_of_isChecksum checksum

theorem plain_optionalChecksum (valid : value = .null ∨ isChecksumValue value = true) : Plain value := by
  rcases valid with rfl | checksum
  · trivial
  · exact plain_checksum checksum

theorem plain_object {fields : List Json.Text} {members : List (Json.Text × Value F)}
    (exact : closed fields members = true)
    (distinct : (members.map Prod.fst).Nodup) (names : ∀ name ∈ fields, Printable name)
    (each : ∀ name ∈ fields, Plain ((lookup name members).getD .null)) : Plain (.object members) := by
  refine Value.all_object.mpr ⟨fun member inside => ?_, fun member inside => ?_⟩
  · exact names member.1 (member_of_closed exact distinct inside).1
  · obtain ⟨known, found⟩ := member_of_closed exact distinct inside
    have plain := each member.1 known
    rw [found] at plain
    exact plain

theorem plain_sampler (keyed : value.Keyed) (accepted : checkSampler floats value = .ok sampler)
    (permutation : field "permutation_checksum" sampler = .null ∨
      isChecksumValue (field "permutation_checksum" sampler) = true) : Plain value := by
  obtain ⟨⟨rfl, exact⟩, algorithm, seed, subset, batch, epochs⟩ := checkSampler_eq_ok.mp accepted
  refine plain_object exact (Value.keyed_object.mp keyed).1 (by decide) ?_
  simp only [samplerFields, List.forall_mem_cons, List.not_mem_nil, false_imp_iff, implies_true, and_true]
  refine ⟨?_, plain_integerWithin seed (by decide) (by decide), plain_integerWithin subset (by decide) (by decide),
    plain_integerWithin batch (by decide) (by decide), plain_integerWithin epochs (by decide) (by decide),
    plain_optionalChecksum permutation⟩
  change Plain (field "algorithm" sampler)
  rw [algorithm]
  exact show Printable (textOf "nexa-sampler-v1") by decide

theorem plain_cursor {cursor : List (Json.Text × Value F)}
    (keyed : (Value.object cursor).Keyed) (exact : closed positionFields cursor = true)
    (allowed : parameters.Allowed) (position : Position parameters epoch batchIndex)
    (epochField : field "epoch" cursor = .integer epoch) (batchField : field "batch_index" cursor = .integer batchIndex)
    (stepField : field "step" cursor = .integer (stepOf parameters epoch batchIndex)) : Plain (.object cursor) := by
  have perEpoch := allowed.perEpoch_bounds
  have epochs := allowed.epochs
  have epochWithin := position.epochWithin
  have batchWithin := position.batchWithin
  obtain ⟨stepLow, stepHigh⟩ := position.step_bounds allowed
  simp only [maxSubset, maxEpochs] at perEpoch epochs
  have total : parameters.epochs * parameters.perEpoch ≤ 100 * 50000 := by nlinarith
  refine plain_object exact (Value.keyed_object.mp keyed).1 (by decide) ?_
  simp only [positionFields, List.forall_mem_cons, List.not_mem_nil, false_imp_iff, implies_true, and_true]
  change Plain (field "epoch" cursor) ∧ Plain (field "batch_index" cursor) ∧ Plain (field "step" cursor)
  rw [epochField, batchField, stepField]
  refine ⟨plain_integer ?_, plain_integer ?_, plain_integer ?_⟩ <;> rw [maxSafeInteger] <;> omega

theorem plain_order {order : List (Json.Text × Value F)} {completed : List (Value F)}
    (keyed : (Value.object order).Keyed) (exact : closed orderFields order = true)
    (items : field "completed" order = .array completed) (each : ∀ item ∈ completed, isChecksumValue item = true)
    (running : field "running" order = .null ∨ isChecksumValue (field "running" order) = true) :
    Plain (.object order) := by
  refine plain_object exact (Value.keyed_object.mp keyed).1 (by decide) ?_
  simp only [orderFields, List.forall_mem_cons, List.not_mem_nil, false_imp_iff, implies_true, and_true]
  change Plain (field "completed" order) ∧ Plain (field "running" order)
  rw [items]
  exact ⟨Value.all_array.mpr ⟨trivial, fun item member => plain_checksum (each item member)⟩,
    plain_optionalChecksum running⟩

end

section

variable {F : Type} {floats : Floats F} {sampling : Sampling}

structure StandsAt (members : List (Json.Text × Value F)) (parameters : TrainingParameters) (epoch batchIndex : Int) :
    Prop where
  job : parametersOf (membersOf (field "sampler" members)) = parameters
  atEpoch : field "epoch" (membersOf (field "cursor" members)) = .integer epoch
  atBatch : field "batch_index" (membersOf (field "cursor" members)) = .integer batchIndex
  atStep : field "step" (membersOf (field "cursor" members)) = .integer (stepOf parameters epoch batchIndex)
  plain : Plain (samplerState members)

variable {members : List (Json.Text × Value F)}

theorem plain_samplerState (cursor : Plain (field "cursor" members))
    (sampler : Plain (field "sampler" members)) (order : Plain (field "sample_order" members)) :
    Plain (samplerState members) := by
  refine Value.all_object.mpr ⟨?_, ?_⟩
  · simp only [List.forall_mem_cons, List.not_mem_nil, false_imp_iff, implies_true, and_true]
    decide
  · simp only [List.forall_mem_cons, List.not_mem_nil, false_imp_iff, implies_true, and_true]
    exact ⟨cursor, sampler, order⟩

theorem checks_of_accepted {document : Value F}
    (accepted : validateTrainingState floats sampling document verifyPermutation = .ok members) :
    document = .object members ∧ ∃ sampler cursor, checkSampler floats (field "sampler" members) = .ok sampler ∧
      checkCursor floats (parametersOf sampler) (field "cursor" members) = .ok cursor ∧
      checkPermutation sampling verifyPermutation (integerOf (field "epoch" cursor) = (parametersOf sampler).epochs)
        (integerOf (field "epoch" cursor)) sampler = .ok () ∧
      checkOrder sampling (integerOf (field "epoch" cursor) = (parametersOf sampler).epochs)
        (integerOf (field "epoch" cursor)) (integerOf (field "batch_index" cursor))
        (field "sample_order" members) = .ok () := by
  simp only [validateTrainingState, bind_eq_ok, orFail_eq_ok, require_eq_ok, pure_eq_ok, objectWith_eq_some]
    at accepted
  obtain ⟨found, ⟨object, _⟩, _, _, _, _, _, _, _, _, sampler, sampling, cursor, position, _, permutation, _, order,
    rfl⟩ := accepted
  exact ⟨object, sampler, cursor, sampling, position, permutation, order⟩

theorem standsAt_of_accepted {document : Document F}
    (accepted : validateTrainingState floats sampling document.value verifyPermutation = .ok members) {step : Int}
    (whole : field "step" (membersOf (field "cursor" members)) = .integer step) :
    ∃ parameters epoch batchIndex, parameters.Allowed ∧ Position parameters epoch batchIndex ∧
      StandsAt members parameters epoch batchIndex := by
  obtain ⟨object, sampler, cursor, sampling, position, permutation, order⟩ := checks_of_accepted accepted
  have keyed : (Value.object members).Keyed := object ▸ document.keyed
  have allowed := checkSampler_allowed sampling
  obtain ⟨⟨samplerValue, _⟩, _⟩ := checkSampler_eq_ok.mp sampling
  obtain ⟨⟨cursorValue, cursorClosed⟩, epoch, batchIndex, position, epochField, batchField, stepField⟩ :=
    checkCursor_position position
  obtain ⟨order, completed, ⟨orderValue, orderClosed⟩, ⟨items, each⟩, running⟩ := checkOrder_fields order
  have cursorKeyed := keyed.field "cursor"
  have orderKeyed := keyed.field "sample_order"
  rw [cursorValue] at whole cursorKeyed
  rw [orderValue] at orderKeyed
  -- The step is an integer, so Python's equality says which.
  have exactStep : field "step" cursor = .integer (stepOf (parametersOf sampler) epoch batchIndex) := by
    rw [membersOf] at whole
    rw [whole] at stepField ⊢
    simpa [pyEq, numbersEqual, number?] using stepField
  refine ⟨parametersOf sampler, epoch, batchIndex, allowed, position, ?_⟩
  constructor
  · rw [samplerValue, membersOf]
  · rw [cursorValue, membersOf, epochField]
  · rw [cursorValue, membersOf, batchField]
  · rw [cursorValue, membersOf, exactStep]
  · refine plain_samplerState ?_ ?_ ?_
    · rw [cursorValue]
      exact plain_cursor cursorKeyed cursorClosed allowed position epochField batchField exactStep
    · exact plain_sampler (keyed.field "sampler") sampling (checkPermutation_field permutation)
    · rw [orderValue]
      exact plain_order orderKeyed orderClosed items each (running.imp And.right id)

def cursorDocument (step epoch item : Int) (checksum : Json.Text) : List (Json.Text × Value F) :=
  [(textOf "step", .integer step), (textOf "epoch", .integer epoch), (textOf "item_cursor", .integer item),
    (textOf "sampler_state_checksum", .string checksum)]

section

variable (step epoch item : Int) (checksum : Json.Text)

@[simp]
theorem field_step_cursorDocument : field (F := F) "step" (cursorDocument step epoch item checksum) = .integer step :=
  rfl

@[simp]
theorem field_epoch_cursorDocument :
    field (F := F) "epoch" (cursorDocument step epoch item checksum) = .integer epoch := rfl

@[simp]
theorem field_item_cursorDocument :
    field (F := F) "item_cursor" (cursorDocument step epoch item checksum) = .integer item := rfl

@[simp]
theorem field_checksum_cursorDocument :
    field (F := F) "sampler_state_checksum" (cursorDocument step epoch item checksum) = .string checksum := rfl

theorem objectWith_cursorDocument :
    objectWith cursorFields (.object (cursorDocument step epoch item checksum) : Value F) =
      some (cursorDocument step epoch item checksum) := rfl

end

theorem StandsAt.runtimeCursor_eq (stands : StandsAt members parameters epoch batchIndex) :
    ∃ checksum, isChecksum checksum = true ∧
      runtimeCursor floats sampling members = .ok
        (cursorDocument (stepOf parameters epoch batchIndex) epoch (itemCursor parameters epoch batchIndex)
          checksum) := by
  have total : ∃ raw, canonicalJson floats (samplerState members) = .ok raw := canonicalJson_plain stands.plain
  obtain ⟨raw, encoded⟩ := total
  refine ⟨sampling.sha.checksum raw, isChecksum_checksum sampling.sha raw, ?_⟩
  simp only [runtimeCursor, samplerStateChecksum, encoded, stands.job, stands.atEpoch, stands.atBatch,
    stands.atStep, integerOf]
  rfl

theorem validateTrainingCursor_eq_ok {cursor : Value F} :
    validateTrainingCursor cursor parameters = .ok members <->
      objectWith cursorFields cursor = some members ∧
        (integerWithin 0 parameters.epochs (field "epoch" members) = true ∧
          integerWithin 0 (parameters.epochs * parameters.perEpoch) (field "step" members) = true ∧
          integerWithin 0 parameters.subsetSize (field "item_cursor" members) = true ∧
          isChecksumValue (field "sampler_state_checksum" members) = true) ∧
        let epoch := integerOf (field "epoch" members)
        let batchIndex := integerOf (field "step" members) - epoch * parameters.perEpoch
        ((0 ≤ batchIndex ∧ batchIndex < parameters.perEpoch) ∨ (epoch = parameters.epochs ∧ batchIndex = 0)) ∧
          integerOf (field "item_cursor" members) = itemCursor parameters epoch batchIndex := by
  simp only [validateTrainingCursor, bind_eq_ok, orFail_eq_ok, require_eq_ok, pure_eq_ok]
  constructor
  · rintro ⟨found, object, _, shape, _, consistent, rfl⟩
    exact ⟨object, shape, consistent⟩
  · rintro ⟨object, shape, consistent⟩
    exact ⟨members, object, (), shape, (), consistent, rfl⟩

theorem validateTrainingCursor_position
    (allowed : parameters.Allowed) (position : Position parameters epoch batchIndex) {checksum : Json.Text}
    (valid : isChecksum checksum = true) :
    validateTrainingCursor (F := F) (.object (cursorDocument (stepOf parameters epoch batchIndex) epoch
      (itemCursor parameters epoch batchIndex) checksum)) parameters =
      .ok (cursorDocument (stepOf parameters epoch batchIndex) epoch (itemCursor parameters epoch batchIndex)
        checksum) := by
  obtain ⟨item, itemLow, itemHigh⟩ := position.itemCursor_eq allowed
  obtain ⟨stepLow, stepHigh⟩ := position.step_bounds allowed
  have back : stepOf parameters epoch batchIndex - epoch * parameters.perEpoch = batchIndex := by
    rw [stepOf, add_sub_cancel_left]
  refine validateTrainingCursor_eq_ok.mpr ⟨objectWith_cursorDocument .., ?_, ?_⟩
  · simp only [field_step_cursorDocument, field_epoch_cursorDocument, field_item_cursorDocument,
      field_checksum_cursorDocument, integerWithin, isChecksumValue, decide_eq_true_eq]
    rw [item]
    exact ⟨position.epochWithin, ⟨stepLow, stepHigh⟩, ⟨itemLow, itemHigh⟩, valid⟩
  · simp only [field_step_cursorDocument, field_epoch_cursorDocument, field_item_cursorDocument, integerOf, back]
    exact ⟨.inl position.batchWithin, trivial⟩

end

end Nexa.Workloads
