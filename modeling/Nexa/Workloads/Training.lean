import Nexa.Workloads.TrainingState

/-! `pytorch_cifar10.py`: where the trainer begins, how it resumes, and the states at the boundaries of its batches. -/

namespace Nexa.Workloads

open Json Outcome Value
open List hiding lookup

inductive TrainingError where
  | input (message : String)
  | internal (message : String)
deriving DecidableEq

structure TrainingParams (F : Type) where
  epochs : Int
  batchSize : Int
  learningRate : F
  seed : Int
  subsetSize : Int

structure Trainer (F : Type) where
  params : TrainingParams F
  threads : Int
  inputChecksum : Json.Text
  specChecksum : Json.Text
  epoch : Int
  batchIndex : Int
  completed : List (Value F)
  running : Value F

variable {F : Type}

def TrainingParams.parameters (params : TrainingParams F) : TrainingParameters where
  subsetSize := params.subsetSize
  batchSize := params.batchSize
  epochs := params.epochs

variable {trainer : Trainer F}

namespace Trainer

def finished (trainer : Trainer F) : Bool := trainer.epoch = trainer.params.epochs

def step (trainer : Trainer F) : Int := stepOf trainer.params.parameters trainer.epoch trainer.batchIndex

section

variable (floats : Floats F) (sampling : Sampling)

/-- `TrainingParams.__post_init__` and `Trainer.__init__`, on a dataset with `trainSize` images to train on. -/
def start (params : TrainingParams F) (trainSize threads : Int) (inputChecksum specChecksum : Json.Text) :
    Except TrainingError (Trainer F) := do
  require ((1 ≤ params.epochs ∧ params.epochs ≤ maxEpochs) ∧
      (1 ≤ params.batchSize ∧ params.batchSize ≤ maxBatchSize) ∧ floats.isFinite params.learningRate ∧
      (floats.aboveInteger params.learningRate 0 ∧ floats.atMostInteger params.learningRate 1) ∧
      (0 ≤ params.seed ∧ params.seed ≤ maxSeed) ∧ (minSubset ≤ params.subsetSize ∧ params.subsetSize ≤ maxSubset))
    (.input "training parameters are out of range")
  require (params.subsetSize ≤ trainSize) (.input "subset_size exceeds the dataset train split")
  return { params, threads, inputChecksum, specChecksum, epoch := 0, batchIndex := 0, completed := []
           running := .string (initialOrderDigest sampling.sha 0) }

def epochOrder (trainer : Trainer F) : List Nat :=
  sampling.permutation trainer.params.seed trainer.epoch trainer.params.subsetSize

def optimizer (trainer : Trainer F) : List (Json.Text × Value F) :=
  [(textOf "algorithm", .string (textOf "sgd-momentum-v1")),
    (textOf "learning_rate", .float trainer.params.learningRate),
    (textOf "momentum", .float (floats.literal ['0', '.', '9']))]

def cursor (trainer : Trainer F) : List (Json.Text × Value F) :=
  [(textOf "epoch", .integer trainer.epoch), (textOf "batch_index", .integer trainer.batchIndex),
    (textOf "step", .integer trainer.step)]

def sampler (trainer : Trainer F) : List (Json.Text × Value F) :=
  [(textOf "algorithm", .string (textOf "nexa-sampler-v1")), (textOf "seed", .integer trainer.params.seed),
    (textOf "subset_size", .integer trainer.params.subsetSize),
    (textOf "batch_size", .integer trainer.params.batchSize),
    (textOf "epochs", .integer trainer.params.epochs),
    (textOf "permutation_checksum",
      if trainer.finished then .null else .string (permutationChecksum sampling.sha (trainer.epochOrder sampling)))]

def sampleOrder (trainer : Trainer F) : List (Json.Text × Value F) :=
  [(textOf "completed", .array trainer.completed),
    (textOf "running", if trainer.finished then .null else trainer.running)]

def stateDocument (trainer : Trainer F) : List (Json.Text × Value F) :=
  [(textOf "schema_version", .integer 1), (textOf "format", .string (textOf "pytorch-cifar10-state-v1")),
    (textOf "architecture_id", .string (textOf "nexa-cifar10-smallcnn-v1")),
    (textOf "architecture_version", .string (textOf "1")),
    (textOf "preprocessing", .string (textOf "cifar10-u8-chw-v1")),
    (textOf "optimizer", .object (trainer.optimizer floats)), (textOf "threads", .integer trainer.threads),
    (textOf "input_checksum", .string trainer.inputChecksum), (textOf "spec_checksum", .string trainer.specChecksum),
    (textOf "cursor", .object trainer.cursor), (textOf "sampler", .object (trainer.sampler sampling)),
    (textOf "sample_order", .object trainer.sampleOrder)]

def withoutPermutation (sampler : List (Json.Text × Value F)) : Value F :=
  .object (sampler.filter fun member => member.1 ≠ textOf "permutation_checksum")

def sameField (found expected : List (Json.Text × Value F)) (name : String) : Except TrainingError Unit :=
  require (pyEq floats (field name found) (field name expected))
    (.internal ("restore state " ++ name ++ " does not match this run"))

def restore (trainer : Trainer F) (document : Value F) : Except TrainingError (Trainer F) := do
  let found <- (validateTrainingState floats sampling document true).mapError
    fun _ => .internal "restore state is unreadable after runner verification"
  let expected := trainer.stateDocument floats sampling
  ["optimizer", "threads", "input_checksum", "spec_checksum"].forM (sameField floats found expected)
  require (pyEq floats (withoutPermutation (membersOf (field "sampler" found)))
      (withoutPermutation (trainer.sampler sampling)))
    (.internal "restore sampler does not match this run")
  let cursor := membersOf (field "cursor" found)
  let order := membersOf (field "sample_order" found)
  return { trainer with
           epoch := integerOf (field "epoch" cursor), batchIndex := integerOf (field "batch_index" cursor)
           completed := (checksums (field "completed" order)).getD [], running := field "running" order }

def trainBatch (trainer : Trainer F) : Trainer F := let batch := trainer.params.batchSize.toNat
  let positions := ((trainer.epochOrder sampling).drop (trainer.batchIndex.toNat * batch)).take batch
  let running := chainOrderDigest sampling.sha (stringOf trainer.running) positions
  if trainer.batchIndex + 1 = trainer.params.parameters.perEpoch then
    { trainer with
      completed := trainer.completed ++ [.string running], epoch := trainer.epoch + 1, batchIndex := 0
      running := .string (initialOrderDigest sampling.sha (trainer.epoch + 1)) }
  else { trainer with batchIndex := trainer.batchIndex + 1, running := .string running }

def boundaries : Nat -> Trainer F -> List (Trainer F)
  | 0, _ => []
  | turns + 1, trainer =>
    if trainer.finished then []
    else trainer.trainBatch sampling :: boundaries turns (trainer.trainBatch sampling)

def train (trainer : Trainer F) : List (Trainer F) :=
  trainer.boundaries sampling (trainer.params.epochs * trainer.params.parameters.perEpoch - trainer.step).toNat

end

variable {floats : Floats F} {sampling : Sampling}

inductive Started (floats : Floats F) (sampling : Sampling) : Trainer F -> Prop where
  | start {params : TrainingParams F} {trainSize threads : Int} {inputChecksum specChecksum : Json.Text}
      {trainer : Trainer F}
      (made : start floats sampling params trainSize threads inputChecksum specChecksum = .ok trainer) :
      Started floats sampling trainer
  | restore {trainer restored : Trainer F} {document : Value F} (started : Started floats sampling trainer)
      (resumed : trainer.restore floats sampling document = .ok restored) : Started floats sampling restored
  | train {trainer : Trainer F} (started : Started floats sampling trainer) (running : trainer.finished = false) :
      Started floats sampling (trainer.trainBatch sampling)

structure Sound (trainer : Trainer F) : Prop where
  allowed : trainer.params.parameters.Allowed
  seed : 0 ≤ trainer.params.seed ∧ trainer.params.seed ≤ maxSeed
  position : Position trainer.params.parameters trainer.epoch trainer.batchIndex
  completed : ∀ item ∈ trainer.completed, isChecksumValue item = true
  running : trainer.finished = false -> isChecksumValue trainer.running = true

theorem trainBatch_cases (sampling : Sampling) (trainer : Trainer F) :
    (trainer.batchIndex + 1 = trainer.params.parameters.perEpoch ∧
      ∃ digest, trainer.trainBatch sampling = { trainer with
        completed := trainer.completed ++ [.string (sampling.sha.checksum digest)], epoch := trainer.epoch + 1
        batchIndex := 0, running := .string (initialOrderDigest sampling.sha (trainer.epoch + 1)) }) ∨
    (trainer.batchIndex + 1 ≠ trainer.params.parameters.perEpoch ∧
      ∃ digest, trainer.trainBatch sampling = { trainer with
        batchIndex := trainer.batchIndex + 1, running := .string (sampling.sha.checksum digest) }) := by
  by_cases last : trainer.batchIndex + 1 = trainer.params.parameters.perEpoch
  · exact .inl ⟨last, _, if_pos last⟩
  · exact .inr ⟨last, _, if_neg last⟩

theorem Sound.epoch_lt (sound : trainer.Sound) (running : trainer.finished = false) :
    trainer.epoch < trainer.params.epochs := by
  have other : ¬trainer.epoch = trainer.params.epochs := of_decide_eq_false running
  have bounds : trainer.epoch ≤ trainer.params.epochs := sound.position.epochWithin.2
  omega

theorem Sound.trainBatch (sound : trainer.Sound) (running : trainer.finished = false) :
    (trainer.trainBatch sampling).Sound := by
  have before := sound.epoch_lt running
  have one := sound.allowed.perEpoch_bounds.1
  obtain ⟨epochLow, _⟩ := sound.position.epochWithin
  obtain ⟨batchLow, batchHigh⟩ := sound.position.batchWithin
  rcases trainBatch_cases sampling trainer with ⟨last, digest, next⟩ | ⟨inner, digest, next⟩
  · rw [next]
    refine ⟨sound.allowed, sound.seed, ⟨⟨?_, ?_⟩, ⟨le_refl 0, ?_⟩, fun _ => rfl⟩, ?_, fun _ => ?_⟩
    · change 0 ≤ trainer.epoch + 1
      omega
    · change trainer.epoch + 1 ≤ trainer.params.epochs
      omega
    · change 0 < trainer.params.parameters.perEpoch
      omega
    · intro item member
      rcases mem_append.mp member with earlier | now
      · exact sound.completed item earlier
      · rw [mem_singleton.mp now]
        exact isChecksum_checksum ..
    · exact isChecksum_checksum ..
  · rw [next]
    refine ⟨sound.allowed, sound.seed, ⟨sound.position.epochWithin, ⟨?_, ?_⟩, fun finished => ?_⟩, sound.completed,
      fun _ => isChecksum_checksum ..⟩
    · change 0 ≤ trainer.batchIndex + 1
      omega
    · change trainer.batchIndex + 1 < trainer.params.parameters.perEpoch
      omega
    · exact absurd finished before.ne

theorem step_trainBatch (sampling : Sampling) (trainer : Trainer F) :
    (trainer.trainBatch sampling).step = trainer.step + 1 := by
  rcases trainBatch_cases sampling trainer with ⟨last, digest, next⟩ | ⟨_, digest, next⟩
  · rw [next]
    change (trainer.epoch + 1) * trainer.params.parameters.perEpoch + 0 =
      trainer.epoch * trainer.params.parameters.perEpoch + trainer.batchIndex + 1
    linarith
  · rw [next]
    change trainer.epoch * trainer.params.parameters.perEpoch + (trainer.batchIndex + 1) =
      trainer.epoch * trainer.params.parameters.perEpoch + trainer.batchIndex + 1
    ring

theorem params_trainBatch (sampling : Sampling) (trainer : Trainer F) :
    (trainer.trainBatch sampling).params = trainer.params := by
  rcases trainBatch_cases sampling trainer with ⟨_, digest, next⟩ | ⟨_, digest, next⟩ <;> rw [next]

def item (trainer : Trainer F) : Int := itemCursor trainer.params.parameters trainer.epoch trainer.batchIndex

def Before (earlier later : Trainer F) : Prop :=
  earlier.step < later.step ∧ (earlier.epoch < later.epoch ∨ earlier.epoch = later.epoch ∧ earlier.item < later.item)

theorem Before.trans {first second third : Trainer F} (left : first.Before second) (right : second.Before third) :
    first.Before third := by
  obtain ⟨leftStep, leftItem⟩ := left
  obtain ⟨rightStep, rightItem⟩ := right
  exact ⟨by omega, by omega⟩

theorem Sound.before_trainBatch (sound : trainer.Sound) (running : trainer.finished = false) :
    trainer.Before (trainer.trainBatch sampling) := by
  have later : (trainer.trainBatch sampling).Sound := sound.trainBatch running
  refine ⟨by rw [step_trainBatch]; omega, ?_⟩
  have here := (sound.position.itemCursor_eq sound.allowed).1
  have there := (later.position.itemCursor_eq later.allowed).1
  have batch := sound.allowed.batch.1
  rcases trainBatch_cases sampling trainer with ⟨_, digest, next⟩ | ⟨_, digest, next⟩
  · left
    rw [next]
    exact Int.lt_succ trainer.epoch
  · right
    rw [item, item, here, there, next]
    refine ⟨rfl, ?_⟩
    change trainer.batchIndex * trainer.params.parameters.batchSize <
      (trainer.batchIndex + 1) * trainer.params.parameters.batchSize
    linarith

theorem Sound.boundaries (sound : trainer.Sound) (turns : Nat) :
    (trainer :: trainer.boundaries sampling turns).Pairwise Before ∧
      ∀ other ∈ trainer :: trainer.boundaries sampling turns, other.Sound := by
  induction turns generalizing trainer with
  | zero => simpa [Trainer.boundaries] using sound
  | succ turns ih =>
    rw [Trainer.boundaries]
    split_ifs with finished
    · simpa using sound
    · have running : trainer.finished = false := by simpa using finished
      obtain ⟨chain, rest⟩ := ih (sound.trainBatch running)
      have first : trainer.Before (trainer.trainBatch sampling) := sound.before_trainBatch running
      refine ⟨pairwise_cons.mpr ⟨fun other member => ?_, chain⟩, forall_mem_cons.mpr ⟨sound, rest⟩⟩
      rcases mem_cons.mp member with rfl | later
      · exact first
      · exact first.trans (rel_of_pairwise_cons chain later)

theorem Sound.finished_iff (sound : trainer.Sound) :
    trainer.finished = true <-> trainer.step = trainer.params.epochs * trainer.params.parameters.perEpoch := by
  rw [finished, decide_eq_true_eq]
  exact (sound.position.finished_iff sound.allowed).symm

theorem Sound.getLast_boundaries (sound : trainer.Sound) {turns : Nat}
    (left : trainer.params.epochs * trainer.params.parameters.perEpoch = trainer.step + turns) :
    ((trainer :: trainer.boundaries sampling turns).getLast (cons_ne_nil _ _)).finished = true := by
  induction turns generalizing trainer with
  | zero =>
    rw [Trainer.boundaries, getLast_singleton, sound.finished_iff]
    omega
  | succ turns ih =>
    have running : trainer.finished = false := by
      rw [Bool.eq_false_iff, Ne, sound.finished_iff]
      omega
    simp only [Trainer.boundaries, running, Bool.false_eq_true, if_false]
    rw [getLast_cons (cons_ne_nil _ _)]
    refine ih (sound.trainBatch running) ?_
    rw [params_trainBatch, step_trainBatch]
    push_cast at left
    omega

theorem start_sound {params : TrainingParams F} {trainSize threads : Int} {inputChecksum specChecksum : Json.Text}
    (made : start floats sampling params trainSize threads inputChecksum specChecksum = .ok trainer) :
    trainer.Sound := by
  simp only [start, bind_eq_ok, require_eq_ok, pure_eq_ok] at made
  obtain ⟨_, ⟨epochs, batch, _, _, seed, subset⟩, _, _, rfl⟩ := made
  have allowed : params.parameters.Allowed := ⟨subset, batch, epochs⟩
  refine ⟨allowed, seed, ⟨⟨le_refl 0, ?_⟩, ⟨le_refl 0, ?_⟩, fun _ => rfl⟩, by simp, fun _ => isChecksum_checksum ..⟩
  · exact (zero_le_one.trans epochs.1 : (0 : Int) ≤ params.epochs)
  · have one := allowed.perEpoch_bounds.1
    change 0 < params.parameters.perEpoch
    omega

theorem lookup_withoutPermutation {sampler : List (Json.Text × Value F)} {key : Json.Text}
    (other : key ≠ textOf "permutation_checksum") :
    lookup key (sampler.filter fun member => member.1 ≠ textOf "permutation_checksum") = lookup key sampler := by
  rw [lookup, lookup, find?_filter]
  congr 1
  refine congrArg (fun test => sampler.find? test) (funext fun member => ?_)
  by_cases same : member.1 = key
  · simp [same, other]
  · simp [same]

theorem integer_of_sameSampler {found expected : List (Json.Text × Value F)}
    (same : pyEq floats (withoutPermutation found) (withoutPermutation expected) = true) {name : String}
    (other : textOf name ≠ textOf "permutation_checksum") {number wanted : Int}
    (here : field name found = .integer number) (there : field name expected = .integer wanted) : number = wanted := by
  rw [withoutPermutation, withoutPermutation, pyEq, Bool.and_eq_true] at same
  have present : lookup (textOf name) found = some (.integer number) := by
    rw [field] at here
    cases known : lookup (textOf name) found with
    | none => rw [known] at here; cases here
    | some value => rw [known] at here; exact congrArg some here
  rw [← lookup_withoutPermutation other] at present
  obtain ⟨value, known, equal⟩ := pyEqMembers_iff.mp same.2 _ (mem_of_lookup present)
  rw [lookup_withoutPermutation other] at known
  rw [field, known, Option.getD_some] at there
  subst there
  simpa [pyEq, numbersEqual, number?] using equal

theorem restore_sound {restored : Trainer F} {document : Value F} (sound : trainer.Sound)
    (resumed : trainer.restore floats sampling document = .ok restored) : restored.Sound := by
  simp only [restore, bind_eq_ok, require_eq_ok, pure_eq_ok] at resumed
  obtain ⟨members, accepted, _, _, _, same, rfl⟩ := resumed
  cases outcome : validateTrainingState floats sampling document true with
  | error failure => rw [outcome] at accepted; cases accepted
  | ok found =>
    rw [outcome] at accepted
    cases accepted
    obtain ⟨_, sampler, cursor, checked, place, _, order⟩ := checks_of_accepted outcome
    obtain ⟨⟨samplerValue, _⟩, _, _, subset, batch, epochs⟩ := checkSampler_eq_ok.mp checked
    obtain ⟨⟨cursorValue, _⟩, epoch, batchIndex, position, epochField, batchField, _⟩ := checkCursor_position place
    obtain ⟨digests, completed, ⟨orderValue, _⟩, ⟨items, each⟩, running⟩ := checkOrder_fields order
    -- The sampler is that of the run, so the position is one of the run.
    obtain ⟨subsetSize, subsetField, _⟩ := integerWithin_iff.mp subset
    obtain ⟨batchSize, batchSizeField, _⟩ := integerWithin_iff.mp batch
    obtain ⟨count, epochsField, _⟩ := integerWithin_iff.mp epochs
    rw [samplerValue, membersOf] at same
    have job : parametersOf sampler = trainer.params.parameters := by
      rw [parametersOf, subsetField, batchSizeField, epochsField,
        integer_of_sameSampler same (by decide) subsetField rfl,
        integer_of_sameSampler same (by decide) batchSizeField rfl,
        integer_of_sameSampler same (by decide) epochsField rfl]
      rfl
    rw [job] at position running
    simp only [cursorValue, orderValue, membersOf, epochField, batchField, integerOf] at running ⊢
    have found : checksums (field "completed" digests) = some completed := checksums_eq_some.mpr ⟨items, each⟩
    rw [found]
    refine ⟨sound.allowed, sound.seed, position, each, fun unfinished => ?_⟩
    rcases running with ⟨finished, _⟩ | valid
    · exact absurd (finished.symm.trans unfinished) (by decide)
    · exact valid

theorem Started.sound (started : Started floats sampling trainer) : trainer.Sound := by
  induction started with
  | start made => exact start_sound made
  | restore _ resumed ih => exact restore_sound ih resumed
  | train _ running ih => exact ih.trainBatch running

theorem Sound.plain_sampler (floats : Floats F) (sound : trainer.Sound) :
    Plain (.object (trainer.sampler sampling)) := by
  have permutation : field "permutation_checksum" (trainer.sampler sampling) = .null ∨
      isChecksumValue (field "permutation_checksum" (trainer.sampler sampling)) = true := by
    change (if trainer.finished then null else _) = .null ∨
      isChecksumValue (if trainer.finished then null else _) = true
    split_ifs
    · exact .inl rfl
    · exact .inr (isChecksum_checksum ..)
  have keyed : (object (trainer.sampler sampling)).Keyed := by
    refine keyed_object.mpr ⟨show samplerFields.Nodup by decide, ?_⟩
    simp only [sampler, forall_mem_cons, not_mem_nil, false_imp_iff, implies_true, and_true]
    refine ⟨trivial, trivial, trivial, trivial, trivial, ?_⟩
    split_ifs <;> trivial
  have checked : checkSampler floats (.object (trainer.sampler sampling)) = .ok (trainer.sampler sampling) := by
    refine checkSampler_eq_ok.mpr ⟨⟨rfl, rfl⟩, rfl, ?_, ?_, ?_, ?_⟩
    · exact integerWithin_iff.mpr ⟨_, rfl, sound.seed⟩
    · exact integerWithin_iff.mpr ⟨_, rfl, sound.allowed.subset⟩
    · exact integerWithin_iff.mpr ⟨_, rfl, sound.allowed.batch⟩
    · exact integerWithin_iff.mpr ⟨_, rfl, sound.allowed.epochs⟩
  exact Workloads.plain_sampler keyed checked permutation

theorem Sound.plain_cursor (sound : trainer.Sound) : Plain (.object trainer.cursor) := by
  have keyed : (object trainer.cursor).Keyed := by
    refine keyed_object.mpr ⟨show positionFields.Nodup by decide, ?_⟩
    simp only [cursor, forall_mem_cons, not_mem_nil, false_imp_iff, implies_true, and_true]
    exact ⟨trivial, trivial, trivial⟩
  exact Workloads.plain_cursor keyed rfl sound.allowed sound.position rfl rfl rfl

theorem Sound.plain_sampleOrder (sound : trainer.Sound) : Plain (.object trainer.sampleOrder) := by
  have digest : field "running" trainer.sampleOrder = .null ∨
      isChecksumValue (field "running" trainer.sampleOrder) = true := by
    change (if trainer.finished then null else trainer.running) = .null ∨
      isChecksumValue (if trainer.finished then null else trainer.running) = true
    split_ifs with finished
    · exact .inl rfl
    · exact .inr (sound.running (by simpa using finished))
  have plainCompleted : Plain (.array trainer.completed) :=
    all_array.mpr ⟨trivial, fun item member => plain_checksum (sound.completed item member)⟩
  refine all_object.mpr ⟨?_, ?_⟩
  · simp only [sampleOrder, forall_mem_cons, not_mem_nil, false_imp_iff, implies_true, and_true]
    decide
  · simp only [sampleOrder, forall_mem_cons, not_mem_nil, false_imp_iff, implies_true, and_true]
    exact ⟨plainCompleted, plain_optionalChecksum digest⟩

theorem Sound.standsAt (sound : trainer.Sound) :
    StandsAt (trainer.stateDocument floats sampling) trainer.params.parameters trainer.epoch trainer.batchIndex where
  job := rfl
  atEpoch := rfl
  atBatch := rfl
  atStep := rfl
  plain := plain_samplerState sound.plain_cursor (sound.plain_sampler floats) sound.plain_sampleOrder

end Trainer

def positionOf (members : List (Json.Text × Value F)) : Int × Int := let cursor := membersOf (field "cursor" members)
  (integerOf (field "epoch" cursor), integerOf (field "batch_index" cursor))

def recoveredPosition (parameters : TrainingParameters) (cursor : List (Json.Text × Value F)) : Int × Int :=
  let epoch := integerOf (field "epoch" cursor)
  (epoch, integerOf (field "step" cursor) - epoch * parameters.perEpoch)

def CursorBefore (earlier later : List (Json.Text × Value F)) : Prop :=
  integerOf (field "step" earlier) < integerOf (field "step" later) ∧
    (integerOf (field "epoch" earlier) < integerOf (field "epoch" later) ∨
      integerOf (field "epoch" earlier) = integerOf (field "epoch" later) ∧
        integerOf (field "item_cursor" earlier) < integerOf (field "item_cursor" later))

variable (floats : Floats F) (sampling : Sampling)

variable {floats sampling} in
theorem integer_step {members cursor : List (Json.Text × Value F)} {parameters : TrainingParameters}
    (derived : runtimeCursor floats sampling members = .ok cursor)
    (valid : validateTrainingCursor (.object cursor) parameters = .ok cursor) :
    ∃ step, field "step" (membersOf (field "cursor" members)) = .integer step := by
  obtain ⟨_, ⟨_, within, _⟩, _⟩ := validateTrainingCursor_eq_ok.mp valid
  simp only [runtimeCursor, bind_eq_ok, pure_eq_ok] at derived
  obtain ⟨checksum, _, rfl⟩ := derived
  obtain ⟨step, whole, _⟩ := integerWithin_iff.mp within
  exact ⟨step, whole⟩

/-- The cursor of an accepted state is valid exactly if its step is an integer; along a run the cursors increase. -/
theorem trainingCursors_sound :
    (∀ (document : Document F) (verifyPermutation : Bool) (members : List (Json.Text × Value F)),
      validateTrainingState floats sampling document.value verifyPermutation = .ok members ->
      let parameters := parametersOf (membersOf (field "sampler" members))
      (∃ step, field "step" (membersOf (field "cursor" members)) = .integer step) <->
        ∃ cursor, runtimeCursor floats sampling members = .ok cursor ∧
          validateTrainingCursor (.object cursor) parameters = .ok cursor ∧
          recoveredPosition parameters cursor = positionOf members ∧
          (integerOf (field "step" cursor) = parameters.epochs * parameters.perEpoch <->
            positionOf members = (parameters.epochs, 0))) ∧
    ∀ trainer : Trainer F, trainer.Started floats sampling ->
      (trainer :: trainer.train sampling).Pairwise (fun earlier later =>
        ∃ first second, runtimeCursor floats sampling (earlier.stateDocument floats sampling) = .ok first ∧
          runtimeCursor floats sampling (later.stateDocument floats sampling) = .ok second ∧
          CursorBefore first second) ∧
      ((trainer :: trainer.train sampling).getLast (cons_ne_nil _ _)).finished = true := by
  constructor
  · intro document verifyPermutation members accepted parameters
    refine ⟨fun ⟨step, whole⟩ => ?_, fun ⟨cursor, derived, valid, _⟩ => integer_step derived valid⟩
    obtain ⟨job, epoch, batchIndex, allowed, position, stands⟩ := standsAt_of_accepted accepted whole
    have same : parameters = job := stands.job
    have place : positionOf members = (epoch, batchIndex) := by
      rw [positionOf, stands.atEpoch, stands.atBatch, integerOf, integerOf]
    have derived : ∃ checksum, isChecksum checksum = true ∧ runtimeCursor floats sampling members = .ok
        (cursorDocument (stepOf job epoch batchIndex) epoch (itemCursor job epoch batchIndex) checksum) :=
      stands.runtimeCursor_eq
    obtain ⟨checksum, valid, cursor⟩ := derived
    refine ⟨_, cursor, ?_, ?_, ?_⟩
    · rw [same]
      exact validateTrainingCursor_position allowed position valid
    · rw [place, same, recoveredPosition, field_epoch_cursorDocument, field_step_cursorDocument, integerOf,
        integerOf, stepOf, add_sub_cancel_left]
    · rw [place, same, field_step_cursorDocument, integerOf, position.finished_iff allowed, Prod.mk.injEq]
      exact ⟨fun finished => ⟨finished, position.finished finished⟩, And.left⟩
  · intro trainer started
    have sound := started.sound
    obtain ⟨_, high⟩ := sound.position.step_bounds sound.allowed
    obtain ⟨chain, each⟩ := sound.boundaries
      (trainer.params.epochs * trainer.params.parameters.perEpoch - trainer.step).toNat
    refine ⟨chain.imp_of_mem fun {earlier later} first second before => ?_, sound.getLast_boundaries ?_⟩
    · have derived (other : Trainer F) (sound : other.Sound) : ∃ checksum, isChecksum checksum = true ∧
          runtimeCursor floats sampling (other.stateDocument floats sampling) = .ok
            (cursorDocument other.step other.epoch other.item checksum) := sound.standsAt.runtimeCursor_eq
      obtain ⟨left, _, leftCursor⟩ := derived earlier (each earlier first)
      obtain ⟨right, _, rightCursor⟩ := derived later (each later second)
      exact ⟨_, _, leftCursor, rightCursor, before⟩
    · have reached : trainer.step ≤ trainer.params.epochs * trainer.params.parameters.perEpoch := high
      omega

def sampleSampling : Sampling where
  sha := zeroSha
  permutation _ _ _ := []

def sampleParams : TrainingParams Int where
  epochs := 2
  batchSize := 60
  learningRate := 1
  seed := 7
  subsetSize := 100

def sampleTrainer : Trainer Int where
  params := sampleParams
  threads := 1
  inputChecksum := zeroSha.checksum .empty
  specChecksum := zeroSha.checksum .empty
  epoch := 0
  batchIndex := 1
  completed := []
  running := .string (zeroSha.checksum .empty)

def sampleState (step : Value Int) : List (Json.Text × Value Int) :=
  (sampleTrainer.stateDocument tenths sampleSampling).map fun member =>
    if member.1 = textOf "cursor" then
      (member.1, .object [(textOf "epoch", .integer 0), (textOf "batch_index", .integer 1), (textOf "step", step)])
    else member

theorem sampleState_keyed (step : Value Int) (keyed : step.Keyed) : (object (sampleState step)).Keyed := by
  refine keyed_object.mpr ⟨show trainingFields.Nodup by decide, ?_⟩
  have optimizer : (object (sampleTrainer.optimizer tenths)).Keyed :=
    keyed_object.mpr ⟨by decide, forall_mem_cons.mpr ⟨trivial, forall_mem_cons.mpr ⟨trivial,
      forall_mem_singleton.mpr trivial⟩⟩⟩
  have sampler : (object (sampleTrainer.sampler sampleSampling)).Keyed := by
    refine keyed_object.mpr ⟨by decide, ?_⟩
    simp only [Trainer.sampler, forall_mem_cons, not_mem_nil, false_imp_iff, implies_true, and_true]
    exact ⟨trivial, trivial, trivial, trivial, trivial, trivial⟩
  have order : (object sampleTrainer.sampleOrder).Keyed := by
    refine keyed_object.mpr ⟨by decide, ?_⟩
    simp only [Trainer.sampleOrder, forall_mem_cons, not_mem_nil, false_imp_iff, implies_true, and_true]
    exact ⟨keyed_array.mpr (by simp [sampleTrainer]), trivial⟩
  have cursor : (object [(textOf "epoch", .integer 0), (textOf "batch_index", .integer 1),
      (textOf "step", step)]).Keyed := by
    refine keyed_object.mpr ⟨show positionFields.Nodup by decide, ?_⟩
    simp only [forall_mem_cons, not_mem_nil, false_imp_iff, implies_true, and_true]
    exact ⟨trivial, trivial, keyed⟩
  simp only [sampleState, Trainer.stateDocument, map_cons, map_nil, forall_mem_cons, not_mem_nil,
    false_imp_iff, implies_true, and_true]
  exact ⟨trivial, trivial, trivial, trivial, trivial, optimizer, trivial, trivial, trivial, cursor, sampler, order⟩

theorem sampleTrainer_sound : sampleTrainer.Sound where
  allowed := by constructor <;> decide
  seed := by decide
  position := by constructor <;> decide
  completed := by simp [sampleTrainer]
  running _ := by decide

/-- A step that is `True` is equal to one, and the validator of cursors refuses it. -/
theorem runtimeCursor_boolean_step :
    ∃ (document : Document Int) (members cursor : List (Json.Text × Value Int)),
      validateTrainingState tenths sampleSampling document.value true = .ok members ∧
      runtimeCursor tenths sampleSampling members = .ok cursor ∧
      validateTrainingCursor (.object cursor) (parametersOf (membersOf (field "sampler" members))) =
        .error (.spec "training cursor is invalid") := by
  have plain : Plain (samplerState (sampleState (.boolean true))) := by
    refine plain_samplerState ?_ ?_ ?_
    · refine all_object.mpr ⟨by simp only [forall_mem_cons]; decide, ?_⟩
      simp only [forall_mem_cons, not_mem_nil, false_imp_iff, implies_true, and_true]
      exact ⟨plain_integer (by decide), plain_integer (by decide), trivial⟩
    · exact sampleTrainer_sound.plain_sampler tenths
    · exact sampleTrainer_sound.plain_sampleOrder
  obtain ⟨raw, encoded⟩ : ∃ raw, canonicalJson tenths (samplerState (sampleState (.boolean true))) = .ok raw :=
    canonicalJson_plain plain
  refine ⟨⟨.object (sampleState (.boolean true)), sampleState_keyed _ trivial⟩, sampleState (.boolean true),
    [(textOf "step", .boolean true), (textOf "epoch", .integer 0), (textOf "item_cursor", .integer 60),
      (textOf "sampler_state_checksum", .string (zeroSha.checksum raw))], rfl, ?_, rfl⟩
  simp only [runtimeCursor, samplerStateChecksum, encoded]
  rfl

theorem trainingCursors_sound_sample :
    (∃ cursor, runtimeCursor tenths sampleSampling (sampleState (.integer 1)) = .ok cursor ∧
      validateTrainingCursor (.object cursor) sampleParams.parameters = .ok cursor ∧
      recoveredPosition sampleParams.parameters cursor = (0, 1)) ∧
    ∃ trainer : Trainer Int, trainer.Started tenths sampleSampling ∧ (trainer.train sampleSampling).length = 4 ∧
      (trainer :: trainer.train sampleSampling).Pairwise (fun earlier later => ∃ first second,
        runtimeCursor tenths sampleSampling (earlier.stateDocument tenths sampleSampling) = .ok first ∧
          runtimeCursor tenths sampleSampling (later.stateDocument tenths sampleSampling) = .ok second ∧
          CursorBefore first second) := by
  obtain ⟨states, runs⟩ := trainingCursors_sound tenths sampleSampling
  obtain ⟨cursor, derived, accepted, position, _⟩ :=
    (states ⟨.object (sampleState (.integer 1)), sampleState_keyed _ trivial⟩ true _ rfl).mp ⟨1, rfl⟩
  have started : Trainer.Started tenths sampleSampling _ :=
    .start (show Trainer.start tenths sampleSampling sampleParams 100 1 (zeroSha.checksum .empty)
      (zeroSha.checksum .empty) = .ok _ from rfl)
  exact ⟨⟨cursor, derived, accepted, position⟩, _, started, rfl, (runs _ started).1⟩

end Nexa.Workloads
