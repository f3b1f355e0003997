import Nexa.Store.Enums
import Nexa.Workloads.CanonicalJson

/-! `checkpoint_restore.py`. What is read of the blobs and the checks of one checkpoint alone are its verification. -/

namespace Nexa

open Json Outcome Workloads

inductive Defect where
  | corrupt (reason : CheckpointReason)
  | outage

inductive RestoreError where
  | storageUnavailable
  | inventoryUnreported
deriving DecidableEq

inductive Verdict (V : Type) where
  | valid (value : V)
  | corrupt (reason : CheckpointReason)
  | incompatible (reason : CheckpointReason)

structure RestoreCandidate (F V : Type) where
  checkpointId : CheckpointId
  jobId : JobId
  compatibility : Value F
  proven : Bool
  chunked : Bool
  /-- After the row, the blob and the first fields of the manifest. -/
  opened : Except Defect (Value F)
  /-- The other fields, the canonical bytes, the checksums, the identity and the provenance. -/
  identified : Except Defect Unit
  referenced : Except Defect Unit
  finished : Except Defect V

structure RestorePlan (F V : Type) where
  jobId : JobId
  adapterId : String
  adapterVersion : String
  templateId : String
  architecture : Option String
  store : Bool
  /-- `expected_compatibility` of the template, or `{}` where it raises. -/
  expected : String -> List (Json.Text × Value F)
  candidates : List (RestoreCandidate F V)

def compatibilityFields : List Json.Text :=
  [textOf "architecture", textOf "device_type", textOf "framework", textOf "framework_version",
    textOf "cuda_version", textOf "minimum_driver_version", textOf "gpu_compute_capability",
    textOf "checkpointable", textOf "restart_safe"]

variable {F V : Type}

def sameType : Value F -> Value F -> Bool
  | .null, .null | .boolean _, .boolean _ | .integer _, .integer _ | .float _, .float _ | .string _, .string _
  | .array _, .array _ | .object _, .object _ => true
  | _, _ => false

variable (floats : Floats F)

def agrees (found expected : List (Json.Text × Value F)) : Bool :=
  compatibilityFields.all fun key =>
    let wanted := (lookup key expected).getD .null
    let value := (lookup key found).getD .null
    pyEq floats value wanted && sameType value wanted

/-- The adapters that can be restored, with the framework of the manifest. -/
def supported (plan : RestorePlan F V) (found : List (Json.Text × Value F)) : Bool :=
  plan.adapterId = "cpu.iterative" ||
    ([("pytorch.cifar10", "1.0.0", "pytorch-cifar10-cnn"), ("batch.inference", "1.0.0", "batch-inference")].contains
        (plan.adapterId, plan.adapterVersion, plan.templateId) &&
      pyEq floats (field "framework" found) (.string (textOf "PYTORCH")))

def stage {α : Type} (check : Except Defect α) (next : α -> Except RestoreError (Verdict V)) :
    Except RestoreError (Verdict V) :=
  match check with
  | .ok value => next value
  | .error (.corrupt reason) => .ok (.corrupt reason)
  | .error .outage => .error .storageUnavailable

def verifyCandidate (plan : RestorePlan F V) (expected : List (Json.Text × Value F))
    (candidate : RestoreCandidate F V) :
    Except RestoreError (Verdict V) :=
  if candidate.jobId ≠ plan.jobId ∧ candidate.proven = false then .ok (.incompatible .provenanceMismatch)
  else if candidate.chunked ∧ candidate.jobId ≠ plan.jobId then .ok (.incompatible .compatibilityMismatch)
  else
    stage candidate.opened fun compatibility =>
      match objectWith compatibilityFields compatibility with
      | none => .ok (.incompatible .compatibilityMismatch)
      | some found => stage candidate.identified fun _ =>
        if agrees floats found expected then stage candidate.referenced fun _ =>
          if supported floats plan found then stage candidate.finished fun value => .ok (.valid value)
          else .ok (.incompatible .templateUnsupported)
        else .ok (.incompatible .compatibilityMismatch)

structure Scan (V : Type) where
  marks : List (CheckpointId × CheckpointReason) := []
  incompatible : List CheckpointReason := []
  selected : Option (CheckpointId × V) := none
  remaining : List CheckpointId := []

def Scan.mark (id : CheckpointId) (reason : CheckpointReason) (scan : Scan V) : Scan V :=
  { scan with marks := (id, reason) :: scan.marks }

def Scan.pass (reason : CheckpointReason) (scan : Scan V) : Scan V :=
  { scan with incompatible := reason :: scan.incompatible }

def scanFrom (plan : RestorePlan F V) (expected : List (Json.Text × Value F)) :
    List (Value F) -> List (RestoreCandidate F V) -> Except RestoreError (Scan V)
  | _, [] => .ok {}
  | rejected, candidate :: rest =>
    if rejected.any fun old => pyEq floats candidate.compatibility old then scanFrom plan expected rejected rest
    else match verifyCandidate floats plan expected candidate with
      | .error failure => .error failure
      | .ok (.corrupt reason) => (scanFrom plan expected rejected rest).map (·.mark candidate.checkpointId reason)
      | .ok (.incompatible reason) =>
        -- An inherited chunked checkpoint says nothing about this environment.
        (scanFrom plan expected
          (rejected ++ if candidate.jobId = plan.jobId then [candidate.compatibility] else []) rest).map
          (·.pass reason)
      | .ok (.valid value) => .ok { selected := some (candidate.checkpointId, value) }

def scanRestore (plan : RestorePlan F V) : Except RestoreError (Scan V) := if plan.candidates = [] then .ok {}
  else if plan.store = false then .error .storageUnavailable
  else match plan.architecture with
    | none => .error .inventoryUnreported
    | some architecture => do
      let scan <- scanFrom floats plan (plan.expected architecture) [] plan.candidates
      let marked := scan.marks.map Prod.fst
      return { scan with
               remaining := (plan.candidates.map (·.checkpointId)).filter fun id => !marked.contains id }

def verdicts (plan : RestorePlan F V) (expected : List (Json.Text × Value F)) :
    List (RestoreCandidate F V) -> Except RestoreError (List (RestoreCandidate F V × Verdict V))
  | [] => .ok []
  | candidate :: rest => do
    match <- verifyCandidate floats plan expected candidate with
    | .valid value => return [(candidate, .valid value)]
    | verdict =>
      let later <- verdicts plan expected rest
      return (candidate, verdict) :: later

def markOf : RestoreCandidate F V × Verdict V -> Option (CheckpointId × CheckpointReason)
  | (candidate, .corrupt reason) => some (candidate.checkpointId, reason)
  | _ => none

def choiceOf : RestoreCandidate F V × Verdict V -> Option (CheckpointId × V)
  | (candidate, .valid value) => some (candidate.checkpointId, value)
  | _ => none

def rejectedBy (plan : RestorePlan F V) : RestoreCandidate F V × Verdict V -> List (Value F)
  | (candidate, .incompatible _) => if candidate.jobId = plan.jobId then [candidate.compatibility] else []
  | _ => []

/-- Without the candidates whose compatibility an earlier verdict rejected. -/
def freshMarks (plan : RestorePlan F V) (rejected : List (Value F)) :
    List (RestoreCandidate F V × Verdict V) -> List (CheckpointId × CheckpointReason)
  | [] => []
  | seen :: later =>
    if rejected.any fun old => pyEq floats seen.1.compatibility old then freshMarks plan rejected later
    else (markOf seen).toList ++ freshMarks plan (rejected ++ rejectedBy plan seen) later

variable {floats}

/-- Equal, or one object with its members in another order. -/
inductive Alike : Value F -> Value F -> Prop
  | refl (value : Value F) : Alike value value
  | object {members others : List (Json.Text × Value F)} (distinct : (members.map Prod.fst).Nodup)
      (perm : others.Perm members) : Alike (.object members) (.object others)

def RestoreCandidate.Stored (candidate : RestoreCandidate F V) : Prop :=
  ∀ compatibility, candidate.opened = .ok compatibility -> Alike compatibility candidate.compatibility

variable {plan : RestorePlan F V} {expected : List (Json.Text × Value F)} {candidate other : RestoreCandidate F V}

theorem stage_eq_ok {α : Type} {check : Except Defect α} {next : α -> Except RestoreError (Verdict V)}
    {verdict : Verdict V} (other : ∀ reason, verdict ≠ .corrupt reason) :
    stage check next = .ok verdict <-> ∃ value, check = .ok value ∧ next value = .ok verdict := by
  unfold stage
  split <;> simp [Ne.symm (other _)]

def Fitting (floats : Floats F) (plan : RestorePlan F V) (expected : List (Json.Text × Value F)) (value : Value F) :
    Prop :=
  ∃ found, objectWith compatibilityFields value = some found ∧ agrees floats found expected = true ∧
    supported floats plan found = true

theorem fitting_alike {value other : Value F} (alike : Alike value other) :
    Fitting floats plan expected value <-> Fitting floats plan expected other := by
  cases alike with
  | refl => exact Iff.rfl
  | object distinct perm =>
    have finds := lookup_perm distinct perm
    simp only [Fitting, objectWith_eq_some, Value.object.injEq, and_assoc, exists_eq_left', closed, agrees, supported,
      field, finds, perm.all_eq]

theorem fitting_of_valid (stored : candidate.Stored) {value : V}
    (valid : verifyCandidate floats plan expected candidate = .ok (.valid value)) :
    Fitting floats plan expected candidate.compatibility := by
  unfold verifyCandidate at valid
  split_ifs at valid
  · cases valid
  · cases valid
  obtain ⟨compatibility, opened, valid⟩ := (stage_eq_ok (by simp)).mp valid
  refine (fitting_alike (stored compatibility opened)).mp ?_
  split at valid
  · cases valid
  · next found object =>
      obtain ⟨_, _, valid⟩ := (stage_eq_ok (by simp)).mp valid
      refine ⟨found, object, ?_⟩
      cases agreeing : agrees floats found expected with
      | false => simp [agreeing] at valid
      | true =>
        rw [agreeing, if_pos rfl, stage_eq_ok (by simp)] at valid
        cases supports : supported floats plan found with
        | false => simp [supports] at valid
        | true => exact ⟨rfl, rfl⟩

theorem not_fitting_of_incompatible (stored : candidate.Stored) (own : candidate.jobId = plan.jobId)
    {reason : CheckpointReason}
    (refused : verifyCandidate floats plan expected candidate = .ok (.incompatible reason)) :
    ¬Fitting floats plan expected candidate.compatibility := by
  intro fitting
  rw [verifyCandidate, if_neg (by simp [own]), if_neg (by simp [own]), stage_eq_ok (by simp)] at refused
  obtain ⟨compatibility, opened, refused⟩ := refused
  obtain ⟨found, object, agreeing, supports⟩ := (fitting_alike (stored compatibility opened)).mpr fitting
  simp [object, agreeing, supports, stage_eq_ok] at refused

theorem verdicts_cons_eq_ok {rest : List (RestoreCandidate F V)} {visited : List (RestoreCandidate F V × Verdict V)}
    (done : verdicts floats plan expected (candidate :: rest) = .ok visited) :
    ∃ verdict, verifyCandidate floats plan expected candidate = .ok verdict ∧
      ((∃ value, verdict = .valid value ∧ visited = [(candidate, verdict)]) ∨
        (∀ value, verdict ≠ .valid value) ∧
          ∃ later, verdicts floats plan expected rest = .ok later ∧ visited = (candidate, verdict) :: later) := by
  rw [verdicts, bind_eq_ok] at done
  obtain ⟨verdict, verified, done⟩ := done
  refine ⟨verdict, verified, ?_⟩
  cases verdict with
  | valid value => exact .inl ⟨value, rfl, (pure_eq_ok.mp done).symm⟩
  | corrupt reason | incompatible reason =>
    obtain ⟨later, found, same⟩ := bind_eq_ok.mp done
    exact .inr ⟨by simp, later, found, (pure_eq_ok.mp same).symm⟩

/-- Rejected compatibilities are of no valid checkpoint and equal no other. -/
theorem scanFrom_exact {candidates : List (RestoreCandidate F V)} {rejected : List (Value F)}
    (stored : ∀ candidate ∈ candidates, candidate.Stored)
    (same : ∀ candidate ∈ candidates, ∀ old ∈ rejected ++ candidates.map (·.compatibility),
      pyEq floats candidate.compatibility old = true -> Alike candidate.compatibility old)
    (unfit : ∀ old ∈ rejected, ¬Fitting floats plan expected old)
    {visited : List (RestoreCandidate F V × Verdict V)}
    (done : verdicts floats plan expected candidates = .ok visited) :
    ∃ scan, scanFrom floats plan expected rejected candidates = .ok scan ∧
      scan.selected = visited.findSome? choiceOf ∧ scan.marks = freshMarks floats plan rejected visited := by
  induction candidates generalizing rejected visited with
  | nil =>
    obtain rfl : [] = visited := by simpa [verdicts] using done
    exact ⟨{}, rfl, rfl, rfl⟩
  | cons candidate rest ih =>
    obtain ⟨here, others⟩ := List.forall_mem_cons.mp stored
    obtain ⟨verdict, verified, cases⟩ := verdicts_cons_eq_ok done
    -- Whatever is rejected later is the compatibility of this candidate, or was rejected before.
    have later (more : List (Value F)) (own : ∀ old ∈ more, old = candidate.compatibility) :
        ∀ other ∈ rest, ∀ old ∈ (rejected ++ more) ++ rest.map (·.compatibility),
          pyEq floats other.compatibility old = true -> Alike other.compatibility old := by
      intro other member old inside
      refine same other (List.mem_cons_of_mem _ member) old ?_
      simp only [List.mem_append, List.map_cons, List.mem_cons] at inside ⊢
      rcases inside with (before | now) | after
      · exact .inl before
      · exact .inr (.inl (own old now))
      · exact .inr (.inr after)
    rw [scanFrom]
    cases skipped : rejected.any fun old => pyEq floats candidate.compatibility old with
    | true =>
      -- The full scan verifies the candidate as well, and does not find it valid.
      obtain ⟨old, member, equal⟩ := List.any_eq_true.mp skipped
      have known := same candidate List.mem_cons_self old (List.mem_append_left _ member) equal
      rcases cases with ⟨value, rfl, _⟩ | ⟨invalid, next, found, rfl⟩
      · exact absurd ((fitting_alike known).mp (fitting_of_valid here verified)) (unfit old member)
      have kept := later [] (by simp)
      rw [List.append_nil] at kept
      obtain ⟨scan, scanned, selected, marks⟩ := ih others kept unfit found
      refine ⟨scan, scanned, ?_, by rw [marks, freshMarks, if_pos skipped]⟩
      cases verdict with
      | valid value => exact absurd rfl (invalid value)
      | corrupt | incompatible => exact selected
    | false =>
      rw [if_neg (by decide), verified]
      rcases cases with ⟨value, rfl, rfl⟩ | ⟨invalid, next, found, rfl⟩
      · exact ⟨_, rfl, rfl, by simp [freshMarks, markOf, skipped]⟩
      cases verdict with
      | valid value => exact absurd rfl (invalid value)
      | corrupt reason =>
        have kept := later [] (by simp)
        rw [List.append_nil] at kept
        obtain ⟨scan, scanned, selected, marks⟩ := ih others kept unfit found
        exact ⟨scan.mark _ reason, by rw [scanned]; rfl, selected,
          by simp [Scan.mark, freshMarks, markOf, rejectedBy, skipped, marks]⟩
      | incompatible reason =>
        have unfitting : ∀ old ∈ rejected ++ rejectedBy plan (candidate, .incompatible reason),
            ¬Fitting floats plan expected old := by
          refine List.forall_mem_append.mpr ⟨unfit, fun old member => ?_⟩
          rw [rejectedBy] at member
          split_ifs at member with own
          · rw [List.mem_singleton.mp member]
            exact not_fitting_of_incompatible here own verified
          · cases member
        have kept := later (rejectedBy plan (candidate, .incompatible reason)) fun old member => by
          rw [rejectedBy] at member
          split_ifs at member <;> simp_all
        obtain ⟨scan, scanned, selected, marks⟩ := ih others kept unfitting found
        refine ⟨scan.pass reason, ?_, selected, by simp [Scan.pass, freshMarks, markOf, skipped, marks]⟩
        rw [rejectedBy] at scanned
        simp only [scanned]
        rfl

/-- **The restore scan.** It selects and marks what a scan of every candidate does, apart from those it skips. -/
theorem scanRestore_exact {architecture : String} (reported : plan.architecture = some architecture)
    (store : plan.store = true) (stored : ∀ candidate ∈ plan.candidates, candidate.Stored)
    (same : ∀ candidate ∈ plan.candidates, ∀ other ∈ plan.candidates,
      pyEq floats candidate.compatibility other.compatibility = true ->
        Alike candidate.compatibility other.compatibility)
    {visited : List (RestoreCandidate F V × Verdict V)}
    (done : verdicts floats plan (plan.expected architecture) plan.candidates = .ok visited) :
    ∃ scan, scanRestore floats plan = .ok scan ∧ scan.selected = visited.findSome? choiceOf ∧
      scan.marks = freshMarks floats plan [] visited := by
  obtain ⟨scan, scanned, selected, marks⟩ := scanFrom_exact stored
    (fun candidate inside old (member : old ∈ [] ++ plan.candidates.map (·.compatibility)) => by
      obtain ⟨other, also, rfl⟩ := List.mem_map.mp member
      exact same candidate inside other also)
    (by simp) done
  rw [scanRestore]
  split_ifs with none
  · rw [none] at done
    obtain rfl : [] = visited := by simpa [verdicts] using done
    exact ⟨{}, rfl, rfl, rfl⟩
  · exact absurd store (by simp_all)
  · rw [reported]
    simp only [scanned]
    exact ⟨_, rfl, selected, marks⟩

def environment (architecture : String) (restartSafe : Value Int) : List (Json.Text × Value Int) :=
  [(textOf "architecture", .string (textOf architecture)), (textOf "device_type", .string (textOf "CPU")),
    (textOf "framework", .string (textOf "PYTHON")), (textOf "framework_version", .string (textOf "1.0.0")),
    (textOf "cuda_version", .null), (textOf "minimum_driver_version", .null),
    (textOf "gpu_compute_capability", .null), (textOf "checkpointable", .boolean true),
    (textOf "restart_safe", restartSafe)]

def sampleCheckpoint (id : CheckpointId) (members : List (Json.Text × Value Int)) (missing : Bool) :
    RestoreCandidate Int Unit where
  checkpointId := id
  jobId := 1
  compatibility := .object members
  proven := true
  chunked := false
  opened := if missing then .error (.corrupt .blobMissing) else .ok (.object members)
  identified := .ok ()
  referenced := .ok ()
  finished := .ok ()

def native : List (Json.Text × Value Int) := environment "linux/amd64" (.boolean true)

def foreign : List (Json.Text × Value Int) := environment "linux/arm64" (.boolean true)

def samplePlan (candidates : List (RestoreCandidate Int Unit)) : RestorePlan Int Unit where
  jobId := 1
  adapterId := "cpu.iterative"
  adapterVersion := "1.0.0"
  templateId := "cpu-iterative"
  architecture := some "linux/amd64"
  store := true
  expected architecture := environment architecture (.boolean true)
  candidates := candidates

theorem stored_sampleCheckpoint (id : CheckpointId) (members : List (Json.Text × Value Int)) (missing : Bool) :
    (sampleCheckpoint id members missing).Stored := by
  cases missing <;> simp [RestoreCandidate.Stored, sampleCheckpoint, Alike.refl]

/-- A corrupt checkpoint of a rejected environment is not marked, and `True` and `1` make a valid one be skipped. -/
theorem scanRestore_differs :
    (∃ plan : RestorePlan Int Unit,
      (∀ candidate ∈ plan.candidates, candidate.Stored) ∧
        (∀ candidate ∈ plan.candidates, ∀ other ∈ plan.candidates, candidate.compatibility = other.compatibility) ∧
        ∃ visited scan, verdicts tenths plan (plan.expected "linux/amd64") plan.candidates = .ok visited ∧
          scanRestore tenths plan = .ok scan ∧ scan.marks = [] ∧ visited.filterMap markOf = [(2, .blobMissing)]) ∧
    ∃ plan : RestorePlan Int Unit, (∀ candidate ∈ plan.candidates, candidate.Stored) ∧
      ∃ visited scan, verdicts tenths plan (plan.expected "linux/amd64") plan.candidates = .ok visited ∧
        scanRestore tenths plan = .ok scan ∧ scan.selected = none ∧ visited.findSome? choiceOf = some (2, ()) := by
  refine ⟨⟨samplePlan [sampleCheckpoint 1 foreign false, sampleCheckpoint 2 foreign true], ?_, ?_, _, _, rfl, rfl,
    rfl, rfl⟩, samplePlan [sampleCheckpoint 1 (environment "linux/amd64" (.integer 1)) false,
      sampleCheckpoint 2 native false], ?_, _, _, rfl, rfl, rfl, rfl⟩
  · simp [samplePlan, stored_sampleCheckpoint]
  · simp [samplePlan, sampleCheckpoint]
  · simp [samplePlan, stored_sampleCheckpoint]

def mixedPlan : RestorePlan Int Unit :=
  samplePlan [sampleCheckpoint 1 foreign false, sampleCheckpoint 4 foreign true, sampleCheckpoint 2 native true,
    sampleCheckpoint 3 native false]

theorem scanRestore_exact_sample :
    ∃ scan, scanRestore tenths mixedPlan = .ok scan ∧ scan.selected = some (3, ()) ∧
      scan.marks = [(2, .blobMissing)] := by
  obtain ⟨visited, done, choice, marks⟩ : ∃ visited,
      verdicts tenths mixedPlan (mixedPlan.expected "linux/amd64") mixedPlan.candidates = .ok visited ∧
        visited.findSome? choiceOf = some (3, ()) ∧ freshMarks tenths mixedPlan [] visited = [(2, .blobMissing)] :=
    ⟨_, rfl, rfl, rfl⟩
  have differ : pyEq tenths (.object foreign) (.object native) = false ∧
    pyEq tenths (.object native) (.object foreign) = false := ⟨rfl, rfl⟩
  obtain ⟨scan, scanned, selected, marked⟩ := scanRestore_exact rfl rfl
    (by simp [mixedPlan, samplePlan, stored_sampleCheckpoint])
    (by simp [mixedPlan, samplePlan, sampleCheckpoint, differ, Alike.refl]) done
  exact ⟨scan, scanned, selected.trans choice, marked.trans marks⟩

end Nexa
