import CommitAdmission.Proofs.Sessions
import CommitAdmission.Proofs.Turns
import Mathlib.Algebra.GroupWithZero.Nat

/-! What the counters say after a session. They are moved by calls alone, each by as much as the call
and its outcome tell: how many runs there were, how many ended with a rejection, how far they got, and
how many listeners failed. -/

namespace CommitAdmission

variable {Key : Type}

def Validator.rejects (world : Collaborators) (candidate : Candidate) (validator : Validator) :
    Bool :=
  !(validator.outcome world candidate).isOk

theorem FirstRejection.findIdx_rejects {world : Collaborators} {candidate : Candidate}
    {before : List Validator} {infos : List Info} {validator : Validator} {rejection : Rejection}
    (first : FirstRejection world candidate before infos validator rejection)
    (after : List Validator) :
    (before ++ validator :: after).findIdx (Validator.rejects world candidate) = before.length := by
  have spared : ∀ passing ∈ before, passing.rejects world candidate = false := by
    intro passing member
    obtain ⟨info, own⟩ := first.passed.outcome_of_mem member
    rw [Validator.rejects, own]
    rfl
  have hit : validator.rejects world candidate = true := by
    rw [Validator.rejects, first.rejected]
    rfl
  rw [List.findIdx_append, List.findIdx_eq_length.mpr spared, if_neg (Nat.lt_irrefl _),
    List.findIdx_cons, hit]
  exact Nat.zero_add _

namespace Occasion

def isValidation (occasion : Occasion Key) : Bool :=
  match occasion.call with
  | .validate _ _ _ => true
  | _ => false

def isRejected (occasion : Occasion Key) : Bool :=
  match occasion.answer with
  | .verdict (.error _) => true
  | _ => false

/-- How many validators a call executes: all of the chain if the commit is accepted, and otherwise
those up to the first that rejects. -/
def executed (occasion : Occasion Key) : Nat :=
  match occasion.call, occasion.answer with
  | .validate chain _ _, .verdict (.ok _) => chain.validators.length
  | .validate chain _ _, .verdict (.error _) =>
    chain.validators.findIdx
      (Validator.rejects occasion.world (occasion.dossier.candidate occasion.world)) + 1
  | _, _ => 0

/-- How many listeners fail or panic in a call, be it that they are told at the end of a run or
later. -/
def failedCalls (occasion : Occasion Key) : Nat :=
  match occasion.call, occasion.answer with
  | .validate chain _ options, .verdict (.ok infos) =>
    if options.invokeListeners then
      chain.failedCalls infos occasion.dossier.toReceivedCommit options.patchSet
    else 0
  | .notify chain infos _ patchSet, _ =>
    chain.failedCalls infos occasion.dossier.toReceivedCommit patchSet
  | _, _ => 0

def tally (occasion : Occasion Key) : Counter → Nat
  | .runsStarted => if occasion.isValidation then 1 else 0
  | .runsRejected => if occasion.isRejected then 1 else 0
  | .validatorsExecuted => occasion.executed
  | .listenersFailed => occasion.failedCalls

theorem count_validate (chain : Chain) (key : Key) (options : RunOptions) (world : Collaborators)
    (dossier : Dossier) (counter : Counter) :
    ((chain.validate world dossier options).effects.filterMap Effect.counted?).count counter =
      tally ⟨.validate chain key options, world, dossier⟩ counter := by
  rcases all_pass_or_first_rejection world (dossier.candidate world) chain.validators with
    ⟨infos, passed⟩ | ⟨before, validator, after, infos, rejection, split, first⟩
  · have verdict : (chain.validate world dossier options).verdict = .ok ⟨chain.names.zip infos⟩ :=
      congrArg Run.verdict (Chain.validate_of_passed passed options)
    rw [Chain.counted_of_passed passed]
    cases counter <;>
      simp [tally, isValidation, isRejected, executed, failedCalls, answer, verdict,
        List.count_replicate]
  · have verdict : (chain.validate world dossier options).verdict = .error _ :=
      congrArg Run.verdict (Chain.validate_of_rejected split first options)
    have position := first.findIdx_rejects after
    rw [← split] at position
    rw [Chain.counted_of_rejected split first]
    cases counter <;>
      simp [tally, isValidation, isRejected, executed, failedCalls, answer, verdict, position,
        List.count_replicate]

theorem count_counted (occasion : Occasion Key) (counter : Counter) :
    (occasion.effects.filterMap Effect.counted?).count counter = occasion.tally counter := by
  obtain ⟨call, world, dossier⟩ := occasion
  cases call with
  | validate chain key options => exact count_validate chain key options world dossier counter
  | notify chain infos key patchSet =>
    rw [effects, Chain.counted_notifyListeners]
    cases counter <;>
      simp [tally, isValidation, isRejected, executed, failedCalls, answer, List.count_replicate]
  | countFiles key =>
    rw [effects, Dossier.filterMap_request _ fun _ => rfl]
    cases counter <;> rfl

theorem isValidation_of_isRejected {occasion : Occasion Key} (rejected : occasion.isRejected) :
    occasion.isValidation := by
  obtain ⟨call, world, dossier⟩ := occasion
  cases call with
  | validate chain key options => rfl
  | notify chain infos key patchSet => cases rejected
  | countFiles key => cases rejected

end Occasion

theorem sum_map_ite_eq_countP (counts : Occasion Key → Bool) (occasions : List (Occasion Key)) :
    (occasions.map fun occasion => if counts occasion then 1 else 0).sum =
      occasions.countP counts := by
  induction occasions with
  | nil => rfl
  | cons occasion rest ih =>
    rw [List.map_cons, List.sum_cons, ih, List.countP_cons, Nat.add_comm]

variable [DecidableEq Key]

theorem Session.value_afterAll (session : Session Key) (steps : List (Step Key))
    (counter : Counter) :
    (session.afterAll steps).counters.value counter =
      session.counters.value counter +
        UInt64.ofNat ((session.occasions steps).map (·.tally counter)).sum := by
  rw [counters_afterAll, Counters.value_after, effects, List.filterMap_flatMap, List.count_flatMap]
  simp only [Function.comp_def, Occasion.count_counted]

theorem Session.value_of_start (world : Collaborators) (dossiers : Key → Dossier)
    (steps : List (Step Key)) (counter : Counter) :
    ((start world dossiers).afterAll steps).counters.value counter =
      UInt64.ofNat (((start world dossiers).occasions steps).map (·.tally counter)).sum := by
  have fresh : (start world dossiers).counters.value counter = 0 := by cases counter <;> rfl
  rw [value_afterAll, fresh, UInt64.zero_add]

/-- Whatever happens in a session, and in which order, the counters tell of it, around the end of
their range: the number of runs, the number of those that end with a rejection, the validators that
they execute, and the listeners that fail or panic, during a run or later. So there are never more
rejections than runs, as long as the counters have not come around. -/
theorem counters_account_for_calls (world : Collaborators) (dossiers : Key → Dossier)
    (steps : List (Step Key)) :
    let session := Session.start world dossiers
    let occasions := session.occasions steps
    let counters := (session.afterAll steps).counters
    counters.runsStarted = UInt64.ofNat (occasions.countP Occasion.isValidation) ∧
    counters.runsRejected = UInt64.ofNat (occasions.countP Occasion.isRejected) ∧
    counters.validatorsExecuted = UInt64.ofNat (occasions.map Occasion.executed).sum ∧
    counters.listenersFailed = UInt64.ofNat (occasions.map Occasion.failedCalls).sum ∧
    ∀ before, before <+: steps →
      (session.occasions before).countP Occasion.isValidation < 2 ^ 64 →
      (session.afterAll before).counters.runsRejected ≤
        (session.afterAll before).counters.runsStarted := by
  intro session occasions counters
  have started (some : List (Step Key)) : (session.afterAll some).counters.runsStarted =
      UInt64.ofNat ((session.occasions some).countP Occasion.isValidation) := by
    rw [← sum_map_ite_eq_countP]
    exact Session.value_of_start world dossiers some .runsStarted
  have rejected (some : List (Step Key)) : (session.afterAll some).counters.runsRejected =
      UInt64.ofNat ((session.occasions some).countP Occasion.isRejected) := by
    rw [← sum_map_ite_eq_countP]
    exact Session.value_of_start world dossiers some .runsRejected
  refine ⟨started steps, rejected steps, ?_, ?_, ?_⟩
  · exact Session.value_of_start world dossiers steps .validatorsExecuted
  · exact Session.value_of_start world dossiers steps .listenersFailed
  · intro before _ few
    have fewer : (session.occasions before).countP Occasion.isRejected ≤
        (session.occasions before).countP Occasion.isValidation :=
      List.countP_mono_left fun _ _ => Occasion.isValidation_of_isRejected
    rw [started, rejected]
    exact (UInt64.ofNat_le_iff_le (Nat.lt_of_le_of_lt fewer few) few).mpr fewer

end CommitAdmission
