import CommitAdmission.Proofs.BuiltIn
import CommitAdmission.Proofs.Turns

/-! The permissions that a run asks for. A validator asks one question at most and passes if the
permission is granted, so that a run goes on after such an answer, and after no other. -/

namespace CommitAdmission

variable {world : Collaborators} {candidate : Candidate} {ref : String}

namespace Check

variable {α β : Type}

def asked (check : Check α) : List (String × Permission) :=
  check.acts.filterMap Act.askedPermission?

theorem asked_of_routine {check : Check α} (routine : check.ActsWithin Act.IsRoutine) :
    check.asked = [] :=
  List.filterMap_eq_nil_iff.mpr fun act member => (routine act member).unasking

theorem asked_bind {check : Check α} {next : α → Check β}
    (silent : ∀ value, (next value).asked = []) : (check >>= next).asked = check.asked := by
  cases outcome : check.outcome with
  | error rejection => rw [asked, acts_bind_of_error outcome, asked]
  | ok value =>
    have rest : (next value).acts.filterMap Act.askedPermission? = [] := silent value
    rw [asked, acts_bind_of_ok outcome, List.filterMap_append, rest, List.append_nil, asked]

end Check

theorem asked_askPermission (world : Collaborators) (ref : String) (permission : Permission) :
    (askPermission world ref permission).asked = [(ref, permission)] := by
  rw [askPermission, Check.asked, Check.acts_bind_of_ok (Check.outcome_perform _)]
  cases world.isGranted ref permission <;> rfl

inductive Unpermitted (world : Collaborators) (ref : String) (permission : Permission)
    (rejection : Rejection) : Prop
  | denied : world.isGranted ref permission = .ok false → rejection.kind = .policy →
      Unpermitted world ref permission rejection
  | failed {failure : PermissionFailure} :
      world.isGranted ref permission = .error failure → rejection.kind = .internal →
      rejection.reason = "internal auth error" → Unpermitted world ref permission rejection

theorem Unpermitted.kind_of_denied {permission : Permission} {rejection : Rejection}
    (unpermitted : Unpermitted world ref permission rejection)
    (denied : world.isGranted ref permission = .ok false) : rejection.kind = .policy := by
  cases unpermitted with
  | denied _ kind => exact kind
  | failed answer _ _ => cases answer.symm.trans denied

theorem Unpermitted.internal_of_failed {permission : Permission} {rejection : Rejection}
    (unpermitted : Unpermitted world ref permission rejection) {failure : PermissionFailure}
    (failed : world.isGranted ref permission = .error failure) :
    rejection.kind = .internal ∧ rejection.reason = "internal auth error" := by
  cases unpermitted with
  | denied answer _ => cases answer.symm.trans failed
  | failed _ kind reason => exact ⟨kind, reason⟩

/-- A question for a permission, with the name of the validator that asks it and whether a commit
gives it cause. -/
structure Question where
  asker : String
  permission : Permission
  needed : Bool

namespace Question

/-- How a check ends that depends on a question: without cause it passes and does not ask; else it
asks once, and passes if the permission is granted. -/
inductive Decides (question : Question) (world : Collaborators) (ref : String) {α : Type}
    (check : Check α) : Prop
  | spared {value : α} : question.needed = false → check.asked = [] → check.outcome = .ok value →
      Decides question world ref check
  | granted {value : α} : question.needed = true → check.asked = [(ref, question.permission)] →
      check.outcome = .ok value → world.isGranted ref question.permission = .ok true →
      Decides question world ref check
  | refused {rejection : Rejection} :
      question.needed = true → check.asked = [(ref, question.permission)] →
      check.outcome = .error rejection → Unpermitted world ref question.permission rejection →
      Decides question world ref check

variable {question : Question}

theorem decides_demand (needed : question.needed = true) (world : Collaborators) (ref : String)
    {rejection : Rejection} (policy : rejection.kind = .policy) :
    question.Decides world ref
      (askPermission world ref question.permission >>= fun granted =>
        Check.require granted rejection) := by
  have asked : (askPermission world ref question.permission >>= fun granted =>
      Check.require granted rejection).asked = [(ref, question.permission)] := by
    rw [Check.asked_bind fun granted => Check.asked_of_routine (Check.actsWithin_require _ _),
      asked_askPermission]
  have outcome : (askPermission world ref question.permission >>= fun granted =>
      Check.require granted rejection).outcome = _ := Check.outcome_bind _ _
  rw [outcome_askPermission] at outcome
  cases answer : world.isGranted ref question.permission with
  | error failure =>
    rw [answer] at outcome
    exact .refused needed asked outcome (.failed answer rfl rfl)
  | ok granted =>
    rw [answer] at outcome
    cases granted with
    | true => exact .granted needed asked outcome answer
    | false => exact .refused needed asked outcome (.denied answer policy)

theorem decides_demandIf (question : Question) (world : Collaborators) (ref : String)
    {rejection : Rejection} (policy : rejection.kind = .policy) :
    question.Decides world ref
      (if question.needed = true then
        askPermission world ref question.permission >>= fun granted =>
          Check.require granted rejection
      else pure () : Check Unit) := by
  split
  case isTrue needed => exact decides_demand needed world ref policy
  case isFalse unneeded => exact .spared (Bool.eq_false_iff.mpr unneeded) rfl rfl

theorem Decides.ofCheck {check : Collaborators → Candidate → Check Unit}
    (decides : question.Decides world ref (check world candidate)) (name : String) :
    question.Decides world ref ((Validator.ofCheck name check).judge world candidate) := by
  have asked : ((Validator.ofCheck name check).judge world candidate).asked =
      (check world candidate).asked := Check.asked_bind fun _ => rfl
  have outcome : ((Validator.ofCheck name check).judge world candidate).outcome =
      (check world candidate).outcome.map fun _ => Info.plain :=
    Validator.outcome_ofCheck name check world candidate
  cases decides with
  | spared unneeded own passes =>
    rw [own] at asked
    rw [passes] at outcome
    exact .spared unneeded asked outcome
  | granted needed own passes answer =>
    rw [own] at asked
    rw [passes] at outcome
    exact .granted needed asked outcome answer
  | refused needed own rejects refusal =>
    rw [own] at asked
    rw [rejects] at outcome
    exact .refused needed asked outcome refusal

def put (ref : String) (reached : List String) (question : Question) :
    List (String × Permission) :=
  if question.needed && reached.contains question.asker then [(ref, question.permission)] else []

theorem flatMap_put_cons {name : String} {questions : List Question}
    (fresh : questions.any (·.asker == name) = false) (ref : String) (reached : List String) :
    questions.flatMap (put ref (name :: reached)) = questions.flatMap (put ref reached) := by
  rw [List.flatMap_def, List.flatMap_def]
  congr 1
  apply List.map_congr_left
  intro question member
  have other : (question.asker == name) = false :=
    Bool.eq_false_iff.mpr (List.any_eq_false.mp fresh question member)
  rw [put, put, List.contains_cons, other, Bool.false_or]

theorem count_put (ref : String) (reached : List String) (question : Question) :
    (question.put ref reached).count (ref, question.permission) =
      if question.needed && reached.contains question.asker then 1 else 0 := by
  unfold put
  split <;> simp

theorem count_flatMap_put (ref : String) (reached : List String) (questions : List Question)
    (permission : Permission) :
    (questions.flatMap (put ref reached)).count (ref, permission) =
      (questions.filter (·.permission == permission)).countP fun question =>
        question.needed && reached.contains question.asker := by
  induction questions with
  | nil => rfl
  | cons question rest ih =>
    rw [List.flatMap_cons, List.count_append, ih, List.filter_cons]
    by_cases same : question.permission = permission
    · subst same
      rw [count_put, if_pos (beq_self_eq_true _), List.countP_cons, Nat.add_comm]
    · have none : (question.put ref reached).count (ref, permission) = 0 := by
        unfold put
        split <;> simp [same]
      rw [none, if_neg (by simpa using same), Nat.zero_add]

theorem mem_flatMap_put_iff {ref : String} {reached : List String} {questions : List Question}
    {permission : Permission} :
    (ref, permission) ∈ questions.flatMap (put ref reached) ↔
      ∃ question ∈ questions.filter (·.permission == permission),
        question.needed = true ∧ question.asker ∈ reached := by
  rw [← List.count_pos_iff, count_flatMap_put, List.countP_pos_iff]
  simp only [Bool.and_eq_true, List.contains_iff_mem]

theorem ref_of_mem {ref : String} {reached : List String} {questions : List Question}
    {asked : String × Permission} (member : asked ∈ questions.flatMap (put ref reached)) :
    asked.1 = ref := by
  obtain ⟨question, _, own⟩ := List.mem_flatMap.mp member
  unfold put at own
  split at own
  · rw [List.mem_singleton.mp own]
  · cases own

theorem map_snd_flatMap_put (ref : String) (reached : List String) (questions : List Question) :
    ((questions.flatMap (put ref reached)).map Prod.snd).Sublist (questions.map permission) := by
  induction questions with
  | nil => exact List.Sublist.refl []
  | cons question rest ih =>
    have own : ((question.put ref reached).map Prod.snd).Sublist [question.permission] := by
      unfold put
      split <;> simp
    rw [List.flatMap_cons, List.map_append, List.map_cons]
    exact own.append ih

end Question

def Validator.asked (world : Collaborators) (candidate : Candidate) (validator : Validator) :
    List (String × Permission) :=
  (validator.judge world candidate).asked

/-- Which validators of a list ask the questions of another, in the same order; all others are
silent. No validator has the name of one that asks later. -/
inductive Interviews (world : Collaborators) (candidate : Candidate) (ref : String) :
    List Validator → List Question → Prop
  | silence {validators : List Validator} :
      (∀ validator ∈ validators, validator.asked world candidate = []) →
      Interviews world candidate ref validators []
  | silent {validator : Validator} {rest : List Validator} {questions : List Question} :
      validator.asked world candidate = [] →
      questions.any (·.asker == validator.name) = false →
      Interviews world candidate ref rest questions →
      Interviews world candidate ref (validator :: rest) questions
  | asks {validator : Validator} {question : Question} {rest : List Validator}
      {questions : List Question} :
      question.asker = validator.name →
      question.Decides world ref (validator.judge world candidate) →
      questions.any (·.asker == validator.name) = false →
      Interviews world candidate ref rest questions →
      Interviews world candidate ref (validator :: rest) (question :: questions)

namespace Interviews

variable {validators : List Validator} {questions : List Question}

/-- What the first validators of a list ask: the questions that have cause, of those of them. -/
theorem asked_take (interviews : Interviews world candidate ref validators questions)
    (count : Nat) :
    (validators.take count).flatMap (Validator.asked world candidate) =
      questions.flatMap (Question.put ref ((validators.take count).map Validator.name)) := by
  -- a validator in front changes nothing for the questions of the others, since its name is fresh
  induction interviews generalizing count with
  | silence silent =>
    apply List.flatMap_eq_nil_iff.mpr
    intro validator member
    exact silent validator (List.mem_of_mem_take member)
  | silent none fresh _ ih =>
    cases count with
    | zero => simp [Question.put]
    | succ count =>
      rw [List.take_succ_cons, List.flatMap_cons, none, List.nil_append, ih count, List.map_cons,
        Question.flatMap_put_cons fresh]
  | @asks validator question rest questions own decides fresh _ ih =>
    cases count with
    | zero => simp [Question.put]
    | succ count =>
      have first : validator.asked world candidate =
          question.put ref (((validator :: rest).take (count + 1)).map Validator.name) := by
        rw [Validator.asked, Question.put, List.take_succ_cons, List.map_cons, own]
        cases decides with
        | spared unneeded asked _ => simp [unneeded, asked]
        | granted needed asked _ _ => simp [needed, asked]
        | refused needed asked _ _ => simp [needed, asked]
      rw [List.flatMap_cons, ← first, List.take_succ_cons, List.flatMap_cons, ih count,
        List.map_cons, Question.flatMap_put_cons fresh]

theorem silent_or_decides (interviews : Interviews world candidate ref validators questions) :
    ∀ validator ∈ validators, validator.asked world candidate = [] ∨
      ∃ question : Question, question.Decides world ref (validator.judge world candidate) := by
  induction interviews with
  | silence silent => exact fun validator member => .inl (silent validator member)
  | silent none _ _ ih =>
    intro validator member
    rcases List.mem_cons.mp member with rfl | later
    · exact .inl none
    · exact ih validator later
  | asks _ decides _ _ ih =>
    intro validator member
    rcases List.mem_cons.mp member with rfl | later
    · exact .inr ⟨_, decides⟩
    · exact ih validator later

theorem granted_of_passes (interviews : Interviews world candidate ref validators questions)
    {validator : Validator} (member : validator ∈ validators) {info : Info}
    (passes : validator.outcome world candidate = .ok info) :
    ∀ asked ∈ validator.asked world candidate, world.isGranted asked.1 asked.2 = .ok true := by
  intro asked listed
  rcases interviews.silent_or_decides validator member with none | ⟨question, decides⟩
  · rw [none] at listed
    cases listed
  · cases decides with
    | spared _ none _ =>
      rw [Validator.asked, none] at listed
      cases listed
    | granted _ own _ answer =>
      rw [Validator.asked, own] at listed
      rw [List.mem_singleton.mp listed]
      exact answer
    | refused _ _ rejects _ => cases passes.symm.trans rejects

theorem refused_of_rejects (interviews : Interviews world candidate ref validators questions)
    {validator : Validator} (member : validator ∈ validators) {rejection : Rejection}
    (rejects : validator.outcome world candidate = .error rejection) :
    validator.asked world candidate = [] ∨
      ∃ permission, validator.asked world candidate = [(ref, permission)] ∧
        Unpermitted world ref permission rejection := by
  rcases interviews.silent_or_decides validator member with none | ⟨question, decides⟩
  · exact .inl none
  · cases decides with
    | spared _ none _ => exact .inl none
    | granted _ _ passes _ => cases passes.symm.trans rejects
    | refused _ asked own refusal =>
      cases own.symm.trans rejects
      exact .inr ⟨question.permission, asked, refusal⟩

theorem granted_of_passed (interviews : Interviews world candidate ref validators questions)
    {first : List Validator} (among : ∀ validator ∈ first, validator ∈ validators)
    {infos : List Info} (passed : Passed world candidate first infos) :
    ∀ asked ∈ first.flatMap (Validator.asked world candidate),
      world.isGranted asked.1 asked.2 = .ok true := by
  intro asked listed
  obtain ⟨validator, member, own⟩ := List.mem_flatMap.mp listed
  obtain ⟨info, passes⟩ := passed.outcome_of_mem member
  exact interviews.granted_of_passes (among validator member) passes asked own

end Interviews

theorem eq_nil_of_append_cons_eq {α : Type} {before after first : List α} {item last : α}
    (whole : before ++ item :: after = first ++ [last]) (unlisted : item ∉ first) :
    after = [] ∧ item = last := by
  rcases List.eq_nil_or_concat after with rfl | ⟨front, final, rfl⟩
  · obtain ⟨_, same⟩ := List.append_inj' whole rfl
    exact ⟨rfl, (List.cons.inj same).1⟩
  · have parts : (before ++ item :: front) ++ [final] = first ++ [last] := by
      simpa using whole
    obtain ⟨same, _⟩ := List.append_inj' parts rfl
    rw [← same] at unlisted
    exact absurd (List.mem_append_right before List.mem_cons_self) unlisted

namespace Chain

theorem filterMap_askedPermission?_validate (world : Collaborators) (chain : Chain)
    (dossier : Dossier) (options : RunOptions) :
    let run := chain.validate world dossier options
    run.effects.filterMap Effect.askedPermission? =
      (chain.validators.take run.executed).flatMap
        (Validator.asked world (dossier.candidate world)) := by
  intro run
  have acts : run.effects.filterMap Effect.act? = _ :=
    filterMap_act?_validate world chain dossier options
  calc run.effects.filterMap Effect.askedPermission?
      = (run.effects.filterMap Effect.act?).filterMap Act.askedPermission? := by
        rw [List.filterMap_filterMap]
        rfl
    _ = _ := by
        rw [acts, filterMap_actsOf Act.askedPermission? Act.askedPermission?_inside]
        rfl

variable {chain : Chain} {dossier : Dossier} {questions : List Question}

theorem granted_of_accepted
    (interviews : Interviews world (dossier.candidate world) ref chain.validators questions)
    {options : RunOptions} {infos : Infos}
    (accepted : (chain.validate world dossier options).verdict = .ok infos) :
    ∀ asked ∈ (chain.validate world dossier options).effects.filterMap Effect.askedPermission?,
      world.isGranted asked.1 asked.2 = .ok true := by
  obtain ⟨own, passed, _⟩ := (verdict_eq_ok_iff _ _ _ _ _).mp accepted
  intro asked member
  rw [filterMap_askedPermission?_validate, executed_of_passed passed, List.take_length] at member
  exact interviews.granted_of_passed (fun _ listed => listed) passed asked member

/-- A permission that is not granted is the last that a run asks for, and the run is rejected. -/
theorem refused_is_last
    (interviews : Interviews world (dossier.candidate world) ref chain.validators questions)
    {options : RunOptions} {before after : List (String × Permission)}
    {asked : String × Permission}
    (log : (chain.validate world dossier options).effects.filterMap Effect.askedPermission? =
      before ++ asked :: after)
    (ungranted : world.isGranted asked.1 asked.2 ≠ .ok true) :
    after = [] ∧ ∃ rejection, (chain.validate world dossier options).verdict = .error rejection ∧
      Unpermitted world asked.1 asked.2 rejection := by
  have listed : asked ∈ before ++ asked :: after :=
    List.mem_append_right before List.mem_cons_self
  rcases all_pass_or_first_rejection world (dossier.candidate world) chain.validators with
    ⟨infos, passed⟩ | ⟨earlier, validator, later, infos, rejection, split, first⟩
  · have accepted := congrArg Run.verdict (validate_of_passed passed options)
    have granted := granted_of_accepted interviews accepted
    rw [log] at granted
    exact absurd (granted asked listed) ungranted
  · have granted : ∀ own ∈ earlier.flatMap (Validator.asked world (dossier.candidate world)),
        world.isGranted own.1 own.2 = .ok true := by
      apply interviews.granted_of_passed _ first.passed
      intro own member
      rw [split]
      exact List.mem_append_left _ member
    -- so the one that is not granted was asked for by the validator that rejects
    have unlisted : asked ∉ earlier.flatMap (Validator.asked world (dossier.candidate world)) :=
      fun member => ungranted (granted asked member)
    rw [filterMap_askedPermission?_validate, take_executed_of_rejected split first,
      List.flatMap_append, List.flatMap_singleton] at log
    have member : validator ∈ chain.validators := by
      rw [split]
      exact List.mem_append_right _ List.mem_cons_self
    rcases interviews.refused_of_rejects member first.rejected with none |
      ⟨permission, own, refusal⟩
    · rw [none, List.append_nil] at log
      rw [← log] at listed
      exact absurd listed unlisted
    · rw [own] at log
      obtain ⟨ended, rfl⟩ := eq_nil_of_append_cons_eq log.symm unlisted
      refine ⟨ended, _, congrArg Run.verdict (validate_of_rejected split first options), ?_⟩
      cases refusal with
      | denied answer policy => exact .denied answer policy
      | failed answer kind reason => exact .failed answer kind reason

end Chain

end CommitAdmission
