import CommitAdmission.Proofs.Observers
import CommitAdmission.Proofs.Requests
import CommitAdmission.Proofs.Sessions

/-! Listeners may be told at the end of a run or by a call of its own afterwards: the session comes out
the same, but for the span in which things are said while listeners are told. -/

namespace CommitAdmission

theorem Effect.filterMap_emitted?_inside (span : Span) (effects : List Effect) :
    (effects.map (inside span)).filterMap emitted? =
      (effects.filterMap emitted?).map (TraceEvent.inside span) := by
  rw [List.filterMap_map, List.map_filterMap]
  congr
  funext effect
  cases effect with
  | acted act => cases act <;> rfl
  | requestedDiff answer => rfl
  | emitted event => rfl
  | counted counter => rfl
  | notified notification => rfl
  | remarked event => rfl

theorem Listener.emitted_notify (listener : Listener) (infos : Infos) (received : ReceivedCommit)
    (patchSet : Option PatchSetId) :
    ∀ report ∈ (listener.notify infos received patchSet).filterMap Effect.emitted?,
      ∃ error, report.inside .run = (Announcement.listenerFailed listener.name error).event := by
  rw [listener.filterMap_notify fun _ => rfl, Listener.report]
  split
  · exact List.forall_mem_nil _
  · rename_i error _
    exact List.forall_mem_singleton.mpr ⟨error, rfl⟩

namespace Chain

theorem validate_unheard (world : Collaborators) (chain : Chain) (dossier : Dossier)
    (options others : RunOptions) :
    (chain.withListeners []).validate world dossier options =
      (chain.withListeners []).validate world dossier others := by
  simp only [validate, afterPassing, notifyListeners, withListeners, List.flatMap_nil, ite_self]

def spoken (chain : Chain) (verdict : Except Rejection Infos) (received : ReceivedCommit)
    (patchSet : Option PatchSetId) : List Effect :=
  match verdict with
  | .ok infos => chain.notifyListeners infos received patchSet
  | .error _ => []

theorem told_eq_spoken (chain : Chain) (verdict : Except Rejection Infos)
    (received : ReceivedCommit) (patchSet : Option PatchSetId) :
    told chain.listeners verdict received ⟨patchSet, true⟩ =
      (chain.spoken verdict received patchSet).map (.inside .run) := by
  cases verdict <;> rfl

theorem filterMap_requestedDiff?_spoken (chain : Chain) (verdict : Except Rejection Infos)
    (received : ReceivedCommit) (patchSet : Option PatchSetId) :
    (chain.spoken verdict received patchSet).filterMap Effect.requestedDiff? = [] := by
  cases verdict with
  | ok infos => exact chain.filterMap_requestedDiff?_notifyListeners infos received patchSet
  | error rejection => rfl

theorem emitted_spoken (chain : Chain) (verdict : Except Rejection Infos)
    (received : ReceivedCommit) (patchSet : Option PatchSetId) :
    ∀ report ∈ (chain.spoken verdict received patchSet).filterMap Effect.emitted?,
      ∃ listener error, report.inside .run = (Announcement.listenerFailed listener error).event := by
  cases verdict with
  | error rejection => exact fun report member => absurd member List.not_mem_nil
  | ok infos =>
    rw [spoken, notifyListeners, List.filterMap_flatMap]
    intro report member
    obtain ⟨listener, _, own⟩ := List.mem_flatMap.mp member
    exact ⟨listener.name, listener.emitted_notify _ _ _ report own⟩

theorem telling_spoken (chain : Chain) (verdict : Except Rejection Infos)
    (received : ReceivedCommit) (patchSet : Option PatchSetId) :
    ∀ effect ∈ (chain.spoken verdict received patchSet).map (Effect.inside .run),
      effect.Telling := by
  rw [← told_eq_spoken]
  exact telling_told _ _ _ _

/-- A run that tells its listeners is a run that does not, followed by what is said to them. -/
theorem validate_invoking (world : Collaborators) (chain : Chain) (dossier : Dossier)
    (early patchSet : Option PatchSetId) :
    let quiet := chain.validate world dossier ⟨early, false⟩
    chain.validate world dossier ⟨patchSet, true⟩ =
      ⟨quiet.verdict,
        quiet.effects ++
          (chain.spoken quiet.verdict dossier.toReceivedCommit patchSet).map (.inside .run)⟩ := by
  intro quiet
  have own : chain.validate world dossier ⟨patchSet, true⟩ = _ :=
    validate_withListeners world chain dossier ⟨patchSet, true⟩ chain.listeners
  have unheard : quiet = _ :=
    validate_withListeners world chain dossier ⟨early, false⟩ chain.listeners
  rw [told_of_uninvoked _ _ _ _ rfl, List.append_nil,
    validate_unheard world chain dossier ⟨early, false⟩ ⟨patchSet, true⟩] at unheard
  rw [own, unheard, told_eq_spoken]

end Chain

namespace Session

variable {Key : Type} [DecidableEq Key]

/-- A session after some more effects of which nothing is learned. -/
def record (session : Session Key) (effects : List Effect) : Session Key :=
  { session with counters := session.counters.after effects, log := session.log ++ effects }

theorem after_notify (session : Session Key) (chain : Chain) (infos : Infos) (key : Key)
    (patchSet : Option PatchSetId) :
    session.after (.call (.notify chain infos key patchSet)) =
      session.record (chain.notifyListeners infos (session.dossiers key).toReceivedCommit
        patchSet) := by
  have kept := (session.dossiers key).after_of_unrequested
    (chain.filterMap_requestedDiff?_notifyListeners infos (session.dossiers key).toReceivedCommit
      patchSet)
  simp only [after, occasion, Occasion.effects, Call.key, kept, Function.update_eq_self]
  rfl

/-- Runs a chain without telling its listeners, and tells them afterwards if the commit is
accepted. -/
def defer (session : Session Key) (chain : Chain) (key : Key)
    (early patchSet : Option PatchSetId) : Session Key :=
  let quiet := session.after (.call (.validate chain key ⟨early, false⟩))
  match (chain.validate session.world (session.dossiers key) ⟨early, false⟩).verdict with
  | .ok infos => quiet.after (.call (.notify chain infos key patchSet))
  | .error _ => quiet

def spoken (session : Session Key) (chain : Chain) (key : Key) (early patchSet : Option PatchSetId) :
    List Effect :=
  chain.spoken (chain.validate session.world (session.dossiers key) ⟨early, false⟩).verdict
    (session.dossiers key).toReceivedCommit patchSet

section

variable (session : Session Key) (chain : Chain) (key : Key) (early patchSet : Option PatchSetId)

theorem defer_eq_record :
    session.defer chain key early patchSet =
      (session.after (.call (.validate chain key ⟨early, false⟩))).record
        (session.spoken chain key early patchSet) := by
  have same : ((session.after (.call (.validate chain key ⟨early, false⟩))).dossiers
      key).toReceivedCommit = (session.dossiers key).toReceivedCommit := by
    simp [after, Call.key]
  rw [defer, spoken]
  cases (chain.validate session.world (session.dossiers key) ⟨early, false⟩).verdict with
  | ok infos => simp only [after_notify, same, Chain.spoken]
  | error rejection => simp [Chain.spoken, record, Counters.after]

theorem after_invoking :
    session.after (.call (.validate chain key ⟨patchSet, true⟩)) =
      (session.after (.call (.validate chain key ⟨early, false⟩))).record
        ((session.spoken chain key early patchSet).map (.inside .run)) := by
  have whole := chain.validate_invoking session.world (session.dossiers key) early patchSet
  have unrequested : ((session.spoken chain key early patchSet).map
      (Effect.inside .run)).filterMap Effect.requestedDiff? = [] := by
    rw [Effect.filterMap_requestedDiff?_inside]
    exact chain.filterMap_requestedDiff?_spoken _ _ _
  have effects : (session.occasion (.validate chain key ⟨patchSet, true⟩)).effects =
      (session.occasion (.validate chain key ⟨early, false⟩)).effects ++
        (session.spoken chain key early patchSet).map (.inside .run) :=
    congrArg Run.effects whole
  simp only [after, record, Call.key, effects, Dossier.after_append_of_unrequested _ _ unrequested,
    Counters.after_append, List.append_assoc]

end

/-- Whether listeners are told at the end of a run, or by a call of its own that follows a run which
accepted the commit, makes no difference: not for the verdict, for what is known of any commit, for
the counters, for what listeners hear, nor for what is done and requested. The log is the same, but
what listeners say and what is reported of them stands outside the span of the run when it comes
later. -/
theorem deferred_notification_is_equivalent (session : Session Key) (chain : Chain) (key : Key)
    (early patchSet : Option PatchSetId) :
    let inRun := session.after (.call (.validate chain key ⟨patchSet, true⟩))
    let deferred := session.defer chain key early patchSet
    (session.occasion (.validate chain key ⟨patchSet, true⟩)).answer =
      (session.occasion (.validate chain key ⟨early, false⟩)).answer ∧
    inRun.world = deferred.world ∧
    inRun.dossiers = deferred.dossiers ∧
    inRun.counters = deferred.counters ∧
    inRun.log.filterMap Effect.notified? = deferred.log.filterMap Effect.notified? ∧
    inRun.log.filterMap Effect.act? = deferred.log.filterMap Effect.act? ∧
    inRun.log.filterMap Effect.requestedDiff? = deferred.log.filterMap Effect.requestedDiff? ∧
    (∃ before told, inRun.log = before ++ told.map (Effect.inside .run) ∧
      deferred.log = before ++ told ∧ ∀ effect ∈ told.map (Effect.inside .run), effect.Telling) ∧
    ∃ before reports,
      inRun.log.filterMap Effect.emitted? = before ++ reports.map (TraceEvent.inside .run) ∧
      deferred.log.filterMap Effect.emitted? = before ++ reports ∧
      ∀ report ∈ reports, ∃ listener error,
        report.inside .run = (Announcement.listenerFailed listener error).event := by
  intro inRun deferred
  have own : inRun = _ := session.after_invoking chain key early patchSet
  have later : deferred = _ := session.defer_eq_record chain key early patchSet
  have telling : ∀ effect ∈ (session.spoken chain key early patchSet).map (Effect.inside .run),
      effect.Telling := chain.telling_spoken _ _ _
  have inactive : (session.spoken chain key early patchSet).filterMap Effect.act? = [] := by
    have inside := Chain.filterMap_act?_of_telling telling
    rwa [Effect.filterMap_act?_inside, List.map_eq_nil_iff] at inside
  refine ⟨?_, ?_, ?_, ?_, ?_, ?_, ?_, ?_, ?_⟩
  · have same : (chain.validate session.world (session.dossiers key) ⟨patchSet, true⟩).verdict =
        (chain.validate session.world (session.dossiers key) ⟨early, false⟩).verdict := by
      rw [chain.validate_invoking session.world (session.dossiers key) early patchSet]
    exact congrArg Answer.verdict same
  · rw [own, later]
    rfl
  · rw [own, later]
    rfl
  · simp only [own, later, record, Counters.after, Effect.filterMap_counted?_inside]
  · simp only [own, later, record, List.filterMap_append, Effect.filterMap_notified?_inside]
  · simp only [own, later, record, List.filterMap_append, Effect.filterMap_act?_inside, inactive,
      List.map_nil]
  · simp only [own, later, record, List.filterMap_append, Effect.filterMap_requestedDiff?_inside]
  · exact ⟨_, _, congrArg log own, congrArg log later, telling⟩
  · refine ⟨(session.after (.call (.validate chain key ⟨early, false⟩))).log.filterMap
      Effect.emitted?, (session.spoken chain key early patchSet).filterMap Effect.emitted?, ?_, ?_,
      chain.emitted_spoken _ _ _⟩
    · rw [own, record, List.filterMap_append, Effect.filterMap_emitted?_inside]
    · rw [later, record, List.filterMap_append]

end Session

end CommitAdmission
