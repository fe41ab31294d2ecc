import CommitAdmission.Proofs.Requests
import CommitAdmission.Proofs.Sessions

/-! What was done before is of no consequence for what is done next. All that a call leaves behind, apart
from the counters and the log, is the number of files of its commit, and that is the number which any
other call would have found. So calls may come in any order. -/

namespace CommitAdmission

variable {Key : Type}

namespace Occasion

/-- The occasion as it is when the diff of the commit has been requested. -/
def settled (occasion : Occasion Key) : Occasion Key :=
  { occasion with dossier := occasion.dossier.settled occasion.world }

structure Inquires (occasion : Occasion Key) : Prop where
  unknown : occasion.dossier.fileCount? = none
  looks : .acted .countedFiles ∈ occasion.settled.effects

theorem answer_settled (occasion : Occasion Key) : occasion.settled.answer = occasion.answer := by
  obtain ⟨call, world, dossier⟩ := occasion
  cases call <;> rfl

theorem unrequested_settled (occasion : Occasion Key) :
    occasion.settled.effects.filterMap Effect.requestedDiff? = [] := by
  obtain ⟨call, world, dossier⟩ := occasion
  cases call with
  | validate chain key options =>
    have known : (dossier.settled world).fileCount? = some (dossier.countChanged world) := rfl
    exact chain.unrequested_of_known world known options
  | notify chain infos key patchSet =>
    exact chain.filterMap_requestedDiff?_notifyListeners infos dossier.toReceivedCommit patchSet
  | countFiles key => rfl

/-- What is done on an occasion is what would be done with the number of files known, but for the
request of the diff. -/
theorem effects_eq_request (occasion : Occasion Key) :
    occasion.effects = occasion.dossier.request occasion.world occasion.settled.effects := by
  obtain ⟨call, world, dossier⟩ := occasion
  have plain (effects : List Effect) : (dossier.settled world).request world effects = effects :=
    Dossier.request_of_known world rfl effects
  cases call with
  | validate chain key options => exact congrArg (dossier.request world) (plain _).symm
  | notify chain infos key patchSet =>
    have inactive := List.filterMap_eq_nil_iff.mp
      (chain.filterMap_act?_notifyListeners infos dossier.toReceivedCommit patchSet)
    have unlooking : .acted .countedFiles ∉
        chain.notifyListeners infos dossier.toReceivedCommit patchSet := by
      intro looks
      cases inactive _ looks
    exact (Dossier.request_of_unlooking world unlooking).symm
  | countFiles key => rfl

variable {occasion : Occasion Key}

theorem Inquires.effects_perm (inquires : occasion.Inquires) :
    occasion.effects.Perm
      (.requestedDiff (occasion.dossier.countChanged occasion.world) ::
        occasion.settled.effects) := by
  rw [effects_eq_request]
  exact Dossier.request_perm occasion.world inquires.unknown inquires.looks

theorem Inquires.dossier_after (inquires : occasion.Inquires) :
    occasion.dossier.after occasion.effects = occasion.dossier.settled occasion.world := by
  rw [effects_eq_request]
  exact Dossier.after_request occasion.world inquires.unknown inquires.looks
    occasion.unrequested_settled

theorem effects_of_not_inquires (incurious : ¬occasion.Inquires) :
    occasion.effects = occasion.settled.effects := by
  rw [effects_eq_request]
  cases known : occasion.dossier.fileCount? with
  | some count => exact Dossier.request_of_known occasion.world known _
  | none =>
    exact Dossier.request_of_unlooking occasion.world fun looks => incurious ⟨known, looks⟩

theorem dossier_after_of_not_inquires (incurious : ¬occasion.Inquires) :
    occasion.dossier.after occasion.effects = occasion.dossier := by
  rw [effects_of_not_inquires incurious]
  exact Dossier.after_of_unrequested _ occasion.unrequested_settled

end Occasion

namespace Session

variable (session : Session Key)

def Inquired (calls : List (Call Key)) (key : Key) : Prop :=
  ∃ call ∈ calls, call.key = key ∧ (session.occasion call).Inquires

theorem inquired_cons (call : Call Key) (rest : List (Call Key)) (key : Key) :
    session.Inquired (call :: rest) key ↔
      session.Inquired [call] key ∨ session.Inquired rest key := by
  simp only [Inquired, List.exists_mem_cons_iff, List.not_mem_nil, false_and, exists_false,
    or_false]

theorem inquired_single (call : Call Key) (key : Key) :
    session.Inquired [call] key ↔ call.key = key ∧ (session.occasion call).Inquires := by
  simp only [Inquired, List.mem_singleton, exists_eq_left]

theorem inquired_perm {calls reordered : List (Call Key)} {key : Key}
    (same : reordered.Perm calls) : session.Inquired reordered key ↔ session.Inquired calls key :=
  exists_congr fun _ => and_congr_left fun _ => same.mem_iff

variable [DecidableEq Key]

theorem dossier_after_of_inquired {call : Call Key} {key : Key}
    (inquired : session.Inquired [call] key) :
    (session.after (.call call)).dossiers key = (session.dossiers key).settled session.world := by
  obtain ⟨rfl, inquires⟩ := (session.inquired_single call key).mp inquired
  exact (Function.update_self _ _ _).trans inquires.dossier_after

theorem dossier_after_of_not_inquired {call : Call Key} {key : Key}
    (uninquired : ¬session.Inquired [call] key) :
    (session.after (.call call)).dossiers key = session.dossiers key := by
  by_cases own : key = call.key
  · subst own
    have incurious : ¬(session.occasion call).Inquires := fun inquires =>
      uninquired ((session.inquired_single call call.key).mpr ⟨rfl, inquires⟩)
    exact (Function.update_self _ _ _).trans (Occasion.dossier_after_of_not_inquires incurious)
  · exact Function.update_of_ne own _ _

theorem settled_after (call : Call Key) (key : Key) :
    ((session.after (.call call)).dossiers key).settled session.world =
      (session.dossiers key).settled session.world := by
  by_cases inquired : session.Inquired [call] key
  · rw [dossier_after_of_inquired _ inquired, Dossier.settled_settled]
  · rw [dossier_after_of_not_inquired _ inquired]

theorem occasion_settled_after (call other : Call Key) :
    ((session.after (.call call)).occasion other).settled = (session.occasion other).settled := by
  have same := session.settled_after call other.key
  simp only [occasion, Occasion.settled]
  exact congrArg _ same

theorem answer_after (call other : Call Key) :
    ((session.after (.call call)).occasion other).answer = (session.occasion other).answer := by
  rw [← Occasion.answer_settled, occasion_settled_after, Occasion.answer_settled]

theorem countChanged_after (call : Call Key) (key : Key) :
    ((session.after (.call call)).dossiers key).countChanged session.world =
      (session.dossiers key).countChanged session.world :=
  Option.some.inj (congrArg Dossier.fileCount? (session.settled_after call key))

/-- Nobody asks again for a diff that was requested, and for all others the same calls ask as
before. -/
theorem inquired_after (call : Call Key) (rest : List (Call Key)) (key : Key) :
    (session.after (.call call)).Inquired rest key ↔
      ¬session.Inquired [call] key ∧ session.Inquired rest key := by
  by_cases inquired : session.Inquired [call] key
  · have learned := session.dossier_after_of_inquired inquired
    simp only [inquired, not_true, false_and, iff_false]
    rintro ⟨other, _, rfl, inquires⟩
    have unknown := inquires.unknown
    simp only [occasion, learned] at unknown
    cases unknown
  · have same := session.dossier_after_of_not_inquired inquired
    have asks (other : Call Key) (own : other.key = key) :
        (session.after (.call call)).occasion other = session.occasion other := by
      rw [occasion, own, same]
      exact congrArg (Occasion.mk other session.world ∘ session.dossiers) own.symm
    rw [iff_true_intro inquired, true_and]
    exact exists_congr fun other => and_congr_right fun _ => and_congr_right fun own => by
      rw [asks other own]

def afterCalls (calls : List (Call Key)) : Session Key := session.afterAll (calls.map .call)

def answers (calls : List (Call Key)) : List Answer :=
  (session.occasions (calls.map .call)).map Occasion.answer

theorem answers_eq_map (calls : List (Call Key)) :
    session.answers calls = calls.map fun call => (session.occasion call).answer := by
  induction calls generalizing session with
  | nil => rfl
  | cons call rest ih =>
    have later := ih (session.after (.call call))
    simp only [answer_after] at later
    exact congrArg ((session.occasion call).answer :: ·) later

theorem world_afterCalls (calls : List (Call Key)) :
    (session.afterCalls calls).world = session.world := by
  induction calls generalizing session with
  | nil => rfl
  | cons call rest ih => exact ih (session.after (.call call))

theorem dossier_afterCalls_of_not_inquired {calls : List (Call Key)} {key : Key}
    (uninquired : ¬session.Inquired calls key) :
    (session.afterCalls calls).dossiers key = session.dossiers key := by
  induction calls generalizing session with
  | nil => rfl
  | cons call rest ih =>
    rw [inquired_cons, not_or] at uninquired
    have later := ih (session.after (.call call)) fun asked =>
      uninquired.2 ((session.inquired_after call rest key).mp asked).2
    exact later.trans (session.dossier_after_of_not_inquired uninquired.1)

theorem dossier_afterCalls_of_inquired {calls : List (Call Key)} {key : Key}
    (inquired : session.Inquired calls key) :
    (session.afterCalls calls).dossiers key = (session.dossiers key).settled session.world := by
  induction calls generalizing session with
  | nil =>
    obtain ⟨call, member, _⟩ := inquired
    cases member
  | cons call rest ih =>
    by_cases again : (session.after (.call call)).Inquired rest key
    · exact (ih _ again).trans (session.settled_after call key)
    · have first : session.Inquired [call] key := by
        rw [inquired_after, not_and] at again
        exact ((session.inquired_cons call rest key).mp inquired).elim id fun later =>
          Classical.not_not.mp fun missed => again missed later
      exact (dossier_afterCalls_of_not_inquired _ again).trans
        (session.dossier_after_of_inquired first)

/-- All that calls do is what each would do with the number of files known, and one request for each
diff that some call asks for. -/
theorem effects_perm (calls : List (Call Key)) :
    ∃ asked : List Key, asked.Nodup ∧ (∀ key, key ∈ asked ↔ session.Inquired calls key) ∧
      (session.effects (calls.map .call)).Perm
        ((asked.map fun key =>
            Effect.requestedDiff ((session.dossiers key).countChanged session.world)) ++
          calls.flatMap fun call => (session.occasion call).settled.effects) := by
  induction calls generalizing session with
  | nil => exact ⟨[], .nil, fun key => by simp [Inquired], .nil⟩
  | cons call rest ih =>
    obtain ⟨asked, distinct, asks, rearranged⟩ := ih (session.after (.call call))
    have same : (session.after (.call call)).world = session.world := rfl
    simp only [occasion_settled_after, same, countChanged_after] at rearranged
    simp only [inquired_after, inquired_single] at asks
    -- The requests of the later calls are those of a session that knows this commit, if the first
    -- call has asked for its diff: its key cannot be among theirs.
    by_cases inquires : (session.occasion call).Inquires
    · refine ⟨call.key :: asked, List.nodup_cons.mpr ⟨?_, distinct⟩, ?_, ?_⟩
      · exact fun member => ((asks call.key).mp member).1 ⟨rfl, inquires⟩
      · intro key
        rw [List.mem_cons, asks, inquired_cons, inquired_single]
        by_cases first : call.key = key
        · simp [first, inquires]
        · simp [first, Ne.symm first]
      · exact (inquires.effects_perm.append rearranged).trans
          (List.perm_append_comm_assoc _ _ _ |>.cons _)
    · refine ⟨asked, distinct, ?_, ?_⟩
      · intro key
        rw [asks, inquired_cons, inquired_single]
        simp [inquires]
      · have own := Occasion.effects_of_not_inquires inquires
        exact ((List.Perm.of_eq own).append rearranged).trans (List.perm_append_comm_assoc _ _ _)

theorem effects_reordered {calls reordered : List (Call Key)} (same : reordered.Perm calls) :
    (session.effects (reordered.map .call)).Perm (session.effects (calls.map .call)) := by
  obtain ⟨asked, distinct, asks, rearranged⟩ := session.effects_perm calls
  obtain ⟨others, distinct', asks', rearranged'⟩ := session.effects_perm reordered
  have requests : others.Perm asked := by
    apply (List.perm_ext_iff_of_nodup distinct' distinct).mpr
    intro key
    rw [asks, asks', session.inquired_perm same]
  exact rearranged'.trans (((requests.map _).append (same.flatMap_right _)).trans rearranged.symm)

theorem dossiers_reordered {calls reordered : List (Call Key)} (same : reordered.Perm calls) :
    (session.afterCalls reordered).dossiers = (session.afterCalls calls).dossiers := by
  funext key
  by_cases inquired : session.Inquired calls key
  · rw [dossier_afterCalls_of_inquired _ inquired,
      dossier_afterCalls_of_inquired _ ((session.inquired_perm same).mpr inquired)]
  · rw [dossier_afterCalls_of_not_inquired _ inquired,
      dossier_afterCalls_of_not_inquired _ fun asked => inquired ((session.inquired_perm same).mp asked)]

/-- Each call gives back what it would as the first, whatever calls came before it. In another order
the same calls give back the same, leave the counters and what is known of any commit the same, and do
the same: there are as many requests for diffs, and the same questions, measurements and notifications.
Apart from the counters and the log, all that calls change is that the number of files of a commit
becomes known. -/
theorem history_is_of_no_consequence (session : Session Key) (calls : List (Call Key)) :
    let later := session.afterCalls calls
    session.answers calls = calls.map (fun call => (session.occasion call).answer) ∧
    (∀ reordered : List (Call Key), reordered.Perm calls →
      let other := session.afterCalls reordered
      (reordered.zip (session.answers reordered)).Perm (calls.zip (session.answers calls)) ∧
      other.counters = later.counters ∧
      other.dossiers = later.dossiers ∧
      other.log.Perm later.log ∧
      (other.log.filterMap Effect.requestedDiff?).length =
        (later.log.filterMap Effect.requestedDiff?).length ∧
      (other.log.filterMap Effect.askedPermission?).Perm
        (later.log.filterMap Effect.askedPermission?) ∧
      (other.log.filterMap Effect.measured?).Perm (later.log.filterMap Effect.measured?) ∧
      (other.log.filterMap Effect.notified?).Perm (later.log.filterMap Effect.notified?)) ∧
    later.world = session.world ∧
    later.counters = session.counters.after (session.effects (calls.map .call)) ∧
    later.log = session.log ++ session.effects (calls.map .call) ∧
    ∀ key, later.dossiers key = session.dossiers key ∨
      (session.dossiers key).fileCount? = none ∧
      later.dossiers key =
        { session.dossiers key with
          fileCount? := some ((session.dossiers key).countChanged session.world) } := by
  intro later
  refine ⟨session.answers_eq_map calls, ?_, session.world_afterCalls calls,
    session.counters_afterAll _, session.log_afterAll _, ?_⟩
  · intro reordered same other
    have effects := session.effects_reordered same
    have log : other.log.Perm later.log := by
      rw [show other.log = _ from session.log_afterAll _,
        show later.log = _ from session.log_afterAll _]
      exact effects.append_left _
    refine ⟨?_, ?_, session.dossiers_reordered same, log, (log.filterMap _).length_eq,
      log.filterMap _, log.filterMap _, log.filterMap _⟩
    · rw [answers_eq_map, answers_eq_map, ← List.map_prod_left_eq_zip, ← List.map_prod_left_eq_zip]
      exact same.map _
    · rw [show other.counters = _ from session.counters_afterAll _,
        show later.counters = _ from session.counters_afterAll _]
      exact session.counters.after_perm effects
  · intro key
    by_cases inquired : session.Inquired calls key
    · have learned := session.dossier_afterCalls_of_inquired inquired
      obtain ⟨call, _, rfl, inquires⟩ := inquired
      exact .inr ⟨inquires.unknown, learned⟩
    · exact .inl (session.dossier_afterCalls_of_not_inquired inquired)

end Session

end CommitAdmission
