import CommitAdmission.Proofs.Run

namespace CommitAdmission

inductive Announcement
  | started (commit : String) (validators : Nat)
  | finished (validator : String) (passes : Bool)
  | passed (commit : String)
  | rejected (commit validator reason : String)
  | listenerFailed (listener error : String)

def Announcement.event : Announcement → TraceEvent
  | started commit validators =>
    ⟨.info, [.run], [("event", .text "validation.started"), ("commit", .text commit),
      ("validators", .count validators)]⟩
  | finished validator passes =>
    ⟨.debug, [.run], [("event", .text "validator.finished"), ("validator", .text validator),
      ("passed", .flag passes)]⟩
  | passed commit =>
    ⟨.info, [.run], [("event", .text "validation.passed"), ("commit", .text commit)]⟩
  | rejected commit validator reason =>
    ⟨.info, [.run], [("event", .text "validation.rejected"), ("commit", .text commit),
      ("validator", .text validator), ("reason", .text reason)]⟩
  | listenerFailed listener error =>
    ⟨.warn, [.run], [("event", .text "validation.listener_failed"), ("listener", .text listener),
      ("error", .text error)]⟩

theorem Announcement.spans_event (announcement : Announcement) :
    announcement.event.spans = [.run] := by
  cases announcement <;> rfl

theorem Announcement.calm (announcement : Announcement) : announcement.event.level ≠ .error := by
  cases announcement <;> exact nofun

namespace Listener

variable (infos : Infos) (received : ReceivedCommit) (patchSet : Option PatchSetId)

/-- What is announced of a call of a listener: the error with which it failed, or that it panicked and
with which text. -/
def failures (listener : Listener) : List Announcement :=
  match (listener.hear infos received patchSet).reply with
  | .succeeded => []
  | .failed error => [.listenerFailed listener.name error]
  | .panicked (some payload) => [.listenerFailed listener.name ("panicked: " ++ payload)]
  | .panicked none => [.listenerFailed listener.name "panicked"]

theorem level_of_mem_failures {listener : Listener} {announcement : Announcement}
    (member : announcement ∈ listener.failures infos received patchSet) :
    announcement.event.level = .warn := by
  unfold failures at member
  split at member
  · cases member
  all_goals
    rw [List.mem_singleton.mp member]
    rfl

/-- What is seen of telling a listener inside the span of a run: that it is called, and that each failure
is counted and announced. -/
theorem filterMap_inside_notify {β : Type} {view : Effect → Option β}
    (deaf : ∀ event, view (.remarked event) = none) (listener : Listener) :
    ((listener.notify infos received patchSet).map (Effect.inside .run)).filterMap view =
      (view (.notified ⟨listener.name, infos, received, patchSet⟩)).toList ++
        (listener.failures infos received patchSet).flatMap fun announcement =>
          [Effect.counted .listenersFailed, .emitted announcement.event].filterMap view := by
  have unheard (event : TraceEvent) : (view ∘ Effect.inside .run) (.remarked event) = none :=
    deaf _
  rw [List.filterMap_map, listener.filterMap_notify unheard, report, failures]
  congr 1
  cases (listener.hear infos received patchSet).reply with
  | succeeded => rfl
  | failed error => exact (List.flatMap_singleton _ _).symm
  | panicked payload =>
    cases payload with
    | none => exact (List.flatMap_singleton _ _).symm
    | some text => exact (List.flatMap_singleton _ _).symm

theorem announced_notify (listener : Listener) :
    ((listener.notify infos received patchSet).map (Effect.inside .run)).filterMap
        Effect.announced? =
      (listener.failures infos received patchSet).map Announcement.event := by
  rw [listener.filterMap_inside_notify _ _ _ fun _ => rfl, List.map_eq_flatMap]
  rfl

end Listener

end CommitAdmission
