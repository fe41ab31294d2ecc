import CommitAdmission.Counters
import CommitAdmission.Outcome
import CommitAdmission.ReceivedCommit

/-! What validators do besides giving a verdict, and all that a run does, in the order in which it is
done. -/

namespace CommitAdmission

structure Notification where
  listener : String
  infos : Infos
  received : ReceivedCommit
  patchSet : Option PatchSetId

structure Measurement where
  metric : String
  fields : List (String × String)
  deriving DecidableEq, Repr

def countMeasured (metric : String) (measurements : List Measurement) : Nat :=
  measurements.countP (·.metric == metric)

/-- What a validator does. Looking at the number of files is an act because it may cost a request. -/
inductive Act
  | askedPermission (ref : String) (permission : Permission)
  | countedFiles
  | measured (measurement : Measurement)
  | emitted (event : TraceEvent)
  | calledPlugin (tag : Nat)

namespace Act

def inside (span : Span) : Act → Act
  | emitted event => emitted (event.inside span)
  | act => act

def askedPermission? : Act → Option (String × Permission)
  | askedPermission ref permission => some (ref, permission)
  | _ => none

def measured? : Act → Option Measurement
  | measured measurement => some measurement
  | _ => none

def emitted? : Act → Option TraceEvent
  | emitted event => some event
  | _ => none

def calledPlugin? : Act → Option Nat
  | calledPlugin tag => some tag
  | _ => none

theorem askedPermission?_inside (span : Span) (act : Act) :
    (act.inside span).askedPermission? = act.askedPermission? := by
  cases act <;> rfl

theorem calledPlugin?_inside (span : Span) (act : Act) :
    (act.inside span).calledPlugin? = act.calledPlugin? := by
  cases act <;> rfl

end Act

inductive Effect
  | acted (act : Act)
  | requestedDiff (answer : Except DiffFailure Nat)
  | emitted (event : TraceEvent)
  | counted (counter : Counter)
  | notified (notification : Notification)
  /-- An event that a listener emits for itself. -/
  | remarked (event : TraceEvent)

namespace Effect

def inside (span : Span) : Effect → Effect
  | acted act => acted (act.inside span)
  | emitted event => emitted (event.inside span)
  | remarked event => remarked (event.inside span)
  | effect => effect

def act? : Effect → Option Act
  | acted act => some act
  | _ => none

/-- What the run itself announces, apart from the events of its validators. -/
def announced? : Effect → Option TraceEvent
  | emitted event => some event
  | _ => none

def askedPermission? (effect : Effect) : Option (String × Permission) :=
  effect.act?.bind Act.askedPermission?

def requestedDiff? : Effect → Option (Except DiffFailure Nat)
  | requestedDiff answer => some answer
  | _ => none

def measured? (effect : Effect) : Option Measurement := effect.act?.bind Act.measured?

def emitted? : Effect → Option TraceEvent
  | acted (.emitted event) => some event
  | emitted event => some event
  | _ => none

def counted? : Effect → Option Counter
  | counted counter => some counter
  | _ => none

def calledPlugin? (effect : Effect) : Option Nat := effect.act?.bind Act.calledPlugin?

def notified? : Effect → Option Notification
  | notified notification => some notification
  | _ => none

theorem filterMap_act?_inside (span : Span) (effects : List Effect) :
    (effects.map (inside span)).filterMap act? = (effects.filterMap act?).map (Act.inside span) := by
  rw [List.filterMap_map, List.map_filterMap]
  congr
  funext effect
  cases effect <;> rfl

theorem filterMap_announced?_inside (span : Span) (effects : List Effect) :
    (effects.map (inside span)).filterMap announced? =
      (effects.filterMap announced?).map (TraceEvent.inside span) := by
  rw [List.filterMap_map, List.map_filterMap]
  congr
  funext effect
  cases effect <;> rfl

theorem filterMap_notified?_inside (span : Span) (effects : List Effect) :
    (effects.map (inside span)).filterMap notified? = effects.filterMap notified? := by
  rw [List.filterMap_map]
  congr
  funext effect
  cases effect <;> rfl

end Effect

/-- The first look at the number of files requests the diff, unless the number is known; all others
find the answer that was given. -/
def requestOnce (answer : Except DiffFailure Nat) : (known : Bool) → List Effect → List Effect
  | _, [] => []
  | known, .acted .countedFiles :: rest =>
    .acted .countedFiles ::
      if known then requestOnce answer true rest
      else .requestedDiff answer :: requestOnce answer true rest
  | known, effect :: rest => effect :: requestOnce answer known rest

/-- Only who looks for requests sees a difference. -/
theorem filterMap_requestOnce {β : Type} (view : Effect → Option β)
    (unseen : ∀ answer, view (.requestedDiff answer) = none) (answer : Except DiffFailure Nat)
    (known : Bool) (effects : List Effect) :
    (requestOnce answer known effects).filterMap view = effects.filterMap view := by
  fun_induction requestOnce answer known effects with
  | case1 => rfl
  | case2 known rest ih =>
    rw [List.filterMap_cons, List.filterMap_cons]
    split <;> cases known <;> simp [unseen, ih]
  | case3 known effect rest other ih => simp [List.filterMap_cons, ih]

theorem mem_requestOnce {answer : Except DiffFailure Nat} {known : Bool} {effects : List Effect}
    {effect : Effect} (member : effect ∈ requestOnce answer known effects) :
    effect = .requestedDiff answer ∨ effect ∈ effects := by
  fun_induction requestOnce answer known effects with
  | case1 => exact .inr member
  | case2 known rest ih =>
    have parts : effect = .acted .countedFiles ∨ effect = .requestedDiff answer ∨
        effect ∈ requestOnce answer true rest := by
      cases known <;> simp at member <;> grind
    grind
  | case3 known first rest other ih =>
    rcases List.mem_cons.mp member with rfl | later
    · exact .inr List.mem_cons_self
    · exact (ih later).imp_right (List.mem_cons_of_mem _)

theorem requestOnce_of_unlooking (answer : Except DiffFailure Nat) (known : Bool)
    {effects : List Effect} (unlooking : ∀ effect ∈ effects, effect ≠ .acted .countedFiles) :
    requestOnce answer known effects = effects := by
  fun_induction requestOnce answer known effects with
  | case1 => rfl
  | case2 known rest ih => exact absurd rfl (unlooking _ List.mem_cons_self)
  | case3 known effect rest other ih =>
    rw [ih fun later member => unlooking later (List.mem_cons_of_mem _ member)]

theorem requestOnce_append (answer : Except DiffFailure Nat) (known : Bool)
    (first : List Effect) {second : List Effect}
    (unlooking : ∀ effect ∈ second, effect ≠ .acted .countedFiles) :
    requestOnce answer known (first ++ second) = requestOnce answer known first ++ second := by
  fun_induction requestOnce answer known first with
  | case1 => exact requestOnce_of_unlooking answer _ unlooking
  | case2 known rest ih => cases known <;> simp [requestOnce, ih]
  | case3 known effect rest other ih => simp [requestOnce, ih]

def Counters.after (counters : Counters) (effects : List Effect) : Counters :=
  (effects.filterMap Effect.counted?).foldl Counters.increment counters

theorem Counters.after_append (counters : Counters) (first second : List Effect) :
    counters.after (first ++ second) = (counters.after first).after second := by
  rw [after, List.filterMap_append, List.foldl_append]
  rfl

theorem Counters.value_after (counters : Counters) (counter : Counter) (effects : List Effect) :
    (counters.after effects).value counter =
      counters.value counter +
        UInt64.ofNat ((effects.filterMap Effect.counted?).count counter) :=
  counters.value_foldl_increment counter _

theorem Counters.after_perm (counters : Counters) {effects others : List Effect}
    (same : effects.Perm others) : counters.after effects = counters.after others := by
  apply eq_of_value_eq
  intro counter
  rw [value_after, value_after, (same.filterMap Effect.counted?).count_eq]

/-- The dossier with what was learned: the first answer to the request for the diff stays. -/
def Dossier.after (dossier : Dossier) (effects : List Effect) : Dossier :=
  match dossier.fileCount? with
  | some _ => dossier
  | none => { dossier with fileCount? := (effects.filterMap Effect.requestedDiff?).head? }

end CommitAdmission
