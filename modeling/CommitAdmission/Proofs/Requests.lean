import CommitAdmission.Proofs.Run
import Mathlib.Data.List.Perm.Basic

namespace CommitAdmission

section RequestOnce

variable (answer : Except DiffFailure Nat)

theorem requestOnce_known (effects : List Effect) : requestOnce answer true effects = effects := by
  generalize known : true = knows
  fun_induction requestOnce answer knows effects with
  | case1 => rfl
  | case2 knows rest ih => simp [← known, ih]
  | case3 knows effect rest other ih => rw [ih known]

/-- Where the number of files is looked at, one request is all that the effects gain. -/
theorem requestOnce_perm {effects : List Effect} (looked : .acted .countedFiles ∈ effects) :
    (requestOnce answer false effects).Perm (.requestedDiff answer :: effects) := by
  generalize unknown : false = knows
  fun_induction requestOnce answer knows effects with
  | case1 => cases looked
  | case2 knows rest ih =>
    simp only [← unknown, requestOnce_known]
    exact .swap _ _ _
  | case3 knows effect rest other ih =>
    have later := (List.mem_cons.mp looked).resolve_left fun same => other same.symm
    exact ((ih later unknown).cons effect).trans (.swap _ _ _)

end RequestOnce

theorem Effect.filterMap_requestedDiff?_inside (span : Span) (effects : List Effect) :
    (effects.map (inside span)).filterMap requestedDiff? = effects.filterMap requestedDiff? := by
  rw [List.filterMap_map]
  congr
  funext effect
  cases effect <;> rfl

namespace Chain

theorem filterMap_requestedDiff?_turn (world : Collaborators) (candidate : Candidate)
    (passed : Bool) (validator : Validator) :
    (turn world candidate passed validator).filterMap Effect.requestedDiff? = [] := by
  rw [turn, List.filterMap_append, List.filterMap_map, List.filterMap_eq_nil_iff.mpr]
  · rfl
  · intro act member
    rfl

/-- A validator cannot request a diff: it can only look at the number of files. -/
theorem filterMap_requestedDiff?_runFrom (world : Collaborators) (candidate : Candidate)
    (infos : Infos) (validators : List Validator) :
    (runFrom world candidate infos validators).effects.filterMap Effect.requestedDiff? = [] := by
  induction validators generalizing infos with
  | nil => rfl
  | cons validator rest ih =>
    cases outcome : validator.outcome world candidate with
    | ok info =>
      rw [runFrom_cons_of_ok outcome, List.filterMap_append, filterMap_requestedDiff?_turn, ih]
      rfl
    | error rejection =>
      rw [runFrom_cons_of_error outcome, List.filterMap_append, filterMap_requestedDiff?_turn]
      rfl

theorem filterMap_requestedDiff?_notifyListeners (chain : Chain) (infos : Infos)
    (received : ReceivedCommit) (patchSet : Option PatchSetId) :
    (chain.notifyListeners infos received patchSet).filterMap Effect.requestedDiff? = [] := by
  rw [notifyListeners, List.filterMap_flatMap, List.flatMap_eq_nil_iff]
  intro listener _
  rw [listener.filterMap_notify fun _ => rfl, Listener.report]
  split <;> rfl

theorem filterMap_requestedDiff?_afterPassing (chain : Chain) (options : RunOptions)
    (infos : Infos) (received : ReceivedCommit) :
    (chain.afterPassing options infos received).filterMap Effect.requestedDiff? = [] := by
  rw [afterPassing]
  cases options.invokeListeners with
  | true => exact chain.filterMap_requestedDiff?_notifyListeners infos received options.patchSet
  | false => rfl

end Chain

namespace Dossier

@[simp] theorem toReceivedCommit_after (dossier : Dossier) (effects : List Effect) :
    (dossier.after effects).toReceivedCommit = dossier.toReceivedCommit := by
  unfold after
  split <;> rfl

theorem after_of_unrequested (dossier : Dossier) {effects : List Effect}
    (unrequested : effects.filterMap Effect.requestedDiff? = []) :
    dossier.after effects = dossier := by
  obtain ⟨received, known⟩ := dossier
  cases known with
  | some count => rfl
  | none => simp only [after, unrequested, List.head?_nil]

theorem after_append_of_unrequested (dossier : Dossier) (first : List Effect)
    {second : List Effect} (unrequested : second.filterMap Effect.requestedDiff? = []) :
    dossier.after (first ++ second) = dossier.after first := by
  rw [after, after, List.filterMap_append, unrequested, List.append_nil]

variable (world : Collaborators) (dossier : Dossier)

/-- The dossier once the diff has been requested. -/
def settled : Dossier := { dossier with fileCount? := some (dossier.countChanged world) }

@[simp] theorem settled_settled : (dossier.settled world).settled world = dossier.settled world := rfl

variable {dossier}

theorem request_of_known {count : Except DiffFailure Nat} (known : dossier.fileCount? = some count)
    (effects : List Effect) : dossier.request world effects = effects := by
  rw [request, known]
  exact requestOnce_known _ effects

theorem request_of_unlooking {effects : List Effect}
    (unlooking : .acted .countedFiles ∉ effects) : dossier.request world effects = effects := by
  apply requestOnce_of_unlooking
  intro effect member looks
  exact unlooking (looks ▸ member)

theorem request_perm (unknown : dossier.fileCount? = none) {effects : List Effect}
    (looked : .acted .countedFiles ∈ effects) :
    (dossier.request world effects).Perm
      (.requestedDiff (dossier.countChanged world) :: effects) := by
  rw [request, unknown]
  exact requestOnce_perm _ looked

theorem after_request (unknown : dossier.fileCount? = none) {effects : List Effect}
    (looked : .acted .countedFiles ∈ effects)
    (unrequested : effects.filterMap Effect.requestedDiff? = []) :
    dossier.after (dossier.request world effects) = dossier.settled world := by
  have requests : (dossier.request world effects).filterMap Effect.requestedDiff? =
      [dossier.countChanged world] := by
    have single := (request_perm world unknown looked).filterMap Effect.requestedDiff?
    simp only [List.filterMap_cons, Effect.requestedDiff?, unrequested] at single
    exact List.perm_singleton.mp single
  rw [after, unknown]
  simp only [requests, List.head?_cons, settled]

end Dossier

theorem Chain.unrequested_of_known (world : Collaborators) (chain : Chain) {dossier : Dossier}
    {count : Except DiffFailure Nat} (known : dossier.fileCount? = some count)
    (options : RunOptions) :
    (chain.validate world dossier options).effects.filterMap Effect.requestedDiff? = [] := by
  simp only [validate, Dossier.request_of_known world known, Effect.filterMap_requestedDiff?_inside,
    List.filterMap_append, filterMap_requestedDiff?_runFrom, List.append_nil, List.append_eq_nil_iff]
  constructor
  · rfl
  · split
    · exact chain.filterMap_requestedDiff?_afterPassing _ _ _
    · rfl

end CommitAdmission
