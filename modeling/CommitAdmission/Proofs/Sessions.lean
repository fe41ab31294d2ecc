import CommitAdmission.Chain
import Mathlib.Logic.Function.Basic

/-! Sessions: the server is called again and again, about the same commits or others, and between two
calls its collaborators may change. A call finds what the calls before it have learned of its commit,
and all calls write into the same counters and the same log. -/

namespace CommitAdmission

/-- A call of the server, about a commit that is known by a key. -/
inductive Call (Key : Type)
  | validate (chain : Chain) (key : Key) (options : RunOptions)
  | notify (chain : Chain) (infos : Infos) (key : Key) (patchSet : Option PatchSetId)
  | countFiles (key : Key)

variable {Key : Type}

def Call.key : Call Key → Key
  | validate _ key _ => key
  | notify _ _ key _ => key
  | countFiles key => key

inductive Answer
  | verdict (verdict : Except Rejection Infos)
  | fileCount (count : Except DiffFailure Nat)
  | silence

/-- A call, with the collaborators and with what is known of its commit. -/
structure Occasion (Key : Type) where
  call : Call Key
  world : Collaborators
  dossier : Dossier

namespace Occasion

def answer (occasion : Occasion Key) : Answer :=
  match occasion.call with
  | .validate chain _ options =>
    .verdict (chain.validate occasion.world occasion.dossier options).verdict
  | .notify _ _ _ _ => .silence
  | .countFiles _ => .fileCount (occasion.dossier.countChanged occasion.world)

def effects (occasion : Occasion Key) : List Effect :=
  match occasion.call with
  | .validate chain _ options => (chain.validate occasion.world occasion.dossier options).effects
  | .notify chain infos _ patchSet =>
    chain.notifyListeners infos occasion.dossier.toReceivedCommit patchSet
  | .countFiles _ => occasion.dossier.request occasion.world [.acted .countedFiles]

end Occasion

/-- What happens in a session: a call, or the collaborators become others. -/
inductive Step (Key : Type)
  | call (call : Call Key)
  | change (world : Collaborators)

structure Session (Key : Type) where
  world : Collaborators
  dossiers : Key → Dossier
  counters : Counters
  log : List Effect

namespace Session

def start (world : Collaborators) (dossiers : Key → Dossier) : Session Key :=
  ⟨world, dossiers, .zero, []⟩

def occasion (session : Session Key) (call : Call Key) : Occasion Key :=
  ⟨call, session.world, session.dossiers call.key⟩

variable [DecidableEq Key]

def after (session : Session Key) : Step Key → Session Key
  | .call call =>
    let effects := (session.occasion call).effects
    { session with
      dossiers :=
        Function.update session.dossiers call.key ((session.dossiers call.key).after effects)
      counters := session.counters.after effects
      log := session.log ++ effects }
  | .change world => { session with world }

def afterAll (session : Session Key) (steps : List (Step Key)) : Session Key :=
  steps.foldl after session

def occasions (session : Session Key) : List (Step Key) → List (Occasion Key)
  | [] => []
  | .call call :: rest => session.occasion call :: occasions (session.after (.call call)) rest
  | .change world :: rest => occasions (session.after (.change world)) rest

def effects (session : Session Key) (steps : List (Step Key)) : List Effect :=
  (session.occasions steps).flatMap Occasion.effects

theorem log_afterAll (session : Session Key) (steps : List (Step Key)) :
    (session.afterAll steps).log = session.log ++ session.effects steps := by
  induction steps generalizing session with
  | nil => exact (List.append_nil _).symm
  | cons step rest ih =>
    have later : (session.afterAll (step :: rest)).log = _ := ih (session.after step)
    rw [later]
    cases step with
    | call call => exact List.append_assoc _ _ _
    | change world => rfl

theorem counters_afterAll (session : Session Key) (steps : List (Step Key)) :
    (session.afterAll steps).counters = session.counters.after (session.effects steps) := by
  induction steps generalizing session with
  | nil => rfl
  | cons step rest ih =>
    have later : (session.afterAll (step :: rest)).counters = _ := ih (session.after step)
    rw [later]
    cases step with
    | call call => exact (session.counters.after_append _ _).symm
    | change world => rfl

end Session

end CommitAdmission
