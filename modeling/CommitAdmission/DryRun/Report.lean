import CommitAdmission.Diagnostic
import CommitAdmission.DryRun.Push
import CommitAdmission.Json.Writer

namespace CommitAdmission.DryRun

open Json Text

structure Report where
  commit : ObjectId
  scenario : Scenario
  fingerprint : String
  verdict : Except Rejection Infos

namespace Report

def accepted (report : Report) : Bool :=
  match report.verdict with
  | .ok _ => true
  | .error _ => false

def toJson (report : Report) : Json :=
  .ofMembers <|
    [("commit", encode report.commit), ("scenario", encode report.scenario.name),
     ("fingerprint", encode report.fingerprint)] ++
    match report.verdict with
    | .ok infos => [("validators", encode infos)]
    | .error rejection => [("rejection", encode rejection)]

def padded (width : Nat) (text : String) : String :=
  text ++ String.ofList (List.replicate (width - text.toList.length) ' ')

def messageLine (message : Message) : String :=
  let text := String.ofList (trimEnd message.text.toList)
  "      " ++ (if message.severity == .other then text else message.severity.name ++ ": " ++ text) ++
    "\n"

def infoLines (entry : String × Info) : String :=
  "  " ++ padded 45 entry.1 ++ (if entry.2.status == .passed then " passed" else " skipped") ++ "\n" ++
    String.join (entry.2.messages.map messageLine)

def toText (report : Report) : String :=
  "Commit:      " ++ report.commit.name ++ "\n" ++ "Fingerprint: " ++ report.fingerprint ++ "\n" ++
    match report.verdict with
    | .ok infos => String.join (infos.entries.map infoLines) ++ "Result: ACCEPTED\n"
    | .error rejection => "Result: REJECTED\n" ++ rejection.fullText ++ "\n"

end Report

def logListener : Listener where
  name := "LogInfoListener"
  hear infos received patchSet :=
    let patchSetText := match patchSet with
      | none => "None"
      | some patchSet => describeWrapped "Some" (quotedText patchSet.display)
    { remarks := [⟨.info, [], [("commit", .text received.commit.id.name),
        ("branch", .text received.branch.ref), ("patch_set", .text patchSetText),
        ("validators", .count infos.entries.length), ("message", .text "commit accepted")]⟩]
      reply := .succeeded }

inductive Failure
  | invalidRevision (revision : String)
  | assembly (failure : AssemblyFailure)
  deriving DecidableEq, Repr

def check (systemHost : String) (settings : Settings) (scenario : Scenario) (push : Push) :
    Except Failure Report :=
  match push.memory systemHost with
  | .error invalid => .error (.invalidRevision invalid.revision)
  | .ok memory =>
    match Factory.assemble ⟨settings, [], [logListener]⟩ push.request memory.collaborators scenario with
    | .error failure => .error (.assembly failure)
    | .ok chain =>
      let run := chain.validate memory.collaborators push.received.dossier ⟨push.patchSet, true⟩
      .ok ⟨push.commit.id, scenario, chain.fingerprint, run.verdict⟩

def sampleChain (settings : Settings) (scenario : Scenario) : Chain :=
  let project : ProjectName := ⟨"sample"⟩
  ⟨Factory.validators ⟨settings, [], [logListener]⟩
      ⟨⟨project, "refs/heads/main"⟩, .ofAccount 1, .none, none, false⟩
      (.activeProject project) scenario,
    [logListener]⟩

def listing (chain : Chain) : String :=
  String.join ((chain.names.zipIdx 1).map fun entry =>
      (if entry.2 < 10 then " " else "") ++ decimalText entry.2 ++ ". " ++ entry.1 ++ "\n") ++
    "Fingerprint: " ++ chain.fingerprint ++ "\n"

end CommitAdmission.DryRun
