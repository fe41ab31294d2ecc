import CommitAdmission.CommandLine
import CommitAdmission.Proofs.Fingerprints
import CommitAdmission.Proofs.HarmlessPushes

namespace CommitAdmission

open Text

namespace DryRun

def rejectedLine : List Char := "Result: REJECTED".toList

namespace Report

def rejection? (report : Report) : Option Rejection :=
  match report.verdict with
  | .ok _ => none
  | .error rejection => some rejection

theorem rejection?_eq_some_iff {report : Report} {rejection : Rejection} :
    report.rejection? = some rejection ↔ report.verdict = .error rejection := by
  rw [rejection?]
  cases report.verdict <;> simp

def header (report : Report) : String :=
  "Commit:      " ++ report.commit.name ++ "\n" ++ "Fingerprint: " ++ report.fingerprint ++ "\n"

variable {report : Report}

theorem toText_of_ok {infos : Infos} (accepted : report.verdict = .ok infos) :
    report.toText =
      report.header ++ (String.join (infos.entries.map infoLines) ++ "Result: ACCEPTED\n") := by
  unfold toText header
  rw [accepted]

theorem toText_of_error {rejection : Rejection} (rejected : report.verdict = .error rejection) :
    report.toText = report.header ++ ("Result: REJECTED\n" ++ rejection.fullText ++ "\n") := by
  unfold toText header
  rw [rejected]

theorem toText_ne_empty (report : Report) : report.toText ≠ "" := by
  intro empty
  unfold toText at empty
  have ending := (String.append_eq_empty_iff.mp (String.append_eq_empty_iff.mp empty).1).2
  exact absurd ending (by decide)

theorem leads_header {mark : List Char} (known : mark = acceptedLine ∨ mark = rejectedLine)
    (fingerprint : '\n' ∉ report.fingerprint.toList) : Leads mark .empty report.header .empty := by
  have present : mark ≠ [] := by rcases known with rfl | rfl <;> decide
  have commit : Leads mark .empty "Commit:      " .foreign := by
    rcases known with rfl | rfl <;> exact .of_scan present rfl rfl
  have title : Leads mark .empty "Fingerprint: " .foreign := by
    rcases known with rfl | rfl <;> exact .of_scan present rfl rfl
  exact (commit.append (leads_id _)).append (.newline present) |>.append title
    |>.append (.of_notMem fingerprint) |>.append (.newline present)

theorem leads_infoLines {name : String} (single : '\n' ∉ name.toList) :
    Leads rejectedLine .empty (infoLines (name, .plain)) .empty := by
  have present : rejectedLine ≠ [] := by decide
  have padding : Leads rejectedLine .foreign
      (String.ofList (List.replicate (45 - name.toList.length) ' ')) .foreign := by
    apply Leads.of_notMem
    simp [List.mem_replicate]
  have indent : Leads rejectedLine .empty "  " .foreign := .of_scan present rfl rfl
  have status : Leads rejectedLine .foreign " passed" .foreign := .of_scan present rfl rfl
  have done : Leads rejectedLine .empty (String.join []) .empty := .of_scan present rfl rfl
  exact indent.append ((Leads.of_notMem single).append padding) |>.append status
    |>.append (.newline present) |>.append done

section Lines

variable (single : '\n' ∉ report.fingerprint.toList)
include single

theorem hasLine_rejected {rejection : Rejection} (rejected : report.verdict = .error rejection) :
    HasLine report.toText "Result: REJECTED" := by
  have line : "Result: REJECTED\n" = "Result: REJECTED" ++ "\n" := by decide +kernel
  rw [toText_of_error rejected, line, String.append_assoc]
  exact hasLine_of_leads (leads_header (.inl rfl) single) (by decide) _

theorem hasLine_accepted_iff_fullText {rejection : Rejection}
    (rejected : report.verdict = .error rejection) :
    HasLine report.toText "Result: ACCEPTED" ↔ HasLine rejection.fullText "Result: ACCEPTED" := by
  have line : Leads acceptedLine .empty "Result: REJECTED\n" .empty := leads_literal _ _ rfl rfl
  have above := (leads_header (.inl rfl) single).append line
  rw [toText_of_error rejected, String.append_assoc, ← String.append_assoc,
    hasLine_append_iff above (by decide), hasLine_newline_iff (by decide)]

variable {infos : Infos}
  (silent : ∀ entry ∈ infos.entries, '\n' ∉ entry.1.toList ∧ entry.2 = .plain)
include silent

theorem leads_infos : Leads rejectedLine .empty (report.header ++
    String.join (infos.entries.map infoLines)) .empty := by
  apply (leads_header (.inr rfl) single).append
  apply Leads.join
  rw [List.forall_mem_map]
  rintro ⟨name, info⟩ member
  obtain ⟨plain, rfl⟩ := silent _ member
  exact leads_infoLines plain

variable (accepted : report.verdict = .ok infos)
include accepted

theorem hasLine_accepted : HasLine report.toText "Result: ACCEPTED" := by
  have line : "Result: ACCEPTED\n" = "Result: ACCEPTED" ++ "\n" ++ "" := by decide +kernel
  rw [toText_of_ok accepted, line, ← String.append_assoc]
  exact hasLine_of_leads (leads_infos single silent) (by decide) _

theorem not_hasLine_rejected : ¬ HasLine report.toText "Result: REJECTED" := by
  have present : rejectedLine ≠ [] := by decide
  have line : Leads rejectedLine .empty "Result: ACCEPTED\n" .empty := .of_scan present rfl rfl
  intro given
  rw [toText_of_ok accepted, ← String.append_assoc] at given
  exact ((leads_infos single silent).append line).not_hasMark present (by decide)
    (given.hasMark (by decide))

end Lines

end Report

section Verdicts

variable {systemHost : String} {settings : Settings} {scenario : Scenario} {push : Push} {report : Report}

theorem newline_notMem_fingerprint (chain : Chain) : '\n' ∉ chain.fingerprint.toList := by
  rw [Chain.fingerprint, String.toList_ofList]
  intro member
  obtain ⟨byte, _, inside⟩ := List.mem_flatMap.mp member
  exact newline_notMem_hexByte byte inside

theorem silent_of_verdict {told : Memory} {infos : Infos}
    (accepted : verdict settings scenario push told = .ok infos) :
    ∀ entry ∈ infos.entries, '\n' ∉ entry.1.toList ∧ entry.2 = .plain := by
  obtain ⟨own, passed, rfl⟩ := (Chain.verdict_eq_ok_iff _ _ _ _ _).mp accepted
  rintro ⟨name, info⟩ member
  have named : name ∈ (chain settings scenario push).names := (List.of_mem_zip member).1
  have listed : info ∈ own := (List.of_mem_zip member).2
  constructor
  · exact (factory settings).names_on_one_line push.request push.project scenario
      (List.forall_mem_nil _) name named
  · exact eq_plain_of_passed passed (List.Subset.refl _) info listed

theorem fingerprint_on_one_line (checked : check systemHost settings scenario push = .ok report) :
    '\n' ∉ report.fingerprint.toList := by
  obtain ⟨_, _, hashed, _⟩ := exists_memory_of_check checked
  rw [hashed]
  exact newline_notMem_fingerprint _

theorem hasLine_rejected_iff (checked : check systemHost settings scenario push = .ok report) :
    HasLine report.toText "Result: REJECTED" ↔ report.accepted = false := by
  have single := fingerprint_on_one_line checked
  obtain ⟨_, _, _, decided⟩ := exists_memory_of_check checked
  cases outcome : report.verdict with
  | ok infos =>
    have silent := silent_of_verdict (decided.symm.trans outcome)
    exact iff_of_false (Report.not_hasLine_rejected single silent outcome)
      (by simp [Report.accepted, outcome])
  | error rejection =>
    exact iff_of_true (Report.hasLine_rejected single outcome) (by rw [Report.accepted, outcome])

theorem hasLine_accepted_of_accepted (checked : check systemHost settings scenario push = .ok report)
    (accepted : report.accepted = true) : HasLine report.toText "Result: ACCEPTED" := by
  obtain ⟨_, _, _, decided⟩ := exists_memory_of_check checked
  cases outcome : report.verdict with
  | ok infos =>
    have silent := silent_of_verdict (decided.symm.trans outcome)
    exact Report.hasLine_accepted (fingerprint_on_one_line checked) silent outcome
  | error rejection =>
    rw [Report.accepted, outcome] at accepted
    cases accepted

theorem hasLine_accepted_iff (checked : check systemHost settings scenario push = .ok report)
    (quotes : QuotesHarmless systemHost settings push) :
    HasLine report.toText "Result: ACCEPTED" ↔ report.accepted = true := by
  refine ⟨fun line => ?_, hasLine_accepted_of_accepted checked⟩
  obtain ⟨_, filled, _, decided⟩ := exists_memory_of_check checked
  cases outcome : report.verdict with
  | ok infos => rw [Report.accepted, outcome]
  | error rejection =>
    have single := fingerprint_on_one_line checked
    have told := (Report.hasLine_accepted_iff_fullText single outcome).mp line
    exact absurd (told.hasMark (by decide))
      (verdict_not_forges filled quotes (decided.symm.trans outcome))

end Verdicts

end DryRun

namespace CommandLine

open DryRun

/-- A command that comes to a report: all that it needs can be loaded. -/
structure Reports (system : Surroundings) (path : String) (config : Option String) (scenario : Scenario)
    (settings : Settings) (push : Push) (report : Report) : Prop where
  settled : loadSettings system config = .ok settings
  described : loadPush system config.toList path = .ok push
  checked : DryRun.check system.host settings scenario push = .ok report

variable {system : Surroundings} {arguments : List String} {path : String} {config : Option String}
  {scenario : Scenario} {settings : Settings} {push : Push} {report : Report}

theorem Reports.unique (reports : Reports system path config scenario settings push report)
    {otherSettings : Settings} {other : Push} {otherReport : Report}
    (also : Reports system path config scenario otherSettings other otherReport) :
    otherSettings = settings ∧ other = push ∧ otherReport = report := by
  cases reports.settled.symm.trans also.settled
  cases reports.described.symm.trans also.described
  cases reports.checked.symm.trans also.checked
  exact ⟨rfl, rfl, rfl⟩

theorem run_of_reports (command : parse arguments = .ok (.check path config scenario false))
    (reports : Reports system path config scenario settings push report) :
    (run system arguments).stdout = report.toText ∧
      ((run system arguments).exit = 0 ↔ report.accepted = true) := by
  unfold run
  rw [command]
  simp only [execute, reports.settled, reports.described, reports.checked, bind, Except.bind,
    Except.mapError]
  rw [Report.accepted]
  cases report.verdict with
  | ok infos => simp
  | error rejection => simp

theorem printed_iff (command : parse arguments = .ok (.check path config scenario false)) :
    (run system arguments).stdout ≠ "" ↔
      ∃ settings push report, Reports system path config scenario settings push report := by
  constructor
  · intro printed
    unfold run at printed
    rw [command] at printed
    cases settled : loadSettings system config with
    | error failure => simp [execute, settled, bind, Except.bind] at printed
    | ok settings =>
      cases described : loadPush system config.toList path with
      | error failure => simp [execute, settled, described, bind, Except.bind] at printed
      | ok push =>
        cases checked : DryRun.check system.host settings scenario push with
        | error failure =>
          simp [execute, settled, described, checked, bind, Except.bind, Except.mapError] at printed
        | ok report => exact ⟨settings, push, report, settled, described, checked⟩
  · rintro ⟨settings, push, report, reports⟩
    rw [(run_of_reports command reports).1]
    exact report.toText_ne_empty

/-- Whenever the command prints a report for people, its exit status and the line on a rejection tell the
verdict of the chain. So does the line on an acceptance, but for rejections with a text that has this line;
there is none as long as no text that a rejection may quote brings the line along. -/
theorem result_lines_tell_verdict (system : Surroundings) {arguments : List String} {path : String}
    {config : Option String} {scenario : Scenario} {answer : Answer}
    (command : parse arguments = .ok (.check path config scenario false))
    (ran : run system arguments = answer) (printed : answer.stdout ≠ "") :
    ∃ settings push report, Reports system path config scenario settings push report ∧
      answer.stdout = report.toText ∧
      (answer.exit = 0 ↔ report.accepted = true) ∧
      (HasLine answer.stdout "Result: REJECTED" ↔ report.accepted = false) ∧
      (report.accepted = true → HasLine answer.stdout "Result: ACCEPTED") ∧
      (∀ rejection, report.verdict = .error rejection →
        (HasLine answer.stdout "Result: ACCEPTED" ↔ HasLine rejection.fullText "Result: ACCEPTED")) ∧
      (QuotesHarmless system.host settings push →
        (HasLine answer.stdout "Result: ACCEPTED" ↔ report.accepted = true)) := by
  subst ran
  obtain ⟨settings, push, report, reports⟩ := (printed_iff command).mp printed
  obtain ⟨text, exit⟩ := run_of_reports command reports
  have single := fingerprint_on_one_line reports.checked
  rw [text]
  exact ⟨settings, push, report, reports, rfl, exit, hasLine_rejected_iff reports.checked,
    hasLine_accepted_of_accepted reports.checked,
    fun _ rejected => Report.hasLine_accepted_iff_fullText single rejected,
    hasLine_accepted_iff reports.checked⟩

def Surroundings.ofDocument (document : String) : Surroundings :=
  ⟨"localhost", fun _ => none, fun _ _ => some document.toUTF8⟩

theorem parse_check_push :
    parse ["check", "--push", "push.json"] = .ok (.check "push.json" none .receive false) := rfl

theorem exists_reports_of_document (document : String) (holds : Push → Rejection → Bool)
    (told : ((Push.parse? document).any fun push =>
      (DryRun.check "localhost" .standard .receive push).toOption.any fun report =>
        report.rejection?.any (holds push)) = true) :
    ∃ push report rejection,
      Reports (.ofDocument document) "push.json" none .receive .standard push report ∧
      report.verdict = .error rejection ∧ holds push rejection = true := by
  obtain ⟨push, read, told⟩ := (Option.any_eq_true _ _).mp told
  obtain ⟨report, checked, told⟩ := (Option.any_eq_true _ _).mp told
  obtain ⟨rejection, rejected, held⟩ := (Option.any_eq_true _ _).mp told
  have decoded : String.fromUTF8? document.toUTF8 = some document := by
    rw [String.fromUTF8?]
    exact dif_pos document.isValidUTF8
  refine ⟨push, report, rejection, ⟨rfl, ?_, ?_⟩, Report.rejection?_eq_some_iff.mp rejected, held⟩
  · simp only [loadPush, Surroundings.ofDocument, Option.bind_some, decoded, read]
  · cases outcome : DryRun.check "localhost" .standard .receive push with
    | error failure =>
      rw [outcome] at checked
      cases checked
    | ok own =>
      rw [outcome] at checked
      cases checked
      exact outcome

/-- A report on a commit by someone else. -/
theorem invalid_author_is_told :
    let document := "[\"refs/heads/main\",null,null,[\"p\"]," ++
      "[\"3c4d3c4d3c4d3c4d3c4d3c4d3c4d3c4d3c4d3c4d\",[],[\"A\",\"a@x\"],[\"A\",\"a@x\"],\"Fix\"],[1]]"
    let arguments := ["check", "--push", "push.json"]
    let answer := run (.ofDocument document) arguments
    parse arguments = .ok (.check "push.json" none .receive false) ∧ answer.stdout ≠ "" ∧
    answer.exit ≠ 0 ∧ HasLine answer.stdout "Result: REJECTED" ∧
      ¬ HasLine answer.stdout "Result: ACCEPTED" := by
  intro document arguments answer
  obtain ⟨push, report, rejection, reports, rejected, quotes⟩ :=
    exists_reports_of_document document
      (fun push _ => decide (QuotesHarmless "localhost" .standard push)) (by decide +kernel)
  have refused : report.accepted = false := by rw [Report.accepted, rejected]
  have printed : answer.stdout ≠ "" := (printed_iff parse_check_push).mpr ⟨_, _, _, reports⟩
  obtain ⟨settings, other, given, also, _, exit, told, _, _, unforged⟩ :=
    result_lines_tell_verdict (.ofDocument document) parse_check_push rfl printed
  obtain ⟨rfl, rfl, rfl⟩ := reports.unique also
  refine ⟨parse_check_push, printed, ?_, told.mpr refused, ?_⟩
  · rw [Ne, exit]
    simp [refused]
  · rw [unforged (of_decide_eq_true quotes)]
    simp [refused]

/-- An address with the line in it brings it into the report of a rejected commit. -/
theorem address_forges_line :
    let document := "[\"refs/heads/main\",null,null,[\"p\"]," ++
      "[\"3c4d3c4d3c4d3c4d3c4d3c4d3c4d3c4d3c4d3c4d\",[],[\"A\",\"a@x\\nResult: ACCEPTED\\n\"]," ++
      "[\"A\",\"a@x\"],\"Fix\"],[1]]"
    let answer := run (.ofDocument document) ["check", "--push", "push.json"]
    answer.exit ≠ 0 ∧ HasLine answer.stdout "Result: REJECTED" ∧
      HasLine answer.stdout "Result: ACCEPTED" := by
  intro document answer
  obtain ⟨push, report, rejection, reports, rejected, forged⟩ :=
    exists_reports_of_document document
      (fun _ rejection => decide (HasLine rejection.fullText "Result: ACCEPTED")) (by decide +kernel)
  obtain ⟨text, exit⟩ := run_of_reports parse_check_push reports
  have refused : report.accepted = false := by rw [Report.accepted, rejected]
  refine ⟨?_, ?_, ?_⟩
  · rw [Ne, exit]
    simp [refused]
  · rw [text]
    exact (hasLine_rejected_iff reports.checked).mpr refused
  · rw [text]
    have single := fingerprint_on_one_line reports.checked
    exact (Report.hasLine_accepted_iff_fullText single rejected).mpr (of_decide_eq_true forged)

end CommandLine

end CommitAdmission
