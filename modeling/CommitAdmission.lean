import CommitAdmission.Diagnostic
import CommitAdmission.Main
import CommitAdmission.Proofs.Accounting
import CommitAdmission.Proofs.Admission
import CommitAdmission.Proofs.ChangeIdVerdicts
import CommitAdmission.Proofs.ConditionGrammar
import CommitAdmission.Proofs.Deferral
import CommitAdmission.Proofs.Failures
import CommitAdmission.Proofs.Fingerprints
import CommitAdmission.Proofs.FooterBlocks
import CommitAdmission.Proofs.FooterForms
import CommitAdmission.Proofs.Grants
import CommitAdmission.Proofs.History
import CommitAdmission.Proofs.Lifecycle
import CommitAdmission.Proofs.Observers
import CommitAdmission.Proofs.Permissions
import CommitAdmission.Proofs.RecordForms
import CommitAdmission.Proofs.ReviewRefs
import CommitAdmission.Proofs.Scenarios
import CommitAdmission.Proofs.Sessions
import CommitAdmission.Proofs.Skipping
import CommitAdmission.Proofs.SubjectLines
import CommitAdmission.Proofs.ChangeIdLines
import CommitAdmission.Proofs.InstallHints
import CommitAdmission.Proofs.SignOffs
import CommitAdmission.Proofs.LabelReports
import CommitAdmission.Proofs.KeptFlags
import CommitAdmission.Proofs.Conduct
import CommitAdmission.Proofs.Reach
import CommitAdmission.Proofs.FileCounts
import CommitAdmission.Proofs.DiffRequests
import CommitAdmission.Proofs.ErrorLog
import CommitAdmission.Proofs.PatchSetRefs
import CommitAdmission.Proofs.NestedSkipping
import CommitAdmission.Proofs.ObjectIds
import CommitAdmission.Proofs.Registrations
import CommitAdmission.Proofs.SettingSources
import CommitAdmission.Proofs.Destinations
import CommitAdmission.Proofs.PushedConfigs
import CommitAdmission.Proofs.PrintedReports
import CommitAdmission.Proofs.OneLineSubjects
import CommitAdmission.Proofs.FoldedFooters
