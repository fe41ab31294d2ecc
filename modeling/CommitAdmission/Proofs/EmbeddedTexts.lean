import CommitAdmission.Proofs.BuiltIn
import CommitAdmission.Proofs.MarkedLines

/-! Texts in rejections. Who rejects a commit quotes addresses, names and settings; a line of the rejection
passes for the one that tells of an accepted commit only if a line of such a text does. -/

namespace CommitAdmission

open Text

def acceptedLine : List Char := "Result: ACCEPTED".toList

def Harmless (text : String) : Prop := ¬ HasMark acceptedLine text.toList

def HarmlessWithin (text : String) : Prop := ¬ HasLaterMark acceptedLine text.toList

instance (text : String) : Decidable (Harmless text) := inferInstanceAs (Decidable (¬ _))

instance (text : String) : Decidable (HarmlessWithin text) := inferInstanceAs (Decidable (¬ _))

section Parts

variable {before after : LastLine} {part text : String}

theorem Harmless.within (harmless : Harmless text) : HarmlessWithin text := by
  rintro ⟨line, member, reads⟩
  exact harmless ⟨line, List.mem_of_mem_tail member, reads⟩

theorem acceptedLine_ne_nil : acceptedLine ≠ [] := by decide

theorem leads_literal (before after : LastLine) {letters : List Char}
    (spelled : part = String.ofList letters)
    (scanned : before.scan acceptedLine letters = some after) :
    Leads acceptedLine before part after := .of_scan acceptedLine_ne_nil spelled scanned

/-- Words of its own before a quoted text keep the first line of that from passing for the line. -/
theorem leads_quoted (harmless : HarmlessWithin text) : Leads acceptedLine .foreign text .other :=
  .of_not_hasLaterMark harmless

theorem harmless_of_leads (after : LastLine) (leads : Leads acceptedLine .empty part after)
    (known : after ≠ .unknown) : Harmless part := leads.not_hasMark acceptedLine_ne_nil known

theorem harmless_literal (after : LastLine) {letters : List Char}
    (spelled : part = String.ofList letters)
    (scanned : LastLine.empty.scan acceptedLine letters = some after) (known : after ≠ .unknown) :
    Harmless part := harmless_of_leads after (leads_literal _ _ spelled scanned) known

end Parts

namespace Rejection

/-- Whether a line of a rejection passes for the one that tells of an accepted commit. -/
def Forges (rejection : Rejection) : Prop := HasMark acceptedLine rejection.fullText.toList

theorem not_forges {rejection : Rejection} (reason : Harmless rejection.reason)
    (messages : ∀ message ∈ rejection.messages, Harmless message.text) : ¬ rejection.Forges := by
  obtain ⟨text, messages', kind⟩ := rejection
  unfold Forges fullText
  simp only at reason messages ⊢
  induction messages' generalizing text with
  | nil => exact reason
  | cons message rest ih =>
    obtain ⟨own, others⟩ := List.forall_mem_cons.mp messages
    refine ih _ ?_ others
    intro marked
    have split : (text ++ "\n" ++ String.ofList (trimEnd message.text.toList)).toList =
        text.toList ++ '\n' :: trimEnd message.text.toList := by simp
    rw [split, hasMark_append_newline] at marked
    rcases marked with first | trimmed
    · exact reason first
    · exact own trimmed.of_trimEnd

end Rejection

def Check.Honest {α : Type} (check : Check α) : Prop :=
  ∀ rejection, check.outcome = .error rejection → ¬ rejection.Forges

namespace Check

variable {α β : Type}

theorem honest_pure (value : α) : (pure value : Check α).Honest := fun _ rejects => nomatch rejects

theorem honest_perform (acts : List Act) : (perform acts).Honest := fun _ rejects => nomatch rejects

theorem honest_reject {rejection : Rejection} (honest : ¬ rejection.Forges) :
    (reject rejection : Check α).Honest := by
  rintro _ ⟨⟩
  exact honest

theorem honest_require (condition : Bool) {rejection : Rejection} (honest : ¬ rejection.Forges) :
    (require condition rejection).Honest := by
  cases condition
  · exact honest_reject honest
  · exact honest_pure ()

theorem Honest.bind {check : Check α} {next : α → Check β} (first : check.Honest)
    (others : ∀ value, check.outcome = .ok value → (next value).Honest) : (check >>= next).Honest := by
  intro rejection rejects
  rw [outcome_bind] at rejects
  cases outcome : check.outcome with
  | error own =>
    rw [outcome] at rejects
    cases rejects
    exact first rejection outcome
  | ok value =>
    rw [outcome] at rejects
    exact others value outcome rejection rejects

end Check

end CommitAdmission
