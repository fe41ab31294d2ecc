import CommitAdmission.CopyCondition
import CommitAdmission.Proofs.Lines

/-! What is wrong with a copy condition fits on one line: a fault quotes nothing but a part of a word, and
white space separates words. -/

namespace CommitAdmission.CopyCondition

open Text

def Fault.quoted : Fault → List Char
  | unexpected word | missingOperator word | noOperator word => word
  | noValue operator | unsupported operator => operator
  | incomplete | unbalanced => []

def Fault.OnOneLine (fault : Fault) : Prop := '\n' ∉ fault.quoted

instance (fault : Fault) : Decidable fault.OnOneLine := inferInstanceAs (Decidable (¬ _))

def Token.OnOneLine : Token → Prop
  | joined word | term word => '\n' ∉ word
  | openGroup | closeGroup | negated => True

theorem Token.onOneLine_ofWord {word : List Char} (plain : '\n' ∉ word) : (ofWord word).OnOneLine := by
  unfold ofWord
  split
  · trivial
  · split
    · trivial
    · split
      · exact plain
      · split
        · trivial
        · exact plain

theorem onOneLine_of_mem_tokens {query : List Char} {token : Token} (member : token ∈ tokens query) :
    token.OnOneLine := by
  obtain ⟨word, listed, rfl⟩ := List.mem_map.mp member
  apply Token.onOneLine_ofWord
  intro inside
  have dark := unseparated_of_mem_splitWhere (List.mem_of_mem_filter listed) '\n' inside
  exact absurd dark (by decide)

theorem withoutMinus_subset (word : List Char) : withoutMinus word ⊆ word := by
  unfold withoutMinus
  split
  · exact List.subset_cons_self _ _
  · exact List.Subset.refl _

variable {fault : Fault}

theorem onOneLine_of_checkTerm {word : List Char} (plain : '\n' ∉ word)
    (fails : checkTerm word = .error fault) : fault.OnOneLine := by
  have bare : '\n' ∉ withoutMinus word := fun member => plain (withoutMinus_subset word member)
  unfold checkTerm at fails
  split at fails
  · cases fails
    exact bare
  · rename_i operator value halves
    have named : '\n' ∉ operator := by
      rw [(append_of_splitFirst? halves).1] at bare
      exact fun member => bare (List.mem_append_left _ member)
    split at fails
    · cases fails
      exact named
    · split at fails
      · cases fails
        exact named
      · cases fails

theorem onOneLine_of_step {place : Place} {token : Token} (plain : token.OnOneLine)
    (fails : step place token = .error fault) : fault.OnOneLine := by
  cases token with
  | openGroup =>
    rw [step] at fails
    split at fails <;> cases fails
    decide
  | closeGroup =>
    rw [step] at fails
    split at fails <;> cases fails
    decide
  | joined word =>
    rw [step] at fails
    split at fails <;> cases fails
    exact plain
  | negated =>
    rw [step] at fails
    split at fails <;> cases fails
    decide
  | term word =>
    rw [step] at fails
    split at fails
    · cases checked : checkTerm word with
      | ok value =>
        rw [checked] at fails
        cases fails
      | error own =>
        rw [checked] at fails
        cases fails
        exact onOneLine_of_checkTerm plain checked
    · cases fails
      exact plain

theorem onOneLine_of_foldlM {place : Place} {tokens : List Token}
    (plain : ∀ token ∈ tokens, token.OnOneLine) (fails : tokens.foldlM step place = .error fault) :
    fault.OnOneLine := by
  induction tokens generalizing place with
  | nil => cases fails
  | cons token rest ih =>
    obtain ⟨own, others⟩ := List.forall_mem_cons.mp plain
    rw [List.foldlM_cons] at fails
    cases stepped : step place token with
    | error first =>
      rw [stepped] at fails
      cases fails
      exact onOneLine_of_step own stepped
    | ok next =>
      rw [stepped] at fails
      exact ih others fails

theorem onOneLine_of_check {query : String} (fails : check query = .error fault) :
    fault.OnOneLine := by
  unfold check at fails
  cases read : (tokens query.toList).foldlM step ⟨0, true⟩ with
  | error first =>
    rw [read] at fails
    cases fails
    exact onOneLine_of_foldlM (fun token => onOneLine_of_mem_tokens) read
  | ok place =>
    rw [read, Except.bind, finish] at fails
    split at fails
    · cases fails
      decide
    · split at fails
      · cases fails
        decide
      · cases fails

end CommitAdmission.CopyCondition
