import CommitAdmission.Footer
import CommitAdmission.Proofs.Lines

/-! Which lines of a message are read for footers: of the lines after the first, without the empty lines at
the end, those after the last blank line. A line of blanks at the end hides all of them. -/

namespace CommitAdmission

open Text

namespace Footer

def lastBlock (later : List (List Char)) : List (List Char) :=
  (later.rdropWhile List.isEmpty).rtakeWhile (!allBlank ·)

variable {later final block : List (List Char)} {line : List Char}

theorem ofMessage_eq_lastBlock (message : String) :
    ofMessage message = (lastBlock (splitOn '\n' message.toList).tail).filterMap ofLine? := by
  rw [ofMessage, block, List.drop_one, tail_splitOn_dropFinalNewlines]
  rfl

theorem lastBlock_subset (later : List (List Char)) : lastBlock later ⊆ later := by
  intro line member
  have kept : line ∈ later.rdropWhile List.isEmpty := (List.rtakeWhile_suffix _ _).subset member
  exact (List.rdropWhile_prefix _ _).subset kept

theorem lastBlock_append_empty (empty : ∀ line ∈ final, line = []) (later : List (List Char)) :
    lastBlock (later ++ final) = lastBlock later := by
  have dropped : ∀ line ∈ final, line.isEmpty = true := fun line member =>
    List.isEmpty_iff.mpr (empty line member)
  rw [lastBlock, rdropWhile_append_of_all dropped, lastBlock]

theorem lastBlock_concat_blank (blank : allBlank line = true) (present : line ≠ [])
    (later : List (List Char)) : lastBlock (later ++ [line]) = [] := by
  rw [lastBlock, List.rdropWhile_concat_neg, List.rtakeWhile_concat_neg]
  · rw [blank]
    exact Bool.false_ne_true
  · rw [List.isEmpty_iff]
    exact present

theorem ne_nil_of_dark (dark : allBlank line = false) : line ≠ [] := by
  rintro rfl
  cases dark

theorem lastBlock_append_dark (dark : ∀ line ∈ block, allBlank line = false) (present : block ≠ [])
    (later : List (List Char)) :
    lastBlock (later ++ block) = later.rtakeWhile (!allBlank ·) ++ block := by
  have kept : (later ++ block).rdropWhile List.isEmpty = later ++ block := by
    rw [List.rdropWhile_eq_self_iff]
    intro whole empty
    have last : (later ++ block).getLast whole = block.getLast present :=
      List.getLast_append_of_ne_nil whole present
    rw [last, List.isEmpty_iff] at empty
    exact ne_nil_of_dark (dark _ (List.getLast_mem present)) empty
  rw [lastBlock, kept, rtakeWhile_append_of_all]
  intro line member
  rw [dark line member]
  rfl

/-- What is before a blank line has no part in the last block, but for the empty lines at the end. -/
theorem lastBlock_append_of_gap (gap : ∃ line ∈ final.rdropWhile List.isEmpty, allBlank line = true)
    (later : List (List Char)) : lastBlock (later ++ final) = lastBlock final := by
  obtain ⟨line, member, blank⟩ := gap
  have kept : (later ++ final).rdropWhile List.isEmpty = later ++ final.rdropWhile List.isEmpty := by
    have present : final.rdropWhile List.isEmpty ≠ [] := List.ne_nil_of_mem member
    rw [ne_eq, List.rdropWhile_eq_nil_iff, not_forall] at present
    obtain ⟨other, present⟩ := present
    rw [Classical.not_imp, Bool.not_eq_true] at present
    exact rdropWhile_append_of_stop present.1 present.2 later
  have stops : (!allBlank line) = false := by rw [blank]; rfl
  rw [lastBlock, kept, rtakeWhile_append_of_stop member stops, lastBlock]

theorem lastBlock_of_blank_end (blank : ∀ line ∈ final, allBlank line = true)
    (present : ∃ line ∈ final, line ≠ []) (later : List (List Char)) :
    lastBlock (later ++ final) = [] := by
  induction final using List.reverseRecOn with
  | nil => simp at present
  | append_singleton final line ih =>
    rw [List.forall_mem_append, List.forall_mem_singleton] at blank
    rw [← List.append_assoc]
    by_cases empty : line = []
    · rw [empty, lastBlock_append_empty (by simp)]
      apply ih blank.1
      obtain ⟨other, member, dark⟩ := present
      rcases List.mem_append.mp member with earlier | own
      · exact ⟨other, earlier, dark⟩
      · exact absurd ((List.mem_singleton.mp own).trans empty) dark
    · exact lastBlock_concat_blank blank.2 empty (later ++ final)

theorem ofMessage_append_newlines (message : String) (count : Nat) :
    ofMessage (message ++ String.ofList (List.replicate count '\n')) = ofMessage message := by
  have newlines : ∀ c ∈ List.replicate count '\n', (c == '\n') = true := fun c member =>
    beq_iff_eq.mpr (List.eq_of_mem_replicate member)
  have dropped : dropFinalNewlines (message.toList ++ List.replicate count '\n') =
      dropFinalNewlines message.toList :=
    rdropWhile_append_of_all newlines message.toList
  rw [ofMessage, String.toList_append, String.toList_ofList, dropped, ofMessage]

theorem ofMessage_append_lines (message : String) (plain : ∀ line ∈ final, '\n' ∉ line)
    (present : final ≠ []) :
    ofMessage (message ++ "\n" ++ String.ofList (joinWith ['\n'] final)) =
      (lastBlock ((splitOn '\n' message.toList).tail ++ final)).filterMap ofLine? := by
  have text : (message ++ "\n" ++ String.ofList (joinWith ['\n'] final)).toList =
      message.toList ++ '\n' :: joinWith ['\n'] final := by
    simp
  rw [ofMessage_eq_lastBlock, text, tail_splitOn_append, splitOn_joinWith present plain]

section Block

variable (plain : ∀ line ∈ block, '\n' ∉ line) (dark : ∀ line ∈ block, allBlank line = false)
  (present : block ≠ []) (newlines : Nat)

include plain dark present

theorem ofMessage_append_block (text : String) :
    ofMessage (text ++ "\n" ++ String.ofList (joinWith ['\n'] block) ++
        String.ofList (List.replicate newlines '\n')) =
      ((splitOn '\n' text.toList).tail.rtakeWhile (!allBlank ·)).filterMap ofLine? ++
        block.filterMap ofLine? := by
  rw [ofMessage_append_newlines, ofMessage_append_lines text plain present,
    lastBlock_append_dark dark present, List.filterMap_append]

theorem ofMessage_append_paragraph (body : String) :
    ofMessage (body ++ "\n\n" ++ String.ofList (joinWith ['\n'] block) ++
      String.ofList (List.replicate newlines '\n')) = block.filterMap ofLine? := by
  -- the empty line above the block ends the body
  have bodyLines : (splitOn '\n' (body ++ "\n").toList).tail =
      (splitOn '\n' body.toList).tail ++ [[]] := by
    rw [String.toList_append]
    exact tail_splitOn_append '\n' body.toList []
  have emptyLine : "\n\n" = "\n" ++ "\n" := rfl
  rw [emptyLine, ← String.append_assoc, ofMessage_append_block plain dark present, bodyLines,
    List.rtakeWhile_concat_neg]
  · rfl
  · decide

theorem ofMessage_append_continuation (message : String) :
    ofMessage (String.ofList (dropFinalNewlines message.toList) ++ "\n" ++
        String.ofList (joinWith ['\n'] block) ++ String.ofList (List.replicate newlines '\n')) =
      ofMessage message ++ block.filterMap ofLine? := by
  rw [ofMessage_append_block plain dark present, String.toList_ofList,
    tail_splitOn_dropFinalNewlines, ofMessage_eq_lastBlock message]
  rfl

end Block

end Footer

/-- Blank lines below a message do not matter to its footers where all of them are empty, and else they
hide every footer. -/
theorem footers_above_blank_lines (message : String) {final : List (List Char)}
    (plain : ∀ line ∈ final, '\n' ∉ line) (blank : ∀ line ∈ final, allBlank line = true) :
    Footer.ofMessage (message ++ "\n" ++ String.ofList (joinWith ['\n'] final)) =
      if ∀ line ∈ final, line = [] then Footer.ofMessage message else [] := by
  cases final with
  | nil =>
    have newline : message ++ "\n" ++ String.ofList (joinWith ['\n'] []) =
        message ++ String.ofList (List.replicate 1 '\n') := by
      simp [joinWith]
    rw [newline, Footer.ofMessage_append_newlines, if_pos (by simp)]
  | cons line others =>
    rw [Footer.ofMessage_append_lines message plain (List.cons_ne_nil line others)]
    split
    · rename_i empty
      rw [Footer.lastBlock_append_empty empty, ← Footer.ofMessage_eq_lastBlock]
    · rename_i present
      simp only [not_forall, exists_prop] at present
      rw [Footer.lastBlock_of_blank_end blank present, List.filterMap_nil]

theorem footers_above_empty_line :
    (∀ line ∈ [[], []], '\n' ∉ line) ∧ (∀ line ∈ [[], []], allBlank line = true) ∧
    Footer.ofMessage ("Fix\n\nBug: 7" ++ "\n" ++ String.ofList (joinWith ['\n'] [[], []])) =
      [⟨"Bug", "7"⟩] := by
  have plain : ∀ line ∈ [[], []], '\n' ∉ line := by decide
  have blank : ∀ line ∈ [[], []], allBlank line = true := by decide
  refine ⟨plain, blank, ?_⟩
  rw [footers_above_blank_lines "Fix\n\nBug: 7" plain blank, if_pos (by decide)]
  decide

/-- A line that holds one space hides the footers above it. -/
theorem line_of_space_hides_footers :
    (∀ line ∈ [[' ']], '\n' ∉ line) ∧ (∀ line ∈ [[' ']], allBlank line = true) ∧
    Footer.ofMessage "Fix\n\nBug: 7" = [⟨"Bug", "7"⟩] ∧
    Footer.ofMessage ("Fix\n\nBug: 7" ++ "\n" ++ String.ofList (joinWith ['\n'] [[' ']])) = [] := by
  decide

end CommitAdmission
