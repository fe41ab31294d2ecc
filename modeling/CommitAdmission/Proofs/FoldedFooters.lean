import CommitAdmission.Proofs.SignOffs

/-! Footers that go on over several lines. The lines that continue a footer are part of no footer: the value
is what stands on the line of the key, and an address below it is not found. -/

namespace CommitAdmission

open Text

namespace Footer

/-- Whether a line continues the one above it: it starts with a blank, and not all of it is blank. -/
def IsContinuation (line : String) : Prop :=
  line.toList.head?.any isBlank = true ∧ allBlank line.toList = false

instance (line : String) : Decidable (IsContinuation line) :=
  inferInstanceAs (Decidable (_ ∧ _))

/-- A footer as a message may hold it: the key, what follows the colon on the same line, and the lines that
continue it. -/
structure Folded where
  key : String
  text : String
  continuations : List String

structure Folded.IsWellFormed (folded : Folded) : Prop where
  key_ne_empty : folded.key ≠ ""
  key_chars : ∀ c ∈ folded.key.toList,
    ('A' ≤ c ∧ c ≤ 'Z') ∨ ('a' ≤ c ∧ c ≤ 'z') ∨ ('0' ≤ c ∧ c ≤ '9') ∨ c = '-'
  continued : ∀ line ∈ folded.continuations, IsContinuation line

/-- No key starts with a blank, so a line that does is no footer. -/
theorem ofLine?_of_blank_start {c : Char} (blank : isBlank c = true) (rest : List Char) :
    ofLine? (c :: rest) = none := by
  cases found : ofLine? (c :: rest) with
  | none => rfl
  | some footer =>
    obtain ⟨value, whole, present, keyChars, _⟩ := exists_of_ofLine? found
    rw [ne_eq, ← String.toList_eq_nil_iff] at present
    obtain ⟨first, others, key⟩ := List.exists_cons_of_ne_nil present
    rw [key, List.cons_append, List.cons.injEq] at whole
    have dark : isBlank first = false :=
      isBlank_of_isKeyChar (keyChars first (key ▸ List.mem_cons_self))
    rw [← whole.1, blank] at dark
    cases dark

theorem IsContinuation.ofLine?_eq_none {line : String} (continuation : IsContinuation line) :
    ofLine? line.toList = none := by
  obtain ⟨starts, _⟩ := continuation
  cases parts : line.toList with
  | nil => rfl
  | cons c rest =>
    rw [parts] at starts
    exact ofLine?_of_blank_start starts rest

namespace Folded

def keyLine (folded : Folded) : String := folded.key ++ ":" ++ folded.text

def lines (folded : Folded) : List (List Char) :=
  folded.keyLine.toList :: folded.continuations.map String.toList

def unfolded (folded : Folded) : Footer := ⟨folded.key, String.ofList (trim folded.text.toList)⟩

variable {folded : Folded}

theorem IsWellFormed.of_all (present : folded.key ≠ "")
    (keyChars : folded.key.toList.all isKeyChar = true)
    (continued : ∀ line ∈ folded.continuations, IsContinuation line) : folded.IsWellFormed :=
  ⟨present, fun c member => (isKeyChar_iff c).mp (List.all_eq_true.mp keyChars c member), continued⟩

section Lines

variable (wellFormed : folded.IsWellFormed)

include wellFormed

theorem ofLine?_keyLine : ofLine? folded.keyLine.toList = some folded.unfolded := by
  have text : folded.keyLine.toList = folded.key.toList ++ ':' :: folded.text.toList := by
    simp [keyLine]
  have present : folded.key.toList ≠ [] := by
    rw [ne_eq, String.toList_eq_nil_iff]
    exact wellFormed.key_ne_empty
  have keyChars : ∀ c ∈ folded.key.toList, isKeyChar c = true := fun c member =>
    (isKeyChar_iff c).mpr (wellFormed.key_chars c member)
  rw [text, ofLine?_append present keyChars, String.ofList_toList, unfolded]

theorem filterMap_ofLine?_lines : folded.lines.filterMap ofLine? = [folded.unfolded] := by
  have unread : (folded.continuations.map String.toList).filterMap ofLine? = [] := by
    rw [List.filterMap_eq_nil_iff, List.forall_mem_map]
    exact fun line member => (wellFormed.continued line member).ofLine?_eq_none
  rw [lines, List.filterMap_cons_some (ofLine?_keyLine wellFormed), unread]

theorem dark_of_mem_lines : ∀ line ∈ folded.lines, allBlank line = false := by
  rw [lines, List.forall_mem_cons, List.forall_mem_map]
  exact ⟨dark_of_ofLine? (ofLine?_keyLine wellFormed), fun line member =>
    (wellFormed.continued line member).2⟩

end Lines

end Folded

section Block

variable {block : List Folded} (wellFormed : ∀ folded ∈ block, folded.IsWellFormed)
  (present : block ≠ []) {gap : List Char} (blank : allBlank gap = true)

include wellFormed

theorem filterMap_ofLine?_block :
    (block.flatMap Folded.lines).filterMap ofLine? = block.map Folded.unfolded := by
  rw [List.filterMap_flatMap, List.map_eq_flatMap]
  exact List.flatMap_congr fun folded member => Folded.filterMap_ofLine?_lines (wellFormed folded member)

theorem dark_of_mem_block : ∀ line ∈ block.flatMap Folded.lines, allBlank line = false := by
  intro line member
  obtain ⟨folded, inBlock, own⟩ := List.mem_flatMap.mp member
  exact Folded.dark_of_mem_lines (wellFormed folded inBlock) line own

include present blank

theorem lastBlock_append_block (above : List (List Char)) :
    lastBlock (above ++ gap :: block.flatMap Folded.lines) = block.flatMap Folded.lines := by
  have lines : above ++ gap :: block.flatMap Folded.lines =
      (above ++ [gap]) ++ block.flatMap Folded.lines := by
    rw [List.append_assoc, List.singleton_append]
  have someLine : block.flatMap Folded.lines ≠ [] := by
    obtain ⟨folded, others, rfl⟩ := List.exists_cons_of_ne_nil present
    exact List.cons_ne_nil _ _
  rw [lines, lastBlock_append_dark (dark_of_mem_block wellFormed) someLine,
    List.rtakeWhile_concat_neg, List.nil_append]
  rw [blank]
  exact Bool.false_ne_true

theorem ofMessage_block {message : String} {subject : List Char} {above final : List (List Char)}
    (whole : splitOn '\n' message.toList =
      subject :: (above ++ gap :: block.flatMap Folded.lines ++ final))
    (blankEnd : ∀ line ∈ final, allBlank line = true) :
    ofMessage message = if ∀ line ∈ final, line = [] then block.map Folded.unfolded else [] := by
  rw [ofMessage_eq_lastBlock, whole, List.tail_cons]
  split
  · rename_i empty
    rw [lastBlock_append_empty empty, lastBlock_append_block wellFormed present blank,
      filterMap_ofLine?_block wellFormed]
  · rename_i notEmpty
    simp only [not_forall, exists_prop] at notEmpty
    rw [lastBlock_of_blank_end blankEnd notEmpty, List.filterMap_nil]

end Block

end Footer

theorem isSignedOff_of_no_footers {commit : Commit} (none : commit.footers = []) (user : User) :
    isSignedOff commit user = false := by
  rw [← Bool.not_eq_true, isSignedOff_iff_exists, none]
  rintro ⟨footer, member, _⟩
  cases member

theorem isSignedOff_iff_of_block {commit : Commit} {block : List Footer.Folded}
    (read : commit.footers = block.map Footer.Folded.unfolded) (user : User) :
    isSignedOff commit user = true ↔
      ∃ folded ∈ block, Footer.sameKey folded.key "Signed-off-by" = true ∧
        ∃ address : String, Footer.GivesAddress (trim folded.text.toList) address.toList ∧
          IsEntitled commit user address := by
  have value (folded : Footer.Folded) :
      folded.unfolded.value.toList = trim folded.text.toList := String.toList_ofList
  rw [isSignedOff_iff_exists, read]
  simp only [List.mem_map, exists_exists_and_eq_and, Footer.email?_eq_some_iff, value]
  rfl

/-- Where the last paragraph below a blank line is a block of footers, one is read for each key, in order,
with the value on the line of the key; the lines that continue it have no part in any. A sign-off counts
for the address on the line of its key. Blank lines at the end that are not empty hide the block. -/
theorem continuations_are_left_out {message : String} {subject gap : List Char}
    {above final : List (List Char)} {block : List Footer.Folded}
    (wellFormed : ∀ folded ∈ block, folded.IsWellFormed) (present : block ≠ [])
    (whole : splitOn '\n' message.toList =
      subject :: (above ++ gap :: block.flatMap Footer.Folded.lines ++ final))
    (blank : allBlank gap = true) (blankEnd : ∀ line ∈ final, allBlank line = true) :
    Footer.ofMessage message =
      (if ∀ line ∈ final, line = [] then block.map Footer.Folded.unfolded else []) ∧
    ∀ (commit : Commit) (user : User), commit.message = message →
      (isSignedOff commit user = true ↔ (∀ line ∈ final, line = []) ∧
        ∃ folded ∈ block, Footer.sameKey folded.key "Signed-off-by" = true ∧
          ∃ address : String, Footer.GivesAddress (trim folded.text.toList) address.toList ∧
            IsEntitled commit user address) := by
  have read := Footer.ofMessage_block wellFormed present blank whole blankEnd
  refine ⟨read, ?_⟩
  rintro commit user rfl
  by_cases empty : ∀ line ∈ final, line = []
  · rw [if_pos empty] at read
    rw [isSignedOff_iff_of_block read, and_iff_right empty]
  · rw [if_neg empty] at read
    rw [isSignedOff_of_no_footers read, iff_false_left Bool.false_ne_true]
    exact fun counts => empty counts.1

/-- A continuation that looks like a footer, and one with another address, below a line of spaces. -/
theorem continuations_below_line_of_spaces :
    let person : Person := ⟨"Ada", "ada@x"⟩
    let user := User.ofAccount 1
    let bug : Footer.Folded := ⟨"Bug", "7", ["\tSee: 8", " and 9"]⟩
    let signed : Footer.Folded := ⟨"signed-off-by", " Ada <ada@x>", ["  <eve@x>"]⟩
    let message := "Fix\n  \nBug:7\n\tSee: 8\n and 9\nsigned-off-by: Ada <ada@x>\n  <eve@x>\n"
    let commit : Commit := ⟨.zero, [], person, person, message⟩
    (∀ folded ∈ [bug, signed], folded.IsWellFormed) ∧ [bug, signed] ≠ [] ∧
    splitOn '\n' message.toList =
      "Fix".toList :: ([] ++ "  ".toList :: [bug, signed].flatMap Footer.Folded.lines ++ [[]]) ∧
    allBlank "  ".toList = true ∧ (∀ line ∈ [[]], allBlank line = true) ∧
    Footer.ofMessage message = [⟨"Bug", "7"⟩, ⟨"signed-off-by", "Ada <ada@x>"⟩] ∧
    isSignedOff commit user = true := by
  intro person user bug signed message commit
  have wellFormed : ∀ folded ∈ [bug, signed], folded.IsWellFormed := by
    rw [List.forall_mem_cons, List.forall_mem_singleton]
    exact ⟨.of_all (by decide) (by decide) (by decide), .of_all (by decide) (by decide) (by decide)⟩
  have present : [bug, signed] ≠ [] := List.cons_ne_nil _ _
  have whole : splitOn '\n' message.toList =
      "Fix".toList :: ([] ++ "  ".toList :: [bug, signed].flatMap Footer.Folded.lines ++ [[]]) := by
    decide
  have blank : allBlank "  ".toList = true := by decide
  have blankEnd : ∀ line ∈ [[]], allBlank line = true := by decide
  obtain ⟨read, counts⟩ := continuations_are_left_out wellFormed present whole blank blankEnd
  refine ⟨wellFormed, present, whole, blank, blankEnd, read.trans (by decide), ?_⟩
  have gives : Footer.GivesAddress (trim signed.text.toList) "ada@x".toList :=
    Footer.emailIn?_eq_some_iff.mp (by decide)
  rw [counts commit user rfl]
  exact ⟨by decide, signed, by simp, by decide, "ada@x", gives, .inl rfl⟩

/-- An address on the line below the name is lost, and the sign-off with it. -/
theorem address_on_continuation_is_lost :
    let person : Person := ⟨"Ada", "ada@x"⟩
    let user := User.ofAccount 1
    let signed : Footer.Folded := ⟨"Signed-off-by", " Ada", ["  <ada@x>"]⟩
    let message := "Fix\n\nSigned-off-by: Ada\n  <ada@x>\n"
    let commit : Commit := ⟨.zero, [], person, person, message⟩
    let footer : Footer := ⟨"Signed-off-by", "Ada"⟩
    signed.IsWellFormed ∧
    splitOn '\n' message.toList =
      "Fix".toList :: ([] ++ [] :: [signed].flatMap Footer.Folded.lines ++ [[]]) ∧
    Footer.ofMessage message = [footer] ∧
    ¬ "<ada@x>".toList <:+: footer.value.toList ∧ footer.email? = none ∧
    isSignedOff commit user = false ∧
    isSignedOff { commit with message := "Fix\n\nSigned-off-by: Ada <ada@x>\n" } user = true := by
  intro person user signed message commit footer
  have unopened : '<' ∉ footer.value.toList := by decide
  have wellFormed : signed.IsWellFormed := .of_all (by decide) (by decide) (by decide)
  refine ⟨wellFormed, by decide, by decide, ?_, by decide, by decide, by decide⟩
  exact fun inside => unopened (inside.subset List.mem_cons_self)

end CommitAdmission
