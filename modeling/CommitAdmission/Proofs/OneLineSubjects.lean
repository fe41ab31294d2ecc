import CommitAdmission.Commit
import CommitAdmission.Proofs.Lines

namespace CommitAdmission

open Text

namespace Text

/-- What stands before the first two line ends in a row, or all of a text that has none. The line end below
the paragraph is looked at with it, as a pair could start with the paragraph's last character. -/
inductive FirstParagraph : List Char → List Char → Prop
  | whole {text : List Char} : ¬ ['\n', '\n'] <:+: text → FirstParagraph text text
  | above {paragraph : List Char} (rest : List Char) :
      ¬ ['\n', '\n'] <:+: paragraph ++ ['\n'] →
      FirstParagraph (paragraph ++ '\n' :: '\n' :: rest) paragraph

section FirstParagraph

variable {text paragraph : List Char}

theorem beforeEmptyLine_cons (c : Char) (text : List Char) :
    beforeEmptyLine (c :: text) =
      if ['\n', '\n'] <+: c :: text then [] else c :: beforeEmptyLine text := by
  cases text with
  | nil => simp [beforeEmptyLine]
  | cons d rest => simp [beforeEmptyLine, eq_comm]

theorem beforeEmptyLine_of_absent (absent : ¬ ['\n', '\n'] <:+: text) :
    beforeEmptyLine text = text := by
  induction text with
  | nil => rfl
  | cons c rest ih =>
    rw [List.infix_cons_iff, not_or] at absent
    rw [beforeEmptyLine_cons, if_neg absent.1, ih absent.2]

theorem prefix_append_twoLineEnds (paragraph rest : List Char) :
    paragraph ++ ['\n'] <+: paragraph ++ '\n' :: '\n' :: rest :=
  (List.prefix_append_right_inj paragraph).mpr (List.prefix_append ['\n'] _)

theorem beforeEmptyLine_append (absent : ¬ ['\n', '\n'] <:+: paragraph ++ ['\n'])
    (rest : List Char) : beforeEmptyLine (paragraph ++ '\n' :: '\n' :: rest) = paragraph := by
  induction paragraph with
  | nil => rfl
  | cons c others ih =>
    rw [List.cons_append, List.infix_cons_iff, not_or] at absent
    -- two line ends at the start would lie within the first two characters
    have notHere : ¬ ['\n', '\n'] <+: c :: (others ++ '\n' :: '\n' :: rest) := by
      intro here
      have start := prefix_append_twoLineEnds (c :: others) rest
      exact absent.1 (List.prefix_of_prefix_length_le here start (by simp))
    rw [List.cons_append, beforeEmptyLine_cons, if_neg notHere, ih absent.2]

theorem FirstParagraph.cons {c : Char} (apart : ¬ ['\n', '\n'] <+: c :: text)
    (first : FirstParagraph text paragraph) : FirstParagraph (c :: text) (c :: paragraph) := by
  cases first with
  | whole absent =>
    apply whole
    rw [List.infix_cons_iff, not_or]
    exact ⟨apart, absent⟩
  | above rest absent =>
    rw [← List.cons_append]
    apply above rest
    rw [List.cons_append, List.infix_cons_iff, not_or]
    exact ⟨fun here => apart (here.trans (prefix_append_twoLineEnds (c :: paragraph) rest)), absent⟩

theorem firstParagraph_beforeEmptyLine (text : List Char) :
    FirstParagraph text (beforeEmptyLine text) := by
  induction text with
  | nil => exact .whole (by decide)
  | cons c text ih =>
    rw [beforeEmptyLine_cons]
    split
    · rename_i here
      obtain ⟨rest, same⟩ := here
      rw [← same]
      exact @FirstParagraph.above [] rest (by decide)
    · rename_i apart
      exact ih.cons apart

theorem firstParagraph_iff : FirstParagraph text paragraph ↔ beforeEmptyLine text = paragraph := by
  constructor
  · intro first
    cases first with
    | whole absent => exact beforeEmptyLine_of_absent absent
    | above rest absent => exact beforeEmptyLine_append absent rest
  · rintro rfl
    exact firstParagraph_beforeEmptyLine text

end FirstParagraph

section Words

variable {c : Char}

theorem words_append_blank (blank : isBlank c = true) (text rest : List Char) :
    words (text ++ c :: rest) = words text ++ words rest := by
  rw [words, splitWhere_append_separator blank, List.filter_append]
  rfl

theorem words_trimStart (text : List Char) : words (trimStart text) = words text := by
  induction text with
  | nil => rfl
  | cons c rest ih =>
    rw [trimStart, List.dropWhile_cons]
    split
    · rename_i blank
      rw [words_cons_of_blank blank, ← ih, trimStart]
    · rfl

theorem words_trimEnd (text : List Char) : words (trimEnd text) = words text := by
  induction text using List.reverseRecOn with
  | nil => rfl
  | append_singleton text c ih =>
    by_cases blank : isBlank c = true
    · have ended : trimEnd (text ++ [c]) = trimEnd text :=
        List.rdropWhile_concat_pos isBlank text c blank
      have alone : words [] = [] := rfl
      rw [ended, ih, words_append_blank blank, alone, List.append_nil]
    · rw [trimEnd_concat_dark (Bool.eq_false_iff.mpr blank)]

theorem words_trim (text : List Char) : words (trim text) = words text := by
  rw [trim, words_trimEnd, words_trimStart]

theorem words_joinWith (blank : isBlank c = true) (pieces : List (List Char)) :
    words (joinWith [c] pieces) = pieces.flatMap words := by
  fun_induction joinWith [c] pieces with
  | case1 => rfl
  | case2 piece => simp
  | case3 piece next pieces ih =>
    rw [List.append_assoc, List.singleton_append, words_append_blank blank, ih]
    rfl

end Words

theorem joinWith_concat_append (separator : List Char) (pieces : List (List Char))
    (last more : List Char) :
    joinWith separator (pieces ++ [last ++ more]) = joinWith separator (pieces ++ [last]) ++ more := by
  induction pieces with
  | nil => rfl
  | cons piece others ih =>
    cases others with
    | nil => simp [joinWith]
    | cons next others =>
      rw [List.cons_append, List.cons_append] at ih
      simp only [List.cons_append, joinWith, ih, List.append_assoc]

section OneLine

def oneLine (text : List Char) : List Char :=
  joinWith [' '] ((splitOn '\n' text).map trimEnd)

theorem oneLine_nil : oneLine [] = [] := rfl

theorem newline_notMem_oneLine (text : List Char) : '\n' ∉ oneLine text := by
  apply notMem_joinWith (by decide)
  rw [List.forall_mem_map]
  intro line member inside
  have own : '\n' ∈ line := (List.rdropWhile_prefix isBlank line).subset inside
  exact notMem_of_mem_splitOn member own

theorem words_oneLine (text : List Char) : words (oneLine text) = words text :=
  calc
    words (oneLine text) = ((splitOn '\n' text).map trimEnd).flatMap words :=
      words_joinWith (by decide) _
    _ = (splitOn '\n' text).flatMap words := by
      rw [List.flatMap_map]
      exact congrArg (List.flatMap · _) (funext words_trimEnd)
    _ = words (joinWith ['\n'] (splitOn '\n' text)) := (words_joinWith (by decide) _).symm
    _ = words text := by rw [joinWith_splitOn]

variable {c : Char} (dark : isBlank c = false)

include dark

theorem trimEnd_cons_dark (rest : List Char) : trimEnd (c :: rest) = c :: trimEnd rest := by
  calc
    trimEnd (c :: rest) = (trimStart (rest.reverse ++ [c])).reverse := by
      rw [trimEnd, List.reverse_cons, trimStart]
    _ = (trimStart rest.reverse ++ [c]).reverse := by rw [trimStart_append_dark dark]
    _ = c :: trimEnd rest := List.reverse_append

theorem ne_newline_of_dark : c ≠ '\n' := by
  rintro rfl
  exact absurd dark (by decide)

theorem oneLine_cons_dark (rest : List Char) : oneLine (c :: rest) = c :: oneLine rest := by
  obtain ⟨line, lines, parts⟩ := List.exists_cons_of_ne_nil (splitOn_ne_nil '\n' rest)
  have unseparated : ∀ d ∈ [c], (d == '\n') = false :=
    List.forall_mem_singleton.mpr (beq_eq_false_iff_ne.mpr (ne_newline_of_dark dark))
  have grown : splitOn '\n' (c :: rest) = (c :: line) :: lines :=
    splitWhere_append unseparated parts
  rw [oneLine, oneLine, grown, parts, List.map_cons, List.map_cons, trimEnd_cons_dark dark]
  cases lines <;> rfl

theorem oneLine_concat_dark (text : List Char) : ∃ start, oneLine (text ++ [c]) = start ++ [c] := by
  obtain ⟨lines, last, _, grown⟩ := splitOn_concat (ne_newline_of_dark dark) text
  rw [oneLine, grown, List.map_append, List.map_singleton, trimEnd_concat_dark dark,
    joinWith_concat_append]
  exact ⟨_, rfl⟩

end OneLine

theorem oneLine_trimmed {text : List Char} (trimmed : trim text = text) :
    (∀ c ∈ (oneLine text).head?, isBlank c = false) ∧
      ∀ c ∈ (oneLine text).getLast?, isBlank c = false := by
  rw [trim_eq_self_iff] at trimmed
  obtain ⟨first, last⟩ := trimmed
  constructor
  · cases text with
    | nil => simp [oneLine_nil]
    | cons c rest =>
      have dark : isBlank c = false := first c rfl
      rw [oneLine_cons_dark dark]
      simpa using dark
  · rcases List.eq_nil_or_concat' text with rfl | ⟨start, c, rfl⟩
    · simp [oneLine_nil]
    · have dark : isBlank c = false := last c (by simp)
      obtain ⟨front, whole⟩ := oneLine_concat_dark dark start
      rw [whole]
      simpa using dark

theorem oneLine_of_notMem {text : List Char} (plain : '\n' ∉ text) : oneLine text = trimEnd text := by
  rw [oneLine, splitOn_of_notMem plain]
  rfl

end Text

namespace Commit

theorem subjectOf_eq_oneLine (message : List Char) :
    subjectOf message = oneLine (trim (beforeEmptyLine message)) := rfl

theorem subjectOf_eq_self_iff (text : List Char) :
    subjectOf text = text ↔ '\n' ∉ text ∧ trim text = text := by
  constructor
  · intro same
    rw [← same, subjectOf_eq_oneLine]
    exact ⟨newline_notMem_oneLine _, (trim_eq_self_iff _).mpr (oneLine_trimmed (trim_trim _))⟩
  · rintro ⟨plain, trimmed⟩
    have single : ¬ ['\n', '\n'] <:+: text := fun inside =>
      plain (inside.subset List.mem_cons_self)
    have ended : trimEnd text = text := by
      rw [← trimmed]
      exact trimEnd_trim text
    rw [subjectOf_eq_oneLine, beforeEmptyLine_of_absent single, trimmed, oneLine_of_notMem plain, ended]

end Commit

/-- The subject is on one line and has no blanks around it, its words are those of the text before the first
empty line, and it is its own subject. -/
theorem subject_is_first_paragraph_on_one_line (commit : Commit) :
    let message := commit.message.toList
    let subject := commit.subject.toList
    '\n' ∉ subject ∧
    (∀ c ∈ subject.head?, isBlank c = false) ∧ (∀ c ∈ subject.getLast?, isBlank c = false) ∧
    (∃ paragraph, FirstParagraph message paragraph) ∧
    (∀ paragraph, FirstParagraph message paragraph → words subject = words paragraph) ∧
    ∀ other : Commit, other.message = commit.subject → other.subject = commit.subject := by
  intro message subject
  have parts : subject = oneLine (trim (beforeEmptyLine message)) := String.toList_ofList
  have plain : '\n' ∉ subject := parts ▸ newline_notMem_oneLine _
  have ends := oneLine_trimmed (trim_trim (beforeEmptyLine message))
  rw [← parts] at ends
  refine ⟨plain, ends.1, ends.2, ⟨_, firstParagraph_beforeEmptyLine message⟩, ?_, ?_⟩
  · intro paragraph first
    rw [parts, words_oneLine, words_trim, firstParagraph_iff.mp first]
  · intro other same
    have kept : Commit.subjectOf subject = subject :=
      (Commit.subjectOf_eq_self_iff subject).mpr ⟨plain, (trim_eq_self_iff subject).mpr ends⟩
    rw [Commit.subject, same]
    exact (congrArg String.ofList kept).trans String.ofList_toList

/-- Carriage returns and lines of blanks do not end the first paragraph. They leave spaces between its
words. -/
theorem subject_of_mixed_line_ends :
    let person : Person := ⟨"U", "u@x"⟩
    let paragraph := " \tFix\u00a0the \r\n\r\nbug \n \n for good"
    let commit : Commit := ⟨.zero, [], person, person, paragraph ++ "\n\n\nNot\n\nhere"⟩
    let subject := "Fix\u00a0the  bug   for good"
    let other : Commit := ⟨.zero, [.zero], person, person, subject⟩
    commit.subject = subject ∧ 'F' ∈ subject.toList.head? ∧ isBlank 'F' = false ∧
    'd' ∈ subject.toList.getLast? ∧ isBlank 'd' = false ∧
    FirstParagraph commit.message.toList paragraph.toList ∧
    words subject.toList = words paragraph.toList ∧
    other.message = commit.subject ∧ other.subject = commit.subject := by
  intro person paragraph commit subject other
  have read : commit.subject = subject := by decide
  have first : FirstParagraph commit.message.toList paragraph.toList :=
    firstParagraph_iff.mpr (by decide)
  obtain ⟨_, starts, ends, _, sameWords, again⟩ := subject_is_first_paragraph_on_one_line commit
  rw [read] at starts ends sameWords
  exact ⟨read, by decide, starts 'F' (by decide), by decide, ends 'd' (by decide), first,
    sameWords _ first, read.symm, again other read.symm⟩

end CommitAdmission
