import CommitAdmission.CopyCondition

namespace CommitAdmission.CopyCondition

open Text

def isPlain (c : Char) : Bool := !isBlank c && !isParenthesis c

/-- The words of a text. A run ends where the text does, or before a character that is not plain. -/
inductive Lexes : List Char → List (List Char) → Prop
  | nil : Lexes [] []
  | blank {c : Char} {text : List Char} {found : List (List Char)} :
      isBlank c = true → Lexes text found → Lexes (c :: text) found
  | parenthesis {c : Char} {text : List Char} {found : List (List Char)} :
      isParenthesis c = true → Lexes text found → Lexes (c :: text) ([c] :: found)
  | run {run text : List Char} {found : List (List Char)} :
      run ≠ [] → (∀ c ∈ run, isPlain c = true) → (∀ c ∈ text.head?, isPlain c = false) →
      Lexes text found → Lexes (run ++ text) (run :: found)

theorem isPlain_iff {c : Char} :
    isPlain c = true ↔ isBlank c = false ∧ isParenthesis c = false := by
  rw [isPlain, Bool.and_eq_true, Bool.not_eq_true', Bool.not_eq_true']

theorem isBlank_of_isParenthesis {c : Char} (parenthesis : isParenthesis c = true) :
    isBlank c = false := by
  unfold isParenthesis at parenthesis
  rcases Bool.or_eq_true_iff.mp parenthesis with opening | closing
  · rw [eq_of_beq opening]
    decide
  · rw [eq_of_beq closing]
    decide

theorem spaced_cons_of_parenthesis {c : Char} (parenthesis : isParenthesis c = true)
    (text : List Char) : spaced (c :: text) = ' ' :: c :: ' ' :: spaced text := by
  rw [spaced, List.flatMap_cons, if_pos parenthesis]
  rfl

theorem spaced_cons_of_other {c : Char} (other : isParenthesis c = false) (text : List Char) :
    spaced (c :: text) = c :: spaced text := by
  rw [spaced, List.flatMap_cons, if_neg (Bool.eq_false_iff.mp other)]
  rfl

theorem spaced_append_of_plain {run : List Char} (plain : ∀ c ∈ run, isPlain c = true)
    (text : List Char) : spaced (run ++ text) = run ++ spaced text := by
  induction run with
  | nil => rfl
  | cons c rest ih =>
    have own := (isPlain_iff.mp (plain c List.mem_cons_self)).2
    rw [List.cons_append, spaced_cons_of_other own,
      ih fun d member => plain d (List.mem_cons_of_mem c member)]
    rfl

theorem words_spaced {text : List Char} {found : List (List Char)} (lexes : Lexes text found) :
    words (spaced text) = found := by
  induction lexes with
  | nil => rfl
  | @blank c text found blank _ ih =>
    have other : isParenthesis c = false := by
      cases parenthesis : isParenthesis c with
      | false => rfl
      | true => rw [isBlank_of_isParenthesis parenthesis] at blank; cases blank
    rw [spaced_cons_of_other other, words_cons_of_blank blank, ih]
  | @parenthesis c text found parenthesis _ ih =>
    have dark : ∀ d ∈ [c], isBlank d = false := by
      intro d member
      rw [List.mem_singleton.mp member]
      exact isBlank_of_isParenthesis parenthesis
    have space : isBlank ' ' = true := by decide
    have split := words_run_append (List.cons_ne_nil c []) dark space (spaced text)
    rw [spaced_cons_of_parenthesis parenthesis, words_cons_of_blank space]
    rw [List.singleton_append] at split
    rw [split, ih]
  | @run run text found nonempty plain ends _ ih =>
    have dark : ∀ c ∈ run, isBlank c = false := by
      intro c member
      exact (isPlain_iff.mp (plain c member)).1
    rw [spaced_append_of_plain plain]
    cases text with
    | nil =>
      rw [← ih, spaced, List.flatMap_nil, List.append_nil, words_of_run nonempty dark]
      rfl
    | cons c rest =>
      have space : isBlank ' ' = true := by decide
      cases parenthesis : isParenthesis c with
      | true =>
        rw [← ih, spaced_cons_of_parenthesis parenthesis, words_run_append nonempty dark space,
          words_cons_of_blank space]
      | false =>
        have blank : isBlank c = true := by
          have bare := ends c rfl
          rw [isPlain, parenthesis, Bool.not_false, Bool.and_true] at bare
          exact (Bool.not_eq_false' _).mp bare
        rw [← ih, spaced_cons_of_other parenthesis, words_run_append nonempty dark blank,
          words_cons_of_blank blank]

/-- Every text has words: what is not read as a parenthesis or passed over starts a run. -/
theorem exists_lexes (text : List Char) : ∃ found, Lexes text found := by
  match text with
  | [] => exact ⟨[], .nil⟩
  | c :: rest =>
    by_cases blank : isBlank c = true
    · obtain ⟨found, lexes⟩ := exists_lexes rest
      exact ⟨found, .blank blank lexes⟩
    · by_cases parenthesis : isParenthesis c = true
      · obtain ⟨found, lexes⟩ := exists_lexes rest
        exact ⟨[c] :: found, .parenthesis parenthesis lexes⟩
      · have plain : isPlain c = true :=
          isPlain_iff.mpr ⟨Bool.eq_false_iff.mpr blank, Bool.eq_false_iff.mpr parenthesis⟩
        have shorter : (rest.dropWhile isPlain).length ≤ rest.length :=
          length_dropWhile_le isPlain rest
        obtain ⟨found, lexes⟩ := exists_lexes (rest.dropWhile isPlain)
        refine ⟨(c :: rest.takeWhile isPlain) :: found, ?_⟩
        have whole : c :: rest = (c :: rest.takeWhile isPlain) ++ rest.dropWhile isPlain := by
          rw [List.cons_append, List.takeWhile_append_dropWhile]
        rw [whole]
        apply Lexes.run (List.cons_ne_nil _ _) _ _ lexes
        · intro d member
          rcases List.mem_cons.mp member with rfl | later
          · exact plain
          · exact List.all_eq_true.mp List.all_takeWhile d later
        · intro d first
          have ends := List.head?_dropWhile_not isPlain rest
          rw [Option.mem_def.mp first] at ends
          exact ends
termination_by text.length

theorem lexes_iff {text : List Char} {found : List (List Char)} :
    Lexes text found ↔ words (spaced text) = found := by
  constructor
  · exact words_spaced
  · intro same
    subst same
    obtain ⟨found, lexes⟩ := exists_lexes text
    rw [words_spaced lexes]
    exact lexes

theorem Lexes.count_openings {text : List Char} {found : List (List Char)}
    (lexes : Lexes text found) : found.count ['('] = text.count '(' := by
  induction lexes with
  | nil => rfl
  | @blank c text found blank _ ih =>
    have other : c ≠ '(' := by
      intro same
      subst same
      exact absurd blank (by decide)
    rw [ih, List.count_cons_of_ne other]
  | @parenthesis c text found _ _ ih =>
    by_cases opening : c = '('
    · rw [opening, List.count_cons_self, List.count_cons_self, ih]
    · have word : [c] ≠ ['('] := fun same => opening (List.singleton_inj.mp same)
      rw [List.count_cons_of_ne opening, List.count_cons_of_ne word, ih]
  | @run run text found _ plain _ _ ih =>
    have absent : '(' ∉ run := by
      intro member
      exact absurd (plain _ member) (by decide)
    have word : run ≠ ['('] := by
      intro same
      subst same
      exact absent List.mem_cons_self
    rw [List.count_cons_of_ne word, List.count_append, List.count_eq_zero_of_not_mem absent,
      Nat.zero_add, ih]

end CommitAdmission.CopyCondition
