import CommitAdmission.Text.Blank

namespace CommitAdmission.Text

/-- The pieces between the characters that satisfy `separates`; there is always at least one. -/
def splitWhere (separates : Char → Bool) : List Char → List (List Char)
  | [] => [[]]
  | c :: rest =>
    if separates c then [] :: splitWhere separates rest
    else match splitWhere separates rest with
      | [] => [[c]]
      | piece :: pieces => (c :: piece) :: pieces

def splitOn (separator : Char) : List Char → List (List Char) :=
  splitWhere (· == separator)

def words (text : List Char) : List (List Char) :=
  (splitWhere isBlank text).filter (!·.isEmpty)

theorem splitWhere_append {separates : Char → Bool} {run text piece : List Char}
    {pieces : List (List Char)} (unseparated : ∀ c ∈ run, separates c = false)
    (parts : splitWhere separates text = piece :: pieces) :
    splitWhere separates (run ++ text) = (run ++ piece) :: pieces := by
  induction run with
  | nil => exact parts
  | cons c rest ih =>
    have inner := ih fun d member => unseparated d (List.mem_cons_of_mem c member)
    have own : separates c = false := unseparated c List.mem_cons_self
    rw [List.cons_append, splitWhere, own, inner]
    rfl

theorem splitWhere_ne_nil (separates : Char → Bool) (text : List Char) :
    splitWhere separates text ≠ [] := by
  cases text with
  | nil => simp [splitWhere]
  | cons c rest =>
    unfold splitWhere
    split
    · simp
    · split <;> simp

theorem splitWhere_append_separator {separates : Char → Bool} {c : Char}
    (separator : separates c = true) (text rest : List Char) :
    splitWhere separates (text ++ c :: rest) =
      splitWhere separates text ++ splitWhere separates rest := by
  induction text with
  | nil => simp [splitWhere, separator]
  | cons d text ih =>
    rw [List.cons_append, splitWhere, splitWhere, ih]
    cases parts : splitWhere separates text with
    | nil => exact absurd parts (splitWhere_ne_nil separates text)
    | cons piece pieces => split <;> rfl

theorem splitOn_append_separator (separator : Char) (text rest : List Char) :
    splitOn separator (text ++ separator :: rest) =
      splitOn separator text ++ splitOn separator rest := by
  apply splitWhere_append_separator
  exact beq_self_eq_true separator

theorem splitOn_of_notMem {separator : Char} {text : List Char} (absent : separator ∉ text) :
    splitOn separator text = [text] := by
  have unseparated : ∀ c ∈ text, (c == separator) = false := by
    intro c member
    rw [beq_eq_false_iff_ne]
    rintro rfl
    exact absent member
  have parts : splitOn separator (text ++ []) = [text ++ []] :=
    splitWhere_append unseparated rfl
  rw [List.append_nil] at parts
  exact parts

theorem words_cons_of_blank {c : Char} (blank : isBlank c = true) (text : List Char) :
    words (c :: text) = words text := by
  rw [words, splitWhere, blank]
  rfl

theorem words_of_run {run : List Char} (nonempty : run ≠ [])
    (dark : ∀ c ∈ run, isBlank c = false) : words run = [run] := by
  have parts : splitWhere isBlank (run ++ []) = [run ++ []] := splitWhere_append dark rfl
  rw [List.append_nil] at parts
  rw [words, parts]
  simp [nonempty]

theorem words_run_append {run : List Char} (nonempty : run ≠ [])
    (dark : ∀ c ∈ run, isBlank c = false) {c : Char} (blank : isBlank c = true)
    (text : List Char) : words (run ++ c :: text) = run :: words text := by
  have parts : splitWhere isBlank (run ++ c :: text) = (run ++ []) :: splitWhere isBlank text := by
    apply splitWhere_append dark
    rw [splitWhere, blank]
    rfl
  rw [words, parts, List.append_nil]
  simp [nonempty, words]

def joinWith (separator : List Char) : List (List Char) → List Char
  | [] => []
  | [piece] => piece
  | piece :: next :: pieces => piece ++ separator ++ joinWith separator (next :: pieces)

theorem joinWith_splitOn (separator : Char) (text : List Char) :
    joinWith [separator] (splitOn separator text) = text := by
  induction text with
  | nil => rfl
  | cons c rest ih =>
    rw [splitOn] at ih ⊢
    cases parts : splitWhere (· == separator) rest with
    | nil => exact absurd parts (splitWhere_ne_nil _ rest)
    | cons piece pieces =>
      rw [parts] at ih
      rw [splitWhere, parts]
      split
      · rename_i same
        rw [eq_of_beq same, joinWith, ih]
        rfl
      · cases pieces with
        | nil => exact congrArg (c :: ·) ih
        | cons next others => exact congrArg (c :: ·) ih

theorem splitOn_joinWith {separator : Char} {pieces : List (List Char)} (present : pieces ≠ [])
    (plain : ∀ piece ∈ pieces, separator ∉ piece) :
    splitOn separator (joinWith [separator] pieces) = pieces := by
  induction pieces with
  | nil => exact absurd rfl present
  | cons piece rest ih =>
    obtain ⟨own, others⟩ := List.forall_mem_cons.mp plain
    cases rest with
    | nil => exact splitOn_of_notMem own
    | cons next rest =>
      have later := ih (List.cons_ne_nil _ _) others
      rw [joinWith, List.append_assoc, List.singleton_append, splitOn_append_separator,
        splitOn_of_notMem own, later, List.singleton_append]

def splitFirst? (separator : Char) : List Char → Option (List Char × List Char)
  | [] => none
  | c :: rest =>
    if c = separator then some ([], rest)
    else (splitFirst? separator rest).map fun halves => (c :: halves.1, halves.2)

theorem splitFirst?_append {separator : Char} {before : List Char} (absent : separator ∉ before)
    (after : List Char) : splitFirst? separator (before ++ separator :: after) = some (before, after) := by
  induction before with
  | nil => rw [List.nil_append, splitFirst?, if_pos rfl]
  | cons c rest ih =>
    have other : c ≠ separator := fun same => absent (same ▸ List.mem_cons_self)
    have later := ih fun member => absent (List.mem_cons_of_mem c member)
    rw [List.cons_append, splitFirst?, if_neg other, later]
    rfl

theorem append_of_splitFirst? {separator : Char} {text before after : List Char}
    (found : splitFirst? separator text = some (before, after)) :
    text = before ++ separator :: after ∧ separator ∉ before := by
  induction text generalizing before with
  | nil => cases found
  | cons c rest ih =>
    rw [splitFirst?] at found
    split at found
    · rename_i same
      cases found
      rw [same, List.nil_append]
      exact ⟨rfl, List.not_mem_nil⟩
    · rename_i other
      obtain ⟨halves, inner, whole⟩ := Option.map_eq_some_iff.mp found
      cases whole
      obtain ⟨parts, absent⟩ := ih inner
      exact ⟨congrArg (c :: ·) parts, List.not_mem_cons_of_ne_of_not_mem (Ne.symm other) absent⟩

theorem splitFirst?_eq_none_iff {separator : Char} {text : List Char} :
    splitFirst? separator text = none ↔ separator ∉ text := by
  induction text with
  | nil => simp [splitFirst?]
  | cons c rest ih =>
    rw [splitFirst?, List.mem_cons, not_or]
    by_cases same : c = separator
    · simp [same]
    · rw [if_neg same, Option.map_eq_none_iff, ih]
      exact ⟨fun absent => ⟨Ne.symm same, absent⟩, And.right⟩

def splitLast? (separator : Char) : List Char → Option (List Char × List Char)
  | [] => none
  | c :: rest =>
    match splitLast? separator rest with
    | some (before, after) => some (c :: before, after)
    | none => if c = separator then some ([], rest) else none

theorem splitLast?_eq_none_iff {separator : Char} {text : List Char} :
    splitLast? separator text = none ↔ separator ∉ text := by
  induction text with
  | nil => simp [splitLast?]
  | cons c rest ih =>
    rw [splitLast?, List.mem_cons, not_or]
    cases later : splitLast? separator rest with
    | none =>
      have absent : separator ∉ rest := ih.mp later
      by_cases same : c = separator
      · simp [same]
      · simp [same, absent, Ne.symm same]
    | some halves =>
      have present : ¬ separator ∉ rest := fun absent => by
        rw [ih.mpr absent] at later
        cases later
      simp [present]

theorem splitLast?_append {separator : Char} {after : List Char} (absent : separator ∉ after)
    (before : List Char) : splitLast? separator (before ++ separator :: after) = some (before, after) := by
  induction before with
  | nil =>
    rw [List.nil_append, splitLast?, splitLast?_eq_none_iff.mpr absent]
    exact if_pos rfl
  | cons c rest ih => rw [List.cons_append, splitLast?, ih]

theorem append_of_splitLast? {separator : Char} {text before after : List Char}
    (found : splitLast? separator text = some (before, after)) :
    text = before ++ separator :: after ∧ separator ∉ after := by
  induction text generalizing before with
  | nil => cases found
  | cons c rest ih =>
    rw [splitLast?] at found
    cases later : splitLast? separator rest with
    | none =>
      rw [later] at found
      dsimp only at found
      split at found
      · rename_i same
        cases found
        exact ⟨congrArg (· :: after) same, splitLast?_eq_none_iff.mp later⟩
      · cases found
    | some halves =>
      obtain ⟨front, back⟩ := halves
      rw [later] at found
      cases found
      obtain ⟨whole, absent⟩ := ih later
      exact ⟨congrArg (c :: ·) whole, absent⟩

def after? : (start text : List Char) → Option (List Char)
  | [], text => some text
  | _ :: _, [] => none
  | a :: start, c :: text => if a = c then after? start text else none

theorem after?_eq_some_iff {start text rest : List Char} :
    after? start text = some rest ↔ text = start ++ rest := by
  induction start generalizing text with
  | nil => rw [after?, List.nil_append, Option.some_inj]
  | cons a start ih =>
    cases text with
    | nil => simp [after?]
    | cons c text =>
      rw [after?, List.cons_append, List.cons.injEq]
      by_cases same : a = c
      · rw [if_pos same, ih]
        exact ⟨fun others => ⟨same.symm, others⟩, And.right⟩
      · rw [if_neg same]
        constructor
        · intro found
          cases found
        · intro parts
          exact absurd parts.1.symm same

theorem length_of_after? {start text rest : List Char} (found : after? start text = some rest) :
    text.length = start.length + rest.length := by
  rw [after?_eq_some_iff.mp found, List.length_append]

theorem length_dropWhile_le (p : Char → Bool) (text : List Char) :
    (text.dropWhile p).length ≤ text.length := by
  induction text with
  | nil => simp
  | cons c rest ih => rw [List.dropWhile_cons]; grind

def startsWith (start text : List Char) : Bool := (after? start text).isSome

theorem startsWith_iff {start text : List Char} :
    startsWith start text = true ↔ start <+: text := by
  rw [startsWith, Option.isSome_iff_exists]
  constructor
  · intro given
    obtain ⟨rest, found⟩ := given
    exact ⟨rest, (after?_eq_some_iff.mp found).symm⟩
  · intro given
    obtain ⟨rest, whole⟩ := given
    exact ⟨rest, after?_eq_some_iff.mpr whole.symm⟩

def dropFinalNewlines (text : List Char) : List Char :=
  (text.reverse.dropWhile (· == '\n')).reverse

/-- The text before the first empty line, that is before two line ends in a row. -/
def beforeEmptyLine : List Char → List Char
  | [] => []
  | [c] => [c]
  | c :: d :: rest => if c = '\n' ∧ d = '\n' then [] else c :: beforeEmptyLine (d :: rest)

end CommitAdmission.Text
