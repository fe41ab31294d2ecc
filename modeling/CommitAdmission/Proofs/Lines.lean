import CommitAdmission.Text.Split
import Mathlib.Data.List.DropRight

namespace CommitAdmission.Text

section Trim

theorem trim_cons_of_blank {c : Char} (blank : isBlank c = true) (text : List Char) :
    trim (c :: text) = trim text := by
  rw [trim, trim, trimStart, trimStart, List.dropWhile_cons_of_pos blank]

theorem mem_of_mem_trim {c : Char} {text : List Char} (member : c ∈ trim text) : c ∈ text := by
  have started : c ∈ trimStart text := (List.rdropWhile_prefix isBlank _).subset member
  exact (List.dropWhile_suffix isBlank).subset started

theorem mem_dropWhile {p : Char → Bool} {c : Char} {text : List Char} (member : c ∈ text)
    (stops : p c = false) : c ∈ text.dropWhile p := by
  rw [← List.takeWhile_append_dropWhile (p := p) (l := text), List.mem_append] at member
  rcases member with taken | dropped
  · rw [List.mem_takeWhile_imp taken] at stops
    cases stops
  · exact dropped

theorem mem_trim_of_dark {c : Char} {text : List Char} (member : c ∈ text)
    (dark : isBlank c = false) : c ∈ trim text := by
  have started : c ∈ (trimStart text).reverse := List.mem_reverse.mpr (mem_dropWhile member dark)
  exact List.mem_reverse.mpr (mem_dropWhile started dark)

theorem trimStart_append_dark {c : Char} (dark : isBlank c = false) (start rest : List Char) :
    trimStart (start ++ c :: rest) = trimStart start ++ c :: rest := by
  have kept : trimStart (c :: rest) = c :: rest :=
    List.dropWhile_cons_of_neg (Bool.eq_false_iff.mp dark)
  rw [trimStart] at kept
  rw [trimStart, trimStart, List.dropWhile_append, kept]
  split
  · rename_i empty
    rw [List.isEmpty_iff.mp empty, List.nil_append]
  · rfl

theorem trimEnd_concat_dark {c : Char} (dark : isBlank c = false) (text : List Char) :
    trimEnd (text ++ [c]) = text ++ [c] :=
  List.rdropWhile_concat_neg isBlank text c (Bool.eq_false_iff.mp dark)

theorem trim_append_enclosed {opening closing : Char} (darkOpening : isBlank opening = false)
    (darkClosing : isBlank closing = false) (start inside : List Char) :
    trim (start ++ opening :: (inside ++ [closing])) =
      trimStart start ++ opening :: (inside ++ [closing]) := by
  have whole : trimStart start ++ opening :: (inside ++ [closing]) =
      (trimStart start ++ opening :: inside) ++ [closing] := by
    rw [List.append_assoc, List.cons_append]
  rw [trim, trimStart_append_dark darkOpening, whole, trimEnd_concat_dark darkClosing]

theorem trimStart_eq_self_iff (text : List Char) :
    trimStart text = text ↔ ∀ c rest, text = c :: rest → isBlank c = false := by
  cases text with
  | nil => simp [trimStart]
  | cons c rest =>
    rw [trimStart, List.dropWhile_eq_self_iff]
    simp

theorem trimStart_of_prefix {start text : List Char} (part : start <+: text)
    (trimmed : trimStart text = text) : trimStart start = start := by
  rw [trimStart_eq_self_iff] at trimmed ⊢
  rintro c rest rfl
  obtain ⟨after, rfl⟩ := part
  exact trimmed c (rest ++ after) rfl

theorem trim_of_dark {text : List Char} (dark : ∀ c ∈ text, isBlank c = false) : trim text = text := by
  have started : trimStart text = text := by
    rw [trimStart_eq_self_iff]
    rintro c rest rfl
    exact dark c List.mem_cons_self
  rw [trim, started]
  apply List.rdropWhile_eq_self_iff.mpr
  intro present
  rw [dark _ (List.getLast_mem present)]
  exact Bool.false_ne_true

theorem trimStart_trim (text : List Char) : trimStart (trim text) = trim text := by
  have started : trimStart (trimStart text) = trimStart text :=
    List.dropWhile_idempotent isBlank text
  exact trimStart_of_prefix (List.rdropWhile_prefix isBlank _) started

theorem trimEnd_trim (text : List Char) : trimEnd (trim text) = trim text :=
  List.rdropWhile_idempotent isBlank (trimStart text)

theorem trim_trim (text : List Char) : trim (trim text) = trim text :=
  calc
    trim (trim text) = trimEnd (trim text) := congrArg trimEnd (trimStart_trim text)
    _ = trim text := trimEnd_trim text

theorem trimEnd_eq_self_iff (text : List Char) :
    trimEnd text = text ↔ ∀ c ∈ text.getLast?, isBlank c = false := by
  rw [trimEnd, ← List.rdropWhile, List.rdropWhile_eq_self_iff]
  rcases List.eq_nil_or_concat' text with rfl | ⟨start, c, rfl⟩
  · simp
  · simp

theorem trim_eq_self_iff (text : List Char) :
    trim text = text ↔
      (∀ c ∈ text.head?, isBlank c = false) ∧ ∀ c ∈ text.getLast?, isBlank c = false := by
  have atStart : trimStart text = text ↔ ∀ c ∈ text.head?, isBlank c = false := by
    rw [trimStart_eq_self_iff]
    cases text <;> simp
  rw [← atStart, ← trimEnd_eq_self_iff]
  constructor
  · intro trimmed
    have started := trimStart_trim text
    have ended := trimEnd_trim text
    rw [trimmed] at started ended
    exact ⟨started, ended⟩
  · rintro ⟨started, ended⟩
    rw [trim, started, ended]

end Trim

section Split

theorem unseparated_of_mem_splitWhere {separates : Char → Bool} {text piece : List Char}
    (member : piece ∈ splitWhere separates text) : ∀ c ∈ piece, separates c = false := by
  induction text generalizing piece with
  | nil =>
    rw [List.mem_singleton.mp member]
    exact List.forall_mem_nil _
  | cons c rest ih =>
    rw [splitWhere] at member
    cases parts : splitWhere separates rest with
    | nil => exact absurd parts (splitWhere_ne_nil separates rest)
    | cons first others =>
      rw [parts] at ih member
      split at member
      · rcases List.mem_cons.mp member with rfl | later
        · exact List.forall_mem_nil _
        · exact ih later
      · rename_i unseparated
        rcases List.mem_cons.mp member with rfl | later
        · exact List.forall_mem_cons.mpr
            ⟨Bool.eq_false_iff.mpr unseparated, ih List.mem_cons_self⟩
        · exact ih (List.mem_cons_of_mem first later)

theorem notMem_of_mem_splitOn {separator : Char} {text piece : List Char}
    (member : piece ∈ splitOn separator text) : separator ∉ piece := by
  intro inside
  have unseparated := unseparated_of_mem_splitWhere member separator inside
  rw [beq_self_eq_true] at unseparated
  cases unseparated

theorem splitWhere_concat {separates : Char → Bool} {c : Char} (unseparated : separates c = false)
    (text : List Char) :
    ∃ pieces last, splitWhere separates text = pieces ++ [last] ∧
      splitWhere separates (text ++ [c]) = pieces ++ [last ++ [c]] := by
  induction text with
  | nil =>
    refine ⟨[], [], rfl, ?_⟩
    rw [List.nil_append, splitWhere, unseparated]
    rfl
  | cons d rest ih =>
    obtain ⟨pieces, last, parts, grown⟩ := ih
    rw [List.cons_append, splitWhere, splitWhere, parts, grown]
    split
    · exact ⟨[] :: pieces, last, rfl, rfl⟩
    · cases pieces with
      | nil => exact ⟨[], d :: last, rfl, rfl⟩
      | cons piece pieces => exact ⟨(d :: piece) :: pieces, last, rfl, rfl⟩

theorem splitOn_concat {separator c : Char} (other : c ≠ separator) (text : List Char) :
    ∃ pieces last, splitOn separator text = pieces ++ [last] ∧
      splitOn separator (text ++ [c]) = pieces ++ [last ++ [c]] := by
  apply splitWhere_concat
  exact beq_eq_false_iff_ne.mpr other

theorem splitOn_ne_nil (separator : Char) (text : List Char) : splitOn separator text ≠ [] :=
  splitWhere_ne_nil _ text

theorem tail_splitOn_append (separator : Char) (text rest : List Char) :
    (splitOn separator (text ++ separator :: rest)).tail =
      (splitOn separator text).tail ++ splitOn separator rest := by
  rw [splitOn_append_separator, List.tail_append_of_ne_nil (splitOn_ne_nil separator text)]

theorem prefix_iff_of_splitOn {separator : Char} {start text first : List Char}
    {others : List (List Char)} (absent : separator ∉ start)
    (parts : splitOn separator text = first :: others) : start <+: text ↔ start <+: first := by
  have whole : joinWith [separator] (first :: others) = text := by
    rw [← parts, joinWith_splitOn]
  cases others with
  | nil => rw [← whole, joinWith]
  | cons next rest =>
    rw [joinWith, List.append_assoc, List.singleton_append] at whole
    rw [← whole]
    constructor
    · intro begins
      rcases List.prefix_or_prefix_of_prefix begins (List.prefix_append first _) with inside | beyond
      · exact inside
      · obtain ⟨more, rfl⟩ := beyond
        rw [List.prefix_append_right_inj] at begins
        cases more with
        | nil => simp
        | cons c more =>
          obtain ⟨same, _⟩ := List.cons_prefix_cons.mp begins
          rw [same] at absent
          exact absurd (List.mem_append_right first List.mem_cons_self) absent
    · intro begins
      exact begins.trans (List.prefix_append first _)

theorem notMem_joinWith {c : Char} {separator : List Char} {pieces : List (List Char)}
    (apart : c ∉ separator) (plain : ∀ piece ∈ pieces, c ∉ piece) : c ∉ joinWith separator pieces := by
  fun_induction joinWith separator pieces with
  | case1 => exact List.not_mem_nil
  | case2 piece => exact plain piece List.mem_cons_self
  | case3 piece next pieces ih =>
    obtain ⟨own, others⟩ := List.forall_mem_cons.mp plain
    simp [own, apart, ih others]

end Split

section Ends

variable {α : Type} {p : α → Bool} {start final : List α} {stop : α}

theorem rdropWhile_append_of_all (all : ∀ x ∈ final, p x = true) (start : List α) :
    (start ++ final).rdropWhile p = start.rdropWhile p := by
  have reversed : ∀ x ∈ final.reverse, p x = true := by simpa using all
  rw [List.rdropWhile, List.reverse_append, List.dropWhile_append_of_pos reversed, List.rdropWhile]

theorem rdropWhile_append_of_stop (member : stop ∈ final) (stops : p stop = false)
    (start : List α) : (start ++ final).rdropWhile p = start ++ final.rdropWhile p := by
  have kept : (final.reverse.dropWhile p).isEmpty = false := by
    rw [List.isEmpty_eq_false_iff, ne_eq, List.dropWhile_eq_nil_iff]
    intro all
    have passes : p stop = true := all stop (List.mem_reverse.mpr member)
    rw [stops] at passes
    cases passes
  rw [List.rdropWhile, List.reverse_append, List.dropWhile_append, kept, if_neg Bool.false_ne_true,
    List.reverse_append, List.reverse_reverse, List.rdropWhile]

theorem rtakeWhile_append_of_all (all : ∀ x ∈ final, p x = true) (start : List α) :
    (start ++ final).rtakeWhile p = start.rtakeWhile p ++ final := by
  have reversed : ∀ x ∈ final.reverse, p x = true := by simpa using all
  rw [List.rtakeWhile, List.reverse_append, List.takeWhile_append_of_pos reversed,
    List.reverse_append, List.reverse_reverse, List.rtakeWhile]

theorem rtakeWhile_append_of_stop (member : stop ∈ final) (stops : p stop = false)
    (start : List α) : (start ++ final).rtakeWhile p = final.rtakeWhile p := by
  have cut : (final.reverse.takeWhile p).length ≠ final.reverse.length := by
    intro whole
    have same : final.reverse.takeWhile p = final.reverse :=
      (List.takeWhile_prefix p).eq_of_length whole
    have passes : p stop = true :=
      List.takeWhile_eq_self_iff.mp same stop (List.mem_reverse.mpr member)
    rw [stops] at passes
    cases passes
  rw [List.rtakeWhile, List.reverse_append, List.takeWhile_append, if_neg cut, List.rtakeWhile]

end Ends

section FinalNewlines

theorem dropFinalNewlines_concat_newline (text : List Char) :
    dropFinalNewlines (text ++ ['\n']) = dropFinalNewlines text :=
  List.rdropWhile_concat_pos (· == '\n') text '\n' rfl

theorem dropFinalNewlines_concat {c : Char} (other : c ≠ '\n') (text : List Char) :
    dropFinalNewlines (text ++ [c]) = text ++ [c] := by
  apply List.rdropWhile_concat_neg
  rw [beq_iff_eq]
  exact other

/-- Without the line ends that close it, a text loses the empty lines at its end. Its first line
stays. -/
theorem tail_splitOn_dropFinalNewlines (text : List Char) :
    (splitOn '\n' (dropFinalNewlines text)).tail =
      (splitOn '\n' text).tail.rdropWhile List.isEmpty := by
  induction text using List.reverseRecOn with
  | nil => rfl
  | append_singleton text c ih =>
    by_cases newline : c = '\n'
    · subst newline
      have lines : (splitOn '\n' (text ++ ['\n'])).tail = (splitOn '\n' text).tail ++ [[]] :=
        tail_splitOn_append '\n' text []
      rw [dropFinalNewlines_concat_newline, lines, List.rdropWhile_concat_pos _ _ _ rfl, ih]
    · obtain ⟨pieces, last, _, grown⟩ := splitOn_concat newline text
      rw [dropFinalNewlines_concat newline, grown]
      -- the last line is not empty, and it is in the tail if there is another one
      cases pieces with
      | nil => rfl
      | cons piece pieces =>
        rw [List.cons_append, List.tail_cons, List.rdropWhile_concat_neg]
        simp

end FinalNewlines

end CommitAdmission.Text
