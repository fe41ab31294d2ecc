import CommitAdmission.Proofs.ConditionWords
import Mathlib.Algebra.Group.Nat.Defs

/-! The grammar of copy conditions, and the reader that decides it with one flag and one counter. -/

namespace CommitAdmission.CopyCondition

open Text

/-- One of the operators with a value, after at most one minus. -/
def IsAtom (word : List Char) : Prop :=
  word ∉ ["AND".toList, "OR".toList, "NOT".toList] ∧
    ∃ sign operator value, (sign = [] ∨ sign = ['-']) ∧ operator ∈ operators ∧ value ≠ [] ∧
      word = sign ++ operator.toList ++ ':' :: value

inductive Nonterminal
  | expression
  | factor

/-- What is derived from the nonterminals, by the rules
`expression ::= factor | expression (AND | OR) factor` and
`factor ::= NOT factor | ( expression ) | atom`. -/
inductive Derives : Nonterminal → List (List Char) → Prop
  | single {words : List (List Char)} : Derives .factor words → Derives .expression words
  | joined {left right : List (List Char)} {connective : List Char} :
      Derives .expression left → connective = "AND".toList ∨ connective = "OR".toList →
      Derives .factor right → Derives .expression (left ++ connective :: right)
  | negated {words : List (List Char)} :
      Derives .factor words → Derives .factor ("NOT".toList :: words)
  | group {words : List (List Char)} :
      Derives .expression words → Derives .factor (['('] :: words ++ [[')']])
  | atom {word : List Char} : IsAtom word → Derives .factor [word]

theorem ofWord_opening : Token.ofWord ['('] = .openGroup := rfl

theorem ofWord_closing : Token.ofWord [')'] = .closeGroup := rfl

theorem ofWord_negation : Token.ofWord "NOT".toList = .negated := by decide

theorem ofWord_connective {word : List Char}
    (connective : word = "AND".toList ∨ word = "OR".toList) : Token.ofWord word = .joined word := by
  rcases connective with rfl | rfl
  · decide
  · decide

theorem withoutMinus_operator {operator : String} (known : operator ∈ operators)
    (sign value : List Char) (signed : sign = [] ∨ sign = ['-']) :
    withoutMinus (sign ++ operator.toList ++ ':' :: value) = operator.toList ++ ':' :: value := by
  rcases signed with rfl | rfl
  · simp only [operators, List.mem_cons, List.not_mem_nil, or_false] at known
    rcases known with rfl | rfl | rfl | rfl | rfl <;> rfl
  · rfl

theorem colon_notMem_operator {operator : String} (known : operator ∈ operators) :
    ':' ∉ operator.toList := by
  simp only [operators, List.mem_cons, List.not_mem_nil, or_false] at known
  rcases known with rfl | rfl | rfl | rfl | rfl <;> decide

theorem IsAtom.checkTerm_eq {word : List Char} (atom : IsAtom word) : checkTerm word = .ok () := by
  obtain ⟨_, sign, operator, value, signed, known, nonempty, rfl⟩ := atom
  have split := splitFirst?_append (colon_notMem_operator known) value
  have filled : value.isEmpty = false := List.isEmpty_eq_false_iff.mpr nonempty
  have listed : operators.contains (String.ofList operator.toList) = true := by
    rw [String.ofList_toList]
    exact List.contains_iff_mem.mpr known
  rw [checkTerm, withoutMinus_operator known sign value signed, split]
  simp only [filled, listed]
  rfl

theorem IsAtom.ofWord_eq {word : List Char} (atom : IsAtom word) :
    Token.ofWord word = .term word := by
  obtain ⟨unreserved, sign, operator, value, _, _, _, rfl⟩ := atom
  have colon : ':' ∈ sign ++ operator.toList ++ ':' :: value :=
    List.mem_append_right _ List.mem_cons_self
  have absent (c : Char) (other : ':' ≠ c) : sign ++ operator.toList ++ ':' :: value ≠ [c] := by
    intro same
    rw [same] at colon
    exact other (List.mem_singleton.mp colon)
  simp only [List.mem_cons, List.not_mem_nil, or_false, not_or] at unreserved
  obtain ⟨notAnd, notOr, notNot⟩ := unreserved
  rw [Token.ofWord, if_neg (absent '(' (by decide)), if_neg (absent ')' (by decide)),
    if_neg (not_or.mpr ⟨notAnd, notOr⟩), if_neg notNot]

theorem IsAtom.of_checkTerm {word : List Char}
    (unreserved : word ∉ ["AND".toList, "OR".toList, "NOT".toList])
    (accepted : checkTerm word = .ok ()) : IsAtom word := by
  refine ⟨unreserved, ?_⟩
  unfold checkTerm at accepted
  split at accepted
  · cases accepted
  · rename_i operator value split
    by_cases empty : value.isEmpty = true
    · rw [if_pos empty] at accepted
      cases accepted
    · rw [if_neg empty] at accepted
      by_cases unknown : (!operators.contains (String.ofList operator)) = true
      · rw [if_pos unknown] at accepted
        cases accepted
      · have known : String.ofList operator ∈ operators := by
          rw [Bool.not_eq_true, Bool.not_eq_false'] at unknown
          exact List.contains_iff_mem.mp unknown
        have filled : value ≠ [] := by
          intro same
          subst same
          exact empty rfl
        have unsigned := (append_of_splitFirst? split).1
        unfold withoutMinus at unsigned
        split at unsigned
        · rename_i rest
          refine ⟨['-'], _, value, .inr rfl, known, filled, ?_⟩
          rw [String.toList_ofList, List.append_assoc, ← unsigned]
          rfl
        · refine ⟨[], _, value, .inl rfl, known, filled, ?_⟩
          rw [String.toList_ofList, List.nil_append, ← unsigned]

/-- What a word makes of a place, where the reader goes on. -/
inductive Reads : Place → List Char → Place → Prop
  | opening {depth : Int32} : Reads ⟨depth, true⟩ ['('] ⟨depth + 1, true⟩
  | closing {depth : Int32} : depth ≠ 0 → Reads ⟨depth, false⟩ [')'] ⟨depth - 1, false⟩
  | connective {depth : Int32} {word : List Char} :
      word = "AND".toList ∨ word = "OR".toList → Reads ⟨depth, false⟩ word ⟨depth, true⟩
  | negation {depth : Int32} : Reads ⟨depth, true⟩ "NOT".toList ⟨depth, true⟩
  | atom {depth : Int32} {word : List Char} :
      IsAtom word → Reads ⟨depth, true⟩ word ⟨depth, false⟩

theorem Reads.step_eq {place next : Place} {word : List Char} (reads : Reads place word next) :
    step place (Token.ofWord word) = .ok next := by
  cases reads with
  | opening => rfl
  | @closing depth nonzero =>
    have goesOn : ¬ (false = true ∨ depth = 0) := not_or.mpr ⟨Bool.false_ne_true, nonzero⟩
    rw [ofWord_closing, step, if_neg goesOn]
  | connective word => rw [ofWord_connective word]; rfl
  | negation => rw [ofWord_negation]; rfl
  | atom atom =>
    rw [atom.ofWord_eq]
    simp only [step, atom.checkTerm_eq]
    rfl

theorem reads_of_step {place next : Place} {word : List Char}
    (goesOn : step place (Token.ofWord word) = .ok next) : Reads place word next := by
  obtain ⟨depth, wantsTerm⟩ := place
  by_cases opening : word = ['(']
  · rw [opening, ofWord_opening] at goesOn
    cases wantsTerm with
    | false => cases goesOn
    | true => cases goesOn; rw [opening]; exact .opening
  by_cases closing : word = [')']
  · rw [closing, ofWord_closing, step] at goesOn
    split at goesOn
    · cases goesOn
    · rename_i standing
      obtain ⟨unwanted, nonzero⟩ := not_or.mp standing
      cases wantsTerm with
      | false => cases goesOn; rw [closing]; exact .closing nonzero
      | true => exact absurd rfl unwanted
  by_cases connective : word = "AND".toList ∨ word = "OR".toList
  · rw [ofWord_connective connective] at goesOn
    cases wantsTerm with
    | false => cases goesOn; exact .connective connective
    | true => cases goesOn
  by_cases negation : word = "NOT".toList
  · rw [negation, ofWord_negation] at goesOn
    cases wantsTerm with
    | false => cases goesOn
    | true => cases goesOn; rw [negation]; exact .negation
  · rw [Token.ofWord, if_neg opening, if_neg closing, if_neg connective, if_neg negation] at goesOn
    cases wantsTerm with
    | false => cases goesOn
    | true =>
      have unreserved : word ∉ ["AND".toList, "OR".toList, "NOT".toList] := by
        intro member
        simp only [List.mem_cons, List.not_mem_nil, or_false] at member
        rcases member with isAnd | isOr | isNot
        · exact connective (.inl isAnd)
        · exact connective (.inr isOr)
        · exact negation isNot
      cases checked : checkTerm word with
      | error fault =>
        simp only [step, checked] at goesOn
        cases goesOn
      | ok value =>
        simp only [step, checked] at goesOn
        cases goesOn
        exact .atom (.of_checkTerm unreserved checked)

def readAll (place : Place) (words : List (List Char)) : Except Fault Place :=
  (words.map Token.ofWord).foldlM step place

theorem readAll_cons {place next : Place} {word : List Char} (reads : Reads place word next)
    (words : List (List Char)) : readAll place (word :: words) = readAll next words := by
  rw [readAll, List.map_cons, List.foldlM_cons, reads.step_eq]
  rfl

theorem readAll_append {place next : Place} {first : List (List Char)}
    (reads : readAll place first = .ok next) (second : List (List Char)) :
    readAll place (first ++ second) = readAll next second := by
  rw [readAll] at reads
  rw [readAll, List.map_append, List.foldlM_append, reads]
  rfl

/-- The counter of open groups is exact as long as it cannot overflow. -/
theorem ofNat_succ_ne_zero {depth : Nat} (small : depth + 1 < 2 ^ 31) :
    Int32.ofNat (depth + 1) ≠ 0 := by
  intro zero
  have value : (Int32.ofNat (depth + 1)).toInt = (depth + 1 : Nat) := Int32.toInt_ofNat_of_lt small
  rw [zero] at value
  have : (0 : Int) = (depth + 1 : Nat) := value
  omega

theorem ofNat_succ_sub_one (depth : Nat) : Int32.ofNat (depth + 1) - 1 = Int32.ofNat depth := by
  rw [Int32.ofNat_add]
  exact Int32.add_sub_cancel _ _

/-- Completeness: what is derived is read, and leaves the counter as it was. -/
theorem readAll_of_derives {symbol : Nonterminal} {words : List (List Char)}
    (derives : Derives symbol words) (depth : Nat) (small : depth + words.count ['('] < 2 ^ 31) :
    readAll ⟨.ofNat depth, true⟩ words = .ok ⟨.ofNat depth, false⟩ := by
  induction derives generalizing depth with
  | single _ ih => exact ih depth small
  | @joined left right connective _ connects _ ihLeft ihRight =>
    have counts : (left ++ connective :: right).count ['('] =
        left.count ['('] + (connective :: right).count ['('] := List.count_append
    have tail : right.count ['('] ≤ (connective :: right).count ['('] := List.count_le_count_cons
    rw [readAll_append (ihLeft depth (by omega)), readAll_cons (.connective connects)]
    exact ihRight depth (by omega)
  | @negated words _ ih =>
    have tail : words.count ['('] ≤ ("NOT".toList :: words).count ['('] :=
      List.count_le_count_cons
    rw [readAll_cons .negation]
    exact ih depth (by omega)
  | @group words _ ih =>
    have counts : (['('] :: words ++ [[')']]).count ['('] = words.count ['('] + 1 := by
      rw [List.cons_append, List.count_cons_self, List.count_append]
      rfl
    -- one more group is open inside, and there is room for it in the counter
    have inner := ih (depth + 1) (by omega)
    rw [List.cons_append, readAll_cons .opening, ← show Int32.ofNat (depth + 1) = _ + 1 from
      Int32.ofNat_add depth 1, readAll_append inner,
      readAll_cons (.closing (ofNat_succ_ne_zero (by omega))), ofNat_succ_sub_one]
    rfl
  | atom atom =>
    rw [readAll_cons (.atom atom)]
    rfl

/-- What may stand in a group before a factor. -/
inductive Lead : List (List Char) → Prop
  | start : Lead []
  | negated {words : List (List Char)} : Lead words → Lead (words ++ ["NOT".toList])
  | joined {words : List (List Char)} {connective : List Char} :
      Derives .expression words → connective = "AND".toList ∨ connective = "OR".toList →
      Lead (words ++ [connective])

theorem Lead.followed {lead factor : List (List Char)} (before : Lead lead)
    (derives : Derives .factor factor) : Derives .expression (lead ++ factor) := by
  induction before generalizing factor with
  | start => exact .single derives
  | negated _ ih =>
    rw [List.append_assoc]
    exact ih (.negated derives)
  | joined left connects =>
    rw [List.append_assoc]
    exact .joined left connects derives

/-- The words up to the opening of the innermost group, with the number of groups that are open. -/
inductive Surrounds : Nat → List (List Char) → Prop
  | nothing : Surrounds 0 []
  | group {depth : Nat} {outer lead : List (List Char)} :
      Surrounds depth outer → Lead lead → Surrounds (depth + 1) (outer ++ lead ++ [['(']])

theorem Surrounds.le_count {depth : Nat} {outer : List (List Char)}
    (surrounds : Surrounds depth outer) : depth ≤ outer.count ['('] := by
  induction surrounds with
  | nothing => exact Nat.zero_le _
  | @group depth outer lead _ _ ih =>
    have counts : (outer ++ lead ++ [['(']]).count ['('] =
        outer.count ['('] + lead.count ['('] + 1 := by
      rw [List.count_append, List.count_append]
      rfl
    omega

/-- The place that the reader has reached after some words: they are a stack of open groups, and the
innermost of them holds an expression or waits for a factor. -/
inductive Standing : List (List Char) → Place → Prop
  | waiting {depth : Nat} {outer inner : List (List Char)} :
      Surrounds depth outer → Lead inner → Standing (outer ++ inner) ⟨.ofNat depth, true⟩
  | complete {depth : Nat} {outer inner : List (List Char)} :
      Surrounds depth outer → Derives .expression inner →
      Standing (outer ++ inner) ⟨.ofNat depth, false⟩

theorem Standing.read {read : List (List Char)} {place next : Place} {word : List Char}
    (standing : Standing read place) (reads : Reads place word next) :
    Standing (read ++ [word]) next := by
  cases standing with
  | @waiting depth outer inner surrounds lead =>
    cases reads with
    | opening =>
      have opened := Standing.waiting (surrounds.group lead) .start
      rw [List.append_nil, Int32.ofNat_add] at opened
      exact opened
    | negation =>
      rw [List.append_assoc]
      exact .waiting surrounds lead.negated
    | atom atom =>
      rw [List.append_assoc]
      exact .complete surrounds (lead.followed (.atom atom))
  | @complete depth outer inner surrounds derives =>
    cases reads with
    | closing nonzero =>
      -- the group is a factor of the one around it, where its lead waits for it
      cases surrounds with
      | nothing => exact absurd rfl nonzero
      | @group depth outer lead surrounds before =>
        have closed := Standing.complete surrounds (before.followed derives.group)
        rw [ofNat_succ_sub_one]
        simpa using closed
    | connective connects =>
      rw [List.append_assoc]
      exact .waiting surrounds (.joined derives connects)

theorem Standing.readAll {read : List (List Char)} {place last : Place} (standing : Standing read place)
    {words : List (List Char)} (reads : readAll place words = .ok last) :
    Standing (read ++ words) last := by
  induction words generalizing read place with
  | nil =>
    cases reads
    rw [List.append_nil]
    exact standing
  | cons word rest ih =>
    rw [CopyCondition.readAll, List.map_cons, List.foldlM_cons] at reads
    cases goesOn : step place (Token.ofWord word) with
    | error fault =>
      rw [goesOn] at reads
      cases reads
    | ok next =>
      rw [goesOn] at reads
      have further := ih (standing.read (reads_of_step goesOn)) reads
      rw [List.append_assoc] at further
      exact further

theorem standing_of_readAll {words : List (List Char)} {place : Place}
    (reads : readAll ⟨0, true⟩ words = .ok place) : Standing words place :=
  (Standing.waiting .nothing .start).readAll reads

theorem Standing.depth_nonneg {read : List (List Char)} {place : Place}
    (standing : Standing read place) (small : read.count ['('] < 2 ^ 31) : 0 ≤ place.depth := by
  cases standing with
  | @waiting depth outer inner surrounds _ | @complete depth outer inner surrounds _ =>
    have deep := surrounds.le_count
    rw [List.count_append] at small
    exact Int32.zero_le_ofNat_of_lt (by omega)

/-- Soundness: what is read to the end, with no group open, is derived. -/
theorem Standing.derives {read : List (List Char)} {place : Place} (standing : Standing read place)
    (small : read.count ['('] < 2 ^ 31) (finished : finish place = .ok ()) :
    Derives .expression read := by
  cases standing with
  | waiting _ _ => cases finished
  | @complete depth outer inner surrounds derives =>
    have deep := surrounds.le_count
    rw [List.count_append] at small
    cases surrounds with
    | nothing => exact derives
    | @group depth outer lead _ _ =>
      have nonzero : Int32.ofNat (depth + 1) ≠ 0 := ofNat_succ_ne_zero (by omega)
      rw [finish, if_neg Bool.false_ne_true, if_pos nonzero] at finished
      cases finished

theorem check_eq (query : String) :
    check query = (readAll ⟨0, true⟩ (words (spaced query.toList))).bind finish := rfl

theorem count_words_spaced (query : String) :
    (words (spaced query.toList)).count ['('] = query.toList.count '(' :=
  (lexes_iff.mpr rfl).count_openings

theorem derives_of_check {query : String} (few : query.toList.count '(' < 2 ^ 31)
    (accepted : check query = .ok ()) : Derives .expression (words (spaced query.toList)) := by
  rw [check_eq] at accepted
  cases reads : readAll ⟨0, true⟩ (words (spaced query.toList)) with
  | error fault =>
    rw [reads] at accepted
    cases accepted
  | ok place =>
    rw [reads] at accepted
    rw [← count_words_spaced] at few
    exact (standing_of_readAll reads).derives few accepted

theorem check_of_derives {query : String} (few : query.toList.count '(' < 2 ^ 31)
    (derives : Derives .expression (words (spaced query.toList))) : check query = .ok () := by
  rw [← count_words_spaced] at few
  have reads := readAll_of_derives derives 0 (by omega)
  have start : Int32.ofNat 0 = 0 := rfl
  rw [start] at reads
  rw [check_eq, reads]
  rfl

/-- Copy conditions are the texts whose words are derived from the grammar; the reader faults all
others, and its counter of open groups never falls below zero. -/
theorem check_decides_grammar (query : String) (few : query.toList.count '(' < 2 ^ 31) :
    (check query = .ok () ↔
      ∃ found, Lexes query.toList found ∧ Derives .expression found) ∧
    ((¬ ∃ found, Lexes query.toList found ∧ Derives .expression found) →
      ∃ fault, check query = .error fault) ∧
    ∀ read place, read <+: tokens query.toList → read.foldlM step ⟨0, true⟩ = .ok place →
      0 ≤ place.depth := by
  have accepts : check query = .ok () ↔
      ∃ found, Lexes query.toList found ∧ Derives .expression found := by
    constructor
    · intro accepted
      exact ⟨_, lexes_iff.mpr rfl, derives_of_check few accepted⟩
    · intro given
      obtain ⟨found, lexes, derives⟩ := given
      rw [← lexes_iff.mp lexes] at derives
      exact check_of_derives few derives
  refine ⟨accepts, ?_, ?_⟩
  · intro foreign
    cases verdict : check query with
    | ok value => exact absurd (accepts.mp verdict) foreign
    | error fault => exact ⟨fault, rfl⟩
  · intro read place started reads
    obtain ⟨unread, whole⟩ := started
    obtain ⟨first, second, parts, rfl, _⟩ := List.map_eq_append_iff.mp whole.symm
    have small : first.count ['('] < 2 ^ 31 := by
      have counts := count_words_spaced query
      rw [parts, List.count_append] at counts
      omega
    exact (standing_of_readAll reads).depth_nonneg small

theorem check_negated_group :
    "NOT (is:MAX)".toList.count '(' < 2 ^ 31 ∧ check "NOT (is:MAX)" = .ok () := by
  have few : "NOT (is:MAX)".toList.count '(' < 2 ^ 31 := by decide
  have lexes : Lexes "NOT (is:MAX)".toList ["NOT".toList, ['('], "is:MAX".toList, [')']] :=
    lexes_iff.mpr (by decide)
  have atom : IsAtom "is:MAX".toList :=
    ⟨by decide, [], "is", "MAX".toList, .inl rfl, by decide, by decide, by decide⟩
  have derives : Derives .expression ["NOT".toList, ['('], "is:MAX".toList, [')']] :=
    .single (.negated (.group (.single (.atom atom))))
  exact ⟨few, (check_decides_grammar "NOT (is:MAX)" few).1.mpr ⟨_, lexes, derives⟩⟩

end CommitAdmission.CopyCondition
