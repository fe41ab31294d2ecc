import CommitAdmission.Toml.Document
import Mathlib.Data.List.TakeWhile

/-! Documents of texts and counts, as they are usually written: a pair takes a line of its own, a text
stands in double quotes, and tables follow below their headers. Such a document describes the tables that
it was written for. -/

namespace CommitAdmission.Toml

open Text

/-- What a reader finds at the start of a text, and what it leaves. -/
def Finds {α : Type} {source : List Char} (found? : Option (Found α source)) (value : α)
    (rest : List Char) : Prop :=
  ∃ found, found? = some found ∧ found.value = value ∧ found.rest = rest

section Quoted

/-- A character between double quotes. One that cannot stand there is written by its code point. -/
def escaped (c : Char) : List Char :=
  if c = '"' ∨ c = '\\' then ['\\', c]
  else if isTextChar c then [c]
  else '\\' :: 'u' :: '0' :: '0' :: hexByte (UInt8.ofNat c.toNat)

def quoted (text : String) : List Char := '"' :: (text.toList.flatMap escaped ++ ['"'])

theorem codePoint?_hexByte : ∀ code < 128,
    codePoint? ('0' :: '0' :: hexByte (UInt8.ofNat code)) = some (Char.ofNat code) := by
  decide

theorem toNat_lt_of_not_isTextChar {c : Char} (control : isTextChar c = false) : c.toNat < 128 := by
  simp only [isTextChar, Bool.or_eq_false_iff, Bool.and_eq_false_iff, decide_eq_false_iff_not,
    bne_eq_false_iff_eq] at control
  omega

theorem piece?_escaped (c : Char) (rest : List Char) :
    piece? '"' false (escaped c ++ rest) = some (.char c rest) := by
  unfold escaped
  split
  · rename_i special
    rcases special with rfl | rfl <;> rfl
  · rename_i plain
    rw [not_or] at plain
    split
    · rename_i visible
      simp [piece?, plain.1, plain.2, visible]
    · rename_i control
      have read := codePoint?_hexByte c.toNat
        (toNat_lt_of_not_isTextChar (Bool.eq_false_iff.mpr control))
      rw [Char.ofNat_toNat] at read
      simp [piece?, escape?, shortEscape?, escapeWidth, hexByte] at read ⊢
      simp [read]

theorem scan?_of_char {quote c : Char} {several : Bool} {text rest : List Char}
    (next : piece? quote several text = some (.char c rest)) :
    scan? quote several text =
      (scan? quote several rest).map fun found => (c :: found.1, found.2) := by
  rw [scan?]
  split <;> simp_all
  split <;> simp_all

theorem scan?_escaped (content rest : List Char) :
    scan? '"' false (content.flatMap escaped ++ '"' :: rest) = some (content, rest) := by
  induction content with
  | nil =>
    rw [List.flatMap_nil, List.nil_append, scan?]
    rfl
  | cons c content ih =>
    rw [List.flatMap_cons, List.append_assoc, scan?_of_char (piece?_escaped c _), ih]
    rfl

theorem exists_escaped (c : Char) : ∃ first others, escaped c = first :: others ∧ first ≠ '"' := by
  unfold escaped
  split
  · exact ⟨_, _, rfl, by decide⟩
  · rename_i plain
    split
    · exact ⟨_, _, rfl, fun same => plain (.inl same)⟩
    · exact ⟨_, _, rfl, by decide⟩

/-- Two quotes at the start of a string could begin three of them; here they enclose an empty text. -/
theorem string?_escaped (content : List Char) {rest : List Char} (ends : rest.head? ≠ some '"') :
    string? '"' (content.flatMap escaped ++ '"' :: rest) = some (content, rest) := by
  have read := scan?_escaped content rest
  unfold string?
  split
  · rename_i a b after spelled
    rw [if_neg, read]
    rintro ⟨rfl, rfl⟩
    cases content with
    | nil =>
      rw [List.flatMap_nil, List.nil_append] at spelled
      rw [(List.cons.inj spelled).2] at ends
      exact ends rfl
    | cons c content =>
      obtain ⟨first, others, written, differs⟩ := exists_escaped c
      rw [List.flatMap_cons, written] at spelled
      exact differs (List.cons.inj spelled).1
  · exact read

end Quoted

section Counts

variable {digits : List Char} (allDigits : ∀ c ∈ digits, isDigit c = true)
include allDigits

theorem notMem_of_digits {c : Char} (other : isDigit c = false) : c ∉ digits := by
  intro member
  rw [allDigits c member] at other
  cases other

theorem isDate_of_digits : isDate digits = false := by
  rw [isDate, splitOn_of_notMem (notMem_of_digits allDigits (by decide))]

theorem isTime_of_digits : isTime digits = false := by
  have point : splitFirst? '.' digits = none :=
    splitFirst?_eq_none_iff.mpr (notMem_of_digits allDigits (by decide))
  have colon : splitOn ':' digits = [digits] :=
    splitOn_of_notMem (notMem_of_digits allDigits (by decide))
  simp only [isTime, point, colon]

theorem isMoment_of_digits : isMoment digits = false := by
  have start : isDate (digits.take 10) = false :=
    isDate_of_digits fun c member => allDigits c (List.mem_of_mem_take member)
  rw [isMoment, isDate_of_digits allDigits, isTime_of_digits allDigits, start]
  rfl

theorem splitSign_of_digits : splitSign digits = (false, digits) := by
  unfold splitSign
  split
  · exact absurd (allDigits '-' List.mem_cons_self) (by decide)
  · exact absurd (allDigits '+' List.mem_cons_self) (by decide)
  · rfl

theorem splitExponent?_of_digits : splitExponent? digits = some (digits, none) := by
  have unmarked : digits.dropWhile (fun c => !(c == 'e' || c == 'E')) = [] := by
    rw [List.dropWhile_eq_nil_iff]
    intro c member
    have lower : 'e' ∉ digits := notMem_of_digits allDigits (by decide)
    have upper : 'E' ∉ digits := notMem_of_digits allDigits (by decide)
    have notLower : c ≠ 'e' := fun same => lower (same ▸ member)
    have notUpper : c ≠ 'E' := fun same => upper (same ▸ member)
    simp [notLower, notUpper]
  simp only [splitExponent?, unmarked]

theorem isFloat_of_digits : isFloat digits = false := by
  have letter : 'n' ∉ digits := notMem_of_digits allDigits (by decide)
  have infinity : (digits == "inf".toList) = false := by
    rw [beq_eq_false_iff_ne]
    rintro rfl
    exact letter (by decide)
  have noNumber : (digits == "nan".toList) = false := by
    rw [beq_eq_false_iff_ne]
    rintro rfl
    exact letter (by decide)
  have point : splitFirst? '.' digits = none :=
    splitFirst?_eq_none_iff.mpr (notMem_of_digits allDigits (by decide))
  simp only [isFloat, splitSign_of_digits allDigits, infinity, noNumber,
    splitExponent?_of_digits allDigits, point]
  simp

omit allDigits

/-- Integers are less than this. -/
def countLimit : Nat := 0x8000000000000000

theorem withinInt64?_of_lt {value : Nat} (small : value < countLimit) :
    withinInt64? value = some (value : Int) := by
  unfold countLimit at small
  rw [withinInt64?, if_pos]
  omega

theorem wholeDigits?_decimal (value : Nat) : wholeDigits? (decimal value) = some (decimal value) := by
  have allDigits : ∀ c ∈ decimal value, isDigit c = true := fun _ => isDigit_of_mem_decimal
  have noLeadingZero : ¬ ((decimal value).head? = some '0' ∧ decimal value ≠ ['0']) := by
    rintro ⟨leading, longer⟩
    by_cases nothing : value = 0
    · have single : decimal 0 = ['0'] := by simp [decimal, digit]
      exact longer (nothing ▸ single)
    · exact head?_decimal_ne_zero nothing leading
  have groups : splitOn '_' (decimal value) = [decimal value] :=
    splitOn_of_notMem (notMem_of_digits allDigits (by decide))
  rw [wholeDigits?, if_neg noLeadingZero, ungrouped?, groups]
  simpa [decimal_ne_nil] using allDigits

theorem integer?_decimal {value : Nat} (small : value < countLimit) :
    integer? (decimal value) = some (value : Int) := by
  have allDigits : ∀ c ∈ decimal value, isDigit c = true := fun _ => isDigit_of_mem_decimal
  have noLetter {c : Char} (member : c ∈ decimal value) (other : isDigit c = false) : False :=
    notMem_of_digits allDigits other member
  unfold integer?
  split
  · rename_i spelled
    exact (noLetter (spelled ▸ List.mem_cons_of_mem _ List.mem_cons_self) (by decide)).elim
  · rename_i spelled
    exact (noLetter (spelled ▸ List.mem_cons_of_mem _ List.mem_cons_self) (by decide)).elim
  · rename_i spelled
    exact (noLetter (spelled ▸ List.mem_cons_of_mem _ List.mem_cons_self) (by decide)).elim
  · rw [splitSign_of_digits allDigits]
    dsimp only
    rw [wholeDigits?_decimal, Option.bind_eq_bind, Option.bind_some, if_neg Bool.false_ne_true,
      digitsValue_decimal, withinInt64?_of_lt small]

theorem ofWord?_decimal {value : Nat} (small : value < countLimit) :
    ofWord? (decimal value) = some (.integer value) := by
  have allDigits : ∀ c ∈ decimal value, isDigit c = true := fun _ => isDigit_of_mem_decimal
  have noWord {text : List Char} (inside : 'e' ∈ text) : decimal value ≠ text := by
    intro same
    exact notMem_of_digits allDigits (by decide) (same ▸ inside)
  rw [ofWord?, if_neg (noWord (by decide)), if_neg (noWord (by decide)),
    isMoment_of_digits allDigits, isFloat_of_digits allDigits, integer?_decimal small]
  rfl

theorem isWordChar_of_isDigit {c : Char} (digit : isDigit c = true) : isWordChar c = true := by
  have decimalDigit : c.isDigit = true := digit
  simp [isWordChar, Char.isAlphanum, decimalDigit]

theorem splitWord_decimal (value : Nat) (rest : List Char) :
    splitWord (decimal value ++ '\n' :: rest) = (decimal value, '\n' :: rest) := by
  have chars : ∀ c ∈ decimal value, isWordChar c = true := fun c member =>
    isWordChar_of_isDigit (isDigit_of_mem_decimal member)
  have taken : (decimal value ++ '\n' :: rest).takeWhile isWordChar = decimal value := by
    rw [List.takeWhile_append_of_pos chars]
    exact List.append_nil _
  have dropped : (decimal value ++ '\n' :: rest).dropWhile isWordChar = '\n' :: rest := by
    rw [List.dropWhile_append_of_pos chars]
    rfl
  simp only [splitWord, taken, dropped]
  rfl

/-- A number begins with a digit, so it is neither quoted nor in brackets, and no space is skipped. -/
theorem exists_decimal (value : Nat) : ∃ c others, decimal value = c :: others ∧
    ¬ (c = '"' ∨ c = '\'') ∧ c ≠ '[' ∧ c ≠ '{' ∧ isSpace c = false := by
  obtain ⟨c, others, spelled⟩ := List.exists_cons_of_ne_nil (decimal_ne_nil value)
  have digit : isDigit c = true := isDigit_of_mem_decimal (spelled ▸ List.mem_cons_self)
  have other {d : Char} (differs : isDigit d = false) : c ≠ d := by
    rintro rfl
    rw [digit] at differs
    cases differs
  have noSpace : c ≠ ' ' := other (by decide)
  have noTab : c ≠ '\t' := other (by decide)
  exact ⟨c, others, spelled, not_or.mpr ⟨other (by decide), other (by decide)⟩, other (by decide),
    other (by decide), by simp [isSpace, noSpace, noTab]⟩

end Counts

section Keys

def IsBareKey (key : String) : Prop :=
  key.toList ≠ [] ∧ ∀ c ∈ key.toList, isBareKeyChar c = true

instance (key : String) : Decidable (IsBareKey key) :=
  decidable_of_iff (key.toList ≠ [] ∧ key.toList.all isBareKeyChar = true)
    (and_congr_right fun _ => List.all_eq_true)

structure IsPlain (c : Char) : Prop where
  no_space : isSpace c = false
  no_quote : ¬ (c = '"' ∨ c = '\'')
  no_bracket : c ≠ '['
  no_line_end : ¬ (c = '\n' ∨ c = '\r' ∨ c = '#')
  no_mark : c ≠ '\uFEFF'

theorem isPlain_of_isBareKeyChar {c : Char} (bare : isBareKeyChar c = true) : IsPlain c := by
  have other {d : Char} (differs : isBareKeyChar d = false) : c ≠ d := by
    rintro rfl
    rw [bare] at differs
    cases differs
  have noSpace : c ≠ ' ' := other (by decide)
  have noTab : c ≠ '\t' := other (by decide)
  constructor
  · simp [isSpace, noSpace, noTab]
  · exact not_or.mpr ⟨other (by decide), other (by decide)⟩
  · exact other (by decide)
  · exact not_or.mpr ⟨other (by decide), not_or.mpr ⟨other (by decide), other (by decide)⟩⟩
  · exact other (by decide)

theorem IsBareKey.exists_cons {key : String} (bare : IsBareKey key) :
    ∃ c others, key.toList = c :: others ∧ isBareKeyChar c = true ∧
      (∀ d ∈ others, isBareKeyChar d = true) ∧ IsPlain c := by
  obtain ⟨c, others, spelled⟩ := List.exists_cons_of_ne_nil bare.1
  have chars := bare.2
  rw [spelled] at chars
  obtain ⟨own, rest⟩ := List.forall_mem_cons.mp chars
  exact ⟨c, others, spelled, own, rest, isPlain_of_isBareKeyChar own⟩

theorem skipSpaces_of_head {c : Char} (dark : isSpace c = false) (rest : List Char) :
    skipSpaces (c :: rest) = c :: rest :=
  List.dropWhile_cons_of_neg (Bool.eq_false_iff.mp dark)

theorem simpleKey?_bare {key : String} (bare : IsBareKey key) {after : List Char}
    (ends : ∀ c ∈ after.head?, isBareKeyChar c = false) :
    Finds (simpleKey? (key.toList ++ after)) key after := by
  obtain ⟨c, others, spelled, own, rest, plain⟩ := bare.exists_cons
  have stops : after.takeWhile isBareKeyChar = [] ∧ after.dropWhile isBareKeyChar = after := by
    cases after with
    | nil => exact ⟨rfl, rfl⟩
    | cons d after =>
      have stop : isBareKeyChar d = false := ends d rfl
      simp [stop]
  rw [spelled, List.cons_append, simpleKey?, if_neg plain.no_quote, if_pos own]
  refine ⟨_, rfl, ?_, (List.dropWhile_append_of_pos rest).trans stops.2⟩
  rw [List.takeWhile_append_of_pos rest, stops.1, List.append_nil, ← spelled, String.ofList_toList]

theorem key?_bare {key : String} (bare : IsBareKey key) (after : List Char) {next : Char}
    {rest : List Char} (spaces : skipSpaces after = next :: rest)
    (ends : ∀ c ∈ after.head?, isBareKeyChar c = false) (noDot : next ≠ '.') :
    Finds (key? (key.toList ++ after)) [key] (next :: rest) := by
  have single : Finds (simpleKey? (skipSpaces (key.toList ++ after))) key after := by
    obtain ⟨c, others, spelled, _, _, plain⟩ := bare.exists_cons
    have start : skipSpaces (key.toList ++ after) = key.toList ++ after := by
      rw [spelled]
      exact skipSpaces_of_head plain.no_space _
    rw [start]
    exact simpleKey?_bare bare ends
  obtain ⟨first, read, value, left⟩ := single
  rw [← left] at spaces
  have dotted : Finds (dottedKey? (key.toList ++ after)) [key] (next :: rest) := by
    rw [dottedKey?]
    simp only [read]
    split
    · rename_i another
      rw [spaces] at another
      exact absurd (List.cons.inj another).1 noDot
    · exact ⟨_, rfl, congrArg (fun name => [name]) value, spaces⟩
  obtain ⟨found, read, value, left⟩ := dotted
  refine ⟨found, ?_, value, left⟩
  rw [key?, read, Option.filter_some, value]
  rfl

end Keys

inductive Scalar
  | text (content : String)
  | count (number : Nat)
  deriving DecidableEq, Repr

namespace Scalar

def value : Scalar → Toml
  | text content => .text content
  | count number => .integer number

def write : Scalar → List Char
  | text content => quoted content
  | count number => decimal number

def Fits : Scalar → Prop
  | text _ => True
  | count number => number < countLimit

theorem skipSpaces_write (scalar : Scalar) (rest : List Char) :
    skipSpaces (' ' :: (scalar.write ++ rest)) = scalar.write ++ rest := by
  cases scalar with
  | text content => rfl
  | count number =>
    obtain ⟨c, others, spelled, _, _, _, dark⟩ := exists_decimal number
    rw [write, spelled]
    exact skipSpaces_of_head dark _

theorem value?_write {scalar : Scalar} (fits : scalar.Fits) (levels : Nat) (rest : List Char) :
    Finds (value? levels (scalar.write ++ '\n' :: rest)) scalar.value ('\n' :: rest) := by
  cases scalar with
  | text content =>
    have read : string? '"' (content.toList.flatMap escaped ++ '"' :: '\n' :: rest) =
        some (content.toList, '\n' :: rest) := string?_escaped _ (by simp)
    have spelled : (text content).write ++ '\n' :: rest =
        '"' :: (content.toList.flatMap escaped ++ '"' :: '\n' :: rest) := by
      simp [write, quoted]
    rw [spelled]
    unfold value?
    rw [if_neg (by decide), if_neg (by decide), scalar?, if_pos (by decide)]
    split
    · rename_i failed
      rw [read] at failed
      cases failed
    · rename_i given
      rw [read] at given
      cases given
      exact ⟨_, rfl, congrArg Toml.text String.ofList_toList, rfl⟩
  | count number =>
    obtain ⟨c, others, spelled, noQuote, noBracket, noBrace, _⟩ := exists_decimal number
    have word := splitWord_decimal number rest
    have known := ofWord?_decimal fits
    rw [write]
    rw [spelled, List.cons_append] at word ⊢
    rw [spelled] at known
    unfold value?
    rw [if_neg noBracket, if_neg noBrace, scalar?, if_neg noQuote]
    simp only [word, known]
    split
    · exact ⟨_, rfl, rfl, rfl⟩
    · rename_i longer
      simp only [List.length_cons, List.length_append] at longer
      omega

end Scalar

def writePair (pair : String × Scalar) : List Char :=
  pair.1.toList ++ ' ' :: '=' :: ' ' :: (pair.2.write ++ ['\n'])

def writeHeader (name : String) : List Char := '[' :: (name.toList ++ [']', '\n'])

def writeTables (pairs : List (String × Scalar)) (tables : List (String × List (String × Scalar))) :
    List Char :=
  pairs.flatMap writePair ++
    tables.flatMap fun table => writeHeader table.1 ++ table.2.flatMap writePair

section Statements

theorem statement?_assign {source tail rest : List Char} {key : List String} {value : Toml}
    (start : source.head? ≠ some '[') (keyRead : Finds (key? source) key ('=' :: tail))
    (valueRead : Finds (value? (depthLimit - 1) (skipSpaces tail)) value rest) :
    Finds (statement? source) (.assign key value) rest := by
  obtain ⟨foundKey, keyRead, sameKey, afterKey⟩ := keyRead
  obtain ⟨found, read, same, after⟩ := valueRead
  have shorter : found.rest.length < source.length := by
    have keyShorter := foundKey.shorter
    have valueShorter := found.shorter
    have spaces := length_skipSpaces_le tail
    rw [afterKey, List.length_cons] at keyShorter
    omega
  unfold statement?
  split
  · exact absurd rfl start
  · exact absurd rfl start
  · simp only [keyRead, afterKey, read]
    rw [dif_pos shorter]
    exact ⟨_, rfl, by rw [sameKey, same], after⟩

theorem statement?_writeHeader {name : String} (bare : IsBareKey name) (rest : List Char) :
    Finds (statement? (writeHeader name ++ rest)) (.table [name]) ('\n' :: rest) := by
  obtain ⟨c, others, spelled, _, _, plain⟩ := bare.exists_cons
  obtain ⟨found, read, value, left⟩ := key?_bare bare (']' :: '\n' :: rest) rfl
    (by simp; decide) (by decide)
  have whole : writeHeader name ++ rest = '[' :: (name.toList ++ ']' :: '\n' :: rest) := by
    simp [writeHeader]
  have shorter : ('\n' :: rest).length < (name.toList ++ ']' :: '\n' :: rest).length + 1 := by
    simp only [List.length_append, List.length_cons]
    omega
  have single (more : List Char) (twice : name.toList ++ ']' :: '\n' :: rest = '[' :: more) :
      False := by
    rw [spelled] at twice
    exact plain.no_bracket (List.cons.inj twice).1
  rw [whole, statement?.eq_2 _ single]
  simp only [read, left]
  rw [dif_pos shorter]
  exact ⟨_, rfl, by rw [value], rfl⟩

theorem statements?_of_finds {c : Char} {tail rest : List Char} {statement : Statement}
    (dark : isSpace c = false) (noLineEnd : ¬ (c = '\n' ∨ c = '\r' ∨ c = '#'))
    (read : Finds (statement? (c :: tail)) statement ('\n' :: rest)) :
    statements? (c :: tail) = (statements? rest).map (statement :: ·) := by
  obtain ⟨found, read, value, left⟩ := read
  have start : skipSpaces (c :: tail) = c :: tail := skipSpaces_of_head dark tail
  have ends : lineEnd? found.rest = some rest := by
    rw [left]
    rfl
  rw [statements?]
  split
  · rename_i empty
    rw [start] at empty
    cases empty
  · rename_i same
    rw [start] at same
    cases same
    rw [if_neg noLineEnd]
    simp only [read]
    split
    · rename_i failed
      rw [ends] at failed
      cases failed
    · rename_i given
      rw [ends] at given
      cases given
      rw [value]

theorem statements?_writePair {pair : String × Scalar} (bare : IsBareKey pair.1)
    (fits : pair.2.Fits) (rest : List Char) :
    statements? (writePair pair ++ rest) =
      (statements? rest).map (.assign [pair.1] pair.2.value :: ·) := by
  obtain ⟨key, scalar⟩ := pair
  obtain ⟨c, others, spelled, _, _, plain⟩ := bare.exists_cons
  have whole : writePair (key, scalar) ++ rest =
      key.toList ++ ' ' :: '=' :: ' ' :: (scalar.write ++ '\n' :: rest) := by
    simp [writePair]
  have keyRead : Finds (key? (key.toList ++ ' ' :: '=' :: ' ' :: (scalar.write ++ '\n' :: rest)))
      [key] ('=' :: ' ' :: (scalar.write ++ '\n' :: rest)) :=
    key?_bare bare _ rfl (by simp; decide) (by decide)
  have valueRead := Scalar.value?_write fits (depthLimit - 1) rest
  rw [← Scalar.skipSpaces_write] at valueRead
  rw [whole]
  rw [spelled, List.cons_append] at keyRead ⊢
  apply statements?_of_finds plain.no_space plain.no_line_end
  exact statement?_assign (by simpa using plain.no_bracket) keyRead valueRead

theorem statements?_writeHeader {name : String} (bare : IsBareKey name) (rest : List Char) :
    statements? (writeHeader name ++ rest) = (statements? rest).map (.table [name] :: ·) :=
  statements?_of_finds (by decide) (by decide) (statement?_writeHeader bare rest)

structure IsTable (pairs : List (String × Scalar)) : Prop where
  bare : ∀ pair ∈ pairs, IsBareKey pair.1
  fits : ∀ pair ∈ pairs, pair.2.Fits
  distinct : (pairs.map Prod.fst).Nodup

def assignments (pairs : List (String × Scalar)) : List Statement :=
  pairs.map fun pair => .assign [pair.1] pair.2.value

def tableStatements (tables : List (String × List (String × Scalar))) : List Statement :=
  tables.flatMap fun table => .table [table.1] :: assignments table.2

theorem statements?_writePairs {pairs : List (String × Scalar)} (table : IsTable pairs)
    (rest : List Char) :
    statements? (pairs.flatMap writePair ++ rest) =
      (statements? rest).map (assignments pairs ++ ·) := by
  have bare := table.bare
  have fits := table.fits
  clear table
  induction pairs with
  | nil => exact Option.map_id'.symm
  | cons pair pairs ih =>
    obtain ⟨ownBare, bare⟩ := List.forall_mem_cons.mp bare
    obtain ⟨ownFits, fits⟩ := List.forall_mem_cons.mp fits
    rw [List.flatMap_cons, List.append_assoc, statements?_writePair ownBare ownFits, ih bare fits,
      Option.map_map]
    rfl

theorem statements?_writeTables {pairs : List (String × Scalar)}
    {tables : List (String × List (String × Scalar))} (root : IsTable pairs)
    (titled : ∀ table ∈ tables, IsBareKey table.1 ∧ IsTable table.2) :
    statements? (writeTables pairs tables) = some (assignments pairs ++ tableStatements tables) := by
  have below : statements? (tables.flatMap fun table =>
      writeHeader table.1 ++ table.2.flatMap writePair) = some (tableStatements tables) := by
    induction tables with
    | nil =>
      rw [List.flatMap_nil, statements?]
      rfl
    | cons table tables ih =>
      obtain ⟨⟨bare, own⟩, others⟩ := List.forall_mem_cons.mp titled
      rw [List.flatMap_cons, List.append_assoc, statements?_writeHeader bare,
        statements?_writePairs own, ih others]
      rfl
  rw [writeTables, statements?_writePairs root, below]
  rfl

end Statements

section Entries

variable {entries inner : Entries} {name key : String}

theorem alter_of_new (new : key ∉ entries.map Prod.fst) (change : Option Toml → Option Toml) :
    alter key change entries = (change none).map fun value => entries ++ [(key, value)] := by
  induction entries with
  | nil => rfl
  | cons entry entries ih =>
    rw [List.map_cons, List.mem_cons, not_or] at new
    rw [alter, if_neg (Ne.symm new.1), ih new.2, Option.map_map]
    rfl

theorem alter_of_last (new : key ∉ entries.map Prod.fst) (old : Toml)
    (change : Option Toml → Option Toml) :
    alter key change (entries ++ [(key, old)]) =
      (change (some old)).map fun value => entries ++ [(key, value)] := by
  induction entries with
  | nil =>
    rw [List.nil_append, alter, if_pos rfl]
    rfl
  | cons entry entries ih =>
    rw [List.map_cons, List.mem_cons, not_or] at new
    rw [List.cons_append, alter, if_neg (Ne.symm new.1), ih new.2, Option.map_map]
    rfl

theorem assign_of_new (new : key ∉ entries.map Prod.fst) (value : Toml) :
    assign [] key value entries = some (entries ++ [(key, value)]) := by
  have absent : entries.any (·.1 == key) = false := by
    rw [List.any_eq_false]
    intro entry member same
    exact new (eq_of_beq same ▸ List.mem_map_of_mem member)
  rw [assign, absent, if_neg Bool.false_ne_true]

def entriesOf (pairs : List (String × Scalar)) : Entries :=
  pairs.map fun pair => (pair.1, pair.2.value)

def tableEntries (tables : List (String × List (String × Scalar))) : Entries :=
  tables.map fun table => (table.1, .table .headed (entriesOf table.2))

namespace Draft

theorem add_header (new : name ∉ entries.map Prod.fst) (current : List String) :
    add ⟨entries, current⟩ (.table [name]) =
      some ⟨entries ++ [(name, .table .headed [])], [name]⟩ := by
  simp [add, openTable, within, alter_of_new new]

theorem add_root (new : key ∉ entries.map Prod.fst) (value : Toml) :
    add ⟨entries, []⟩ (.assign [key] value) = some ⟨entries ++ [(key, value)], []⟩ := by
  simp [add, within, assign_of_new new]

theorem add_below (newName : name ∉ entries.map Prod.fst) (newKey : key ∉ inner.map Prod.fst)
    (value : Toml) :
    add ⟨entries ++ [(name, .table .headed inner)], [name]⟩ (.assign [key] value) =
      some ⟨entries ++ [(name, .table .headed (inner ++ [(key, value)]))], [name]⟩ := by
  simp [add, within, alter_of_last newName, assign_of_new newKey]

theorem foldlM_assignments (draft : Entries → Draft)
    (adds : ∀ inner key value, key ∉ inner.map Prod.fst →
      add (draft inner) (.assign [key] value) = some (draft (inner ++ [(key, value)])))
    {pairs : List (String × Scalar)} (distinct : (inner.map Prod.fst ++ pairs.map Prod.fst).Nodup) :
    (assignments pairs).foldlM add (draft inner) = some (draft (inner ++ entriesOf pairs)) := by
  induction pairs generalizing inner with
  | nil => simp [assignments, entriesOf]
  | cons pair pairs ih =>
    have new : pair.1 ∉ inner.map Prod.fst := by
      intro member
      exact (List.nodup_append.mp distinct).2.2 _ member _ List.mem_cons_self rfl
    have later : ((inner ++ [(pair.1, pair.2.value)]).map Prod.fst ++ pairs.map Prod.fst).Nodup := by
      simpa using distinct
    have rest := ih later
    rw [assignments] at rest
    rw [assignments, List.map_cons, List.foldlM_cons, adds inner pair.1 pair.2.value new,
      Option.bind_eq_bind, Option.bind_some, rest, List.append_assoc]
    rfl

theorem foldlM_tableStatements {tables : List (String × List (String × Scalar))}
    (sound : ∀ table ∈ tables, IsTable table.2)
    (distinct : (entries.map Prod.fst ++ tables.map Prod.fst).Nodup) (current : List String) :
    ((tableStatements tables).foldlM add ⟨entries, current⟩).map Draft.entries =
      some (entries ++ tableEntries tables) := by
  induction tables generalizing entries current with
  | nil => simp [tableStatements, tableEntries]
  | cons table tables ih =>
    obtain ⟨own, others⟩ := List.forall_mem_cons.mp sound
    have new : table.1 ∉ entries.map Prod.fst := by
      intro member
      exact (List.nodup_append.mp distinct).2.2 _ member _ List.mem_cons_self rfl
    have ownKeys : (([] : Entries).map Prod.fst ++ table.2.map Prod.fst).Nodup := own.distinct
    have filled := foldlM_assignments
      (fun inner => ⟨entries ++ [(table.1, .table .headed inner)], [table.1]⟩)
      (fun inner key value newKey => add_below new newKey value) ownKeys
    have later : ((entries ++ [(table.1, Toml.table .headed (entriesOf table.2))]).map Prod.fst ++
        tables.map Prod.fst).Nodup := by
      simpa using distinct
    have rest := ih others later [table.1]
    rw [tableStatements] at rest
    rw [List.nil_append] at filled
    rw [tableStatements, List.flatMap_cons, List.cons_append, List.foldlM_cons, add_header new,
      Option.bind_eq_bind, Option.bind_some, List.foldlM_append, filled, Option.bind_eq_bind,
      Option.bind_some, rest, List.append_assoc]
    rfl

end Draft

end Entries

structure Sheet where
  pairs : List (String × Scalar)
  tables : List (String × List (String × Scalar))
  root : IsTable pairs
  titled : ∀ table ∈ tables, IsBareKey table.1 ∧ IsTable table.2
  distinct : (pairs.map Prod.fst ++ tables.map Prod.fst).Nodup

namespace Sheet

def document (sheet : Sheet) : String := String.ofList (writeTables sheet.pairs sheet.tables)

def entries (sheet : Sheet) : Entries := entriesOf sheet.pairs ++ tableEntries sheet.tables

theorem ofStatements?_sheet (sheet : Sheet) :
    ofStatements? (assignments sheet.pairs ++ tableStatements sheet.tables) =
      some sheet.entries := by
  have rootKeys : (([] : Entries).map Prod.fst ++ sheet.pairs.map Prod.fst).Nodup :=
    sheet.root.distinct
  have root := Draft.foldlM_assignments (fun entries => ⟨entries, []⟩)
    (fun entries key value new => Draft.add_root new value) rootKeys
  have keys : (entriesOf sheet.pairs).map Prod.fst = sheet.pairs.map Prod.fst := by
    simp [entriesOf]
  have distinct := sheet.distinct
  rw [← keys] at distinct
  rw [List.nil_append] at root
  rw [ofStatements?, List.foldlM_append, root, Option.bind_eq_bind, Option.bind_some,
    Draft.foldlM_tableStatements (fun table member => (sheet.titled table member).2) distinct]
  rfl

theorem head?_writeTables (sheet : Sheet) :
    (writeTables sheet.pairs sheet.tables).head? ≠ some '\uFEFF' := by
  cases given : sheet.pairs with
  | nil =>
    cases sheet.tables with
    | nil => simp [writeTables]
    | cons table tables => simp [writeTables, writeHeader]
  | cons pair pairs =>
    have bare := sheet.root.bare pair (given ▸ List.mem_cons_self)
    obtain ⟨c, others, spelled, _, _, plain⟩ := bare.exists_cons
    simpa [writeTables, writePair, spelled] using plain.no_mark

theorem parse?_document (sheet : Sheet) : parse? sheet.document = some sheet.entries := by
  have unmarked : dropMark (writeTables sheet.pairs sheet.tables) =
      writeTables sheet.pairs sheet.tables := by
    unfold dropMark
    split
    · rename_i marked
      exact absurd (congrArg List.head? marked) sheet.head?_writeTables
    · rfl
  rw [parse?, document, String.toList_ofList, unmarked, statements?_writeTables sheet.root sheet.titled,
    Option.bind_eq_bind, Option.bind_some, ofStatements?_sheet]

end Sheet

end CommitAdmission.Toml
