import CommitAdmission.Json.Value
import CommitAdmission.Text.Decimal
import CommitAdmission.Text.Hex

namespace CommitAdmission.Json

open Text

inductive Token
  | openArray
  | closeArray
  | openObject
  | closeObject
  | comma
  | colon
  | scalar (value : Scalar)
  deriving DecidableEq, Repr

def isSpace (c : Char) : Bool := c == ' ' || c == '\n' || c == '\r' || c == '\t'

/-- A character of a string literal: itself, or a four-digit escape with its UTF-16 unit. -/
inductive Piece
  | char (c : Char)
  | escaped (unit : Nat)
  deriving DecidableEq, Repr

def isHighSurrogate (unit : Nat) : Bool := 0xD800 ≤ unit && unit ≤ 0xDBFF

def isLowSurrogate (unit : Nat) : Bool := 0xDC00 ≤ unit && unit ≤ 0xDFFF

def joinSurrogates (high low : Nat) : Char :=
  Char.ofNat (0x10000 + (high - 0xD800) * 0x400 + (low - 0xDC00))

/-- The text of a literal; surrogates must come in pairs, high before low. -/
def textOf? : List Piece → Option (List Char)
  | [] => some []
  | .char c :: rest => (textOf? rest).map (c :: ·)
  | .escaped unit :: rest =>
    if isHighSurrogate unit then
      match rest with
      | .escaped low :: rest' =>
        if isLowSurrogate low then (textOf? rest').map (joinSurrogates unit low :: ·) else none
      | _ => none
    else if isLowSurrogate unit then none
    else (textOf? rest).map (Char.ofNat unit :: ·)

def shortEscape? : Char → Option Char
  | '"' => some '"'
  | '\\' => some '\\'
  | '/' => some '/'
  | 'b' => some '\x08'
  | 'f' => some '\x0c'
  | 'n' => some '\n'
  | 'r' => some '\r'
  | 't' => some '\t'
  | _ => none

def scanPieces? : List Char → Option (List Piece × List Char)
  | [] => none
  | c :: rest =>
    if c = '"' then some ([], rest)
    else if c = '\\' then
      match rest with
      | [] => none
      | e :: rest' =>
        if e = 'u' then
          match rest' with
          | h₁ :: h₂ :: h₃ :: h₄ :: after =>
            match readHex? [h₁, h₂, h₃, h₄], scanPieces? after with
            | some unit, some (pieces, final) => some (.escaped unit :: pieces, final)
            | _, _ => none
          | _ => none
        else
          match shortEscape? e, scanPieces? rest' with
          | some plain, some (pieces, final) => some (.char plain :: pieces, final)
          | _, _ => none
    else if c.toNat < 0x20 then none
    else
      match scanPieces? rest with
      | some (pieces, final) => some (.char c :: pieces, final)
      | none => none

theorem length_of_scanPieces? {text : List Char} {pieces : List Piece} {rest : List Char}
    (found : scanPieces? text = some (pieces, rest)) : rest.length < text.length := by
  fun_induction scanPieces? text generalizing pieces rest
  case case1 => simp at found
  all_goals simp only [List.length_cons]
  all_goals grind

def scanLiteral? (text : List Char) : Option (Literal × List Char) :=
  (scanPieces? text).map fun found => ((textOf? found.1).map String.ofList, found.2)

def afterDigits? : List Char → Option (List Char)
  | [] => none
  | c :: rest => if isDigit c then some (rest.dropWhile isDigit) else none

/-- What follows the whole part of a number: a zero, or digits that do not start with one. -/
def afterWhole? : List Char → Option (List Char)
  | [] => none
  | c :: rest => if c = '0' then some rest else afterDigits? (c :: rest)

def afterFraction? : List Char → Option (List Char)
  | [] => some []
  | c :: rest => if c = '.' then afterDigits? rest else some (c :: rest)

def afterExponent? : List Char → Option (List Char)
  | [] => some []
  | c :: rest =>
    if c = 'e' ∨ c = 'E' then
      match rest with
      | [] => none
      | sign :: digits => if sign = '+' ∨ sign = '-' then afterDigits? digits else afterDigits? rest
    else some (c :: rest)

theorem length_of_afterDigits? {text rest : List Char} (found : afterDigits? text = some rest) :
    rest.length < text.length := by
  unfold afterDigits? at found
  split at found
  · simp at found
  · next c tail =>
    have := length_dropWhile_le isDigit tail
    grind

theorem length_of_afterWhole? {text rest : List Char} (found : afterWhole? text = some rest) :
    rest.length < text.length := by
  unfold afterWhole? at found
  split at found
  · simp at found
  · split at found
    · grind
    · exact length_of_afterDigits? found

theorem length_of_afterFraction? {text rest : List Char} (found : afterFraction? text = some rest) :
    rest.length ≤ text.length := by
  unfold afterFraction? at found
  split at found
  · simp_all
  · split at found
    · have := length_of_afterDigits? found
      grind
    · grind

theorem length_of_afterExponent? {text rest : List Char} (found : afterExponent? text = some rest) :
    rest.length ≤ text.length := by
  unfold afterExponent? at found
  split at found
  · simp_all
  · split at found
    · split at found
      · simp at found
      · split at found
        · have := length_of_afterDigits? found
          grind
        · have := length_of_afterDigits? found
          grind
    · grind

/-- Reads a number without a sign, and tells whether it is a plain natural number. -/
def scanUnsigned? (text : List Char) : Option (Bool × List Char) := do
  let afterWhole ← afterWhole? text
  let afterFraction ← afterFraction? afterWhole
  let rest ← afterExponent? afterFraction
  return (rest.length == afterWhole.length, rest)

theorem length_of_scanUnsigned? {text rest : List Char} {plain : Bool}
    (found : scanUnsigned? text = some (plain, rest)) : rest.length < text.length := by
  simp only [scanUnsigned?, Option.bind_eq_bind, Option.bind_eq_some_iff, Option.pure_def,
    Option.some.injEq, Prod.mk.injEq] at found
  obtain ⟨_, whole, _, fraction, _, exponent, _, rfl⟩ := found
  have h₁ := length_of_afterWhole? whole
  have h₂ := length_of_afterFraction? fraction
  have h₃ := length_of_afterExponent? exponent
  omega

def scanNumber? : List Char → Option (Numeral × List Char)
  | [] => none
  | c :: tail =>
    if c = '-' then
      (scanUnsigned? tail).map fun found =>
        (.other (String.ofList ((c :: tail).take (tail.length + 1 - found.2.length))), found.2)
    else
      (scanUnsigned? (c :: tail)).map fun found =>
        let spelling := (c :: tail).take (tail.length + 1 - found.2.length)
        (if found.1 then .natural (digitsValue spelling) else .other (String.ofList spelling), found.2)

theorem length_of_scanNumber? {text rest : List Char} {value : Numeral}
    (found : scanNumber? text = some (value, rest)) : rest.length < text.length := by
  unfold scanNumber? at found
  split at found
  · simp at found
  · split at found
    · simp only [Option.map_eq_some_iff, Prod.mk.injEq] at found
      obtain ⟨⟨_, _⟩, scanned, _, rfl⟩ := found
      have := length_of_scanUnsigned? scanned
      simp only [List.length_cons]
      omega
    · simp only [Option.map_eq_some_iff, Prod.mk.injEq] at found
      obtain ⟨⟨_, _⟩, scanned, _, rfl⟩ := found
      exact length_of_scanUnsigned? scanned

def wordScalar? (text : List Char) : Option (Scalar × List Char) :=
  match after? "null".toList text with
  | some rest => some (.null, rest)
  | none =>
    match after? "true".toList text with
    | some rest => some (.bool true, rest)
    | none => (after? "false".toList text).map fun rest => (.bool false, rest)

theorem length_of_wordScalar? {text rest : List Char} {value : Scalar}
    (found : wordScalar? text = some (value, rest)) : rest.length < text.length := by
  unfold wordScalar? at found
  split at found
  · next h => have := length_of_after? h; simp at found this; grind
  · split at found
    · next h => have := length_of_after? h; simp at found this; grind
    · simp only [Option.map_eq_some_iff, Prod.mk.injEq] at found
      obtain ⟨_, h, _, rfl⟩ := found
      have := length_of_after? h
      simp at this
      omega

def punctuation? : Char → Option Token
  | '[' => some .openArray
  | ']' => some .closeArray
  | '{' => some .openObject
  | '}' => some .closeObject
  | ',' => some .comma
  | ':' => some .colon
  | _ => none

def firstToken? : List Char → Option (Token × List Char)
  | [] => none
  | c :: rest =>
    match punctuation? c with
    | some token => some (token, rest)
    | none =>
      if c = '"' then (scanLiteral? rest).map fun found => (.scalar (.text found.1), found.2)
      else
        match wordScalar? (c :: rest) with
        | some (value, after) => some (.scalar value, after)
        | none => (scanNumber? (c :: rest)).map fun found => (.scalar (.number found.1), found.2)

theorem length_of_firstToken? {text rest : List Char} {token : Token}
    (found : firstToken? text = some (token, rest)) : rest.length < text.length := by
  unfold firstToken? at found
  split at found
  · simp at found
  · split at found
    · simp at found; simp [found]
    · split at found
      · simp only [scanLiteral?, Option.map_map, Option.map_eq_some_iff, Prod.mk.injEq,
          Function.comp] at found
        obtain ⟨⟨_, _⟩, scanned, _, rfl⟩ := found
        have := length_of_scanPieces? scanned
        simp only [List.length_cons]
        omega
      · split at found
        · next h =>
          simp only [Option.some.injEq, Prod.mk.injEq] at found
          obtain ⟨_, rfl⟩ := found
          exact length_of_wordScalar? h
        · simp only [Option.map_eq_some_iff, Prod.mk.injEq] at found
          obtain ⟨⟨_, _⟩, scanned, _, rfl⟩ := found
          exact length_of_scanNumber? scanned

def tokens? (text : List Char) : Option (List Token) :=
  match _trimmed : text.dropWhile isSpace with
  | [] => some []
  | c :: tail =>
    match _found : firstToken? (c :: tail) with
    | none => none
    | some (token, rest) => (tokens? rest).map (token :: ·)
termination_by text.length
decreasing_by
  have shorter := length_of_firstToken? _found
  have bound := length_dropWhile_le isSpace text
  rw [_trimmed] at bound
  omega

end CommitAdmission.Json
