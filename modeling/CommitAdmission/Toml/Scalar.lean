import CommitAdmission.Text.Decimal
import CommitAdmission.Text.Hex
import CommitAdmission.Toml.Value

/-! TOML scalars that are written without quotes: booleans, numbers, dates and times. -/

namespace CommitAdmission.Toml

open Text

def isWordChar (c : Char) : Bool :=
  c.isAlphanum || c == '+' || c == '-' || c == '.' || c == ':' || c == '_'

/-- The digits of a number in which single underscores may stand between digits. -/
def ungrouped? (valid : Char → Bool) (text : List Char) : Option (List Char) :=
  let groups := splitOn '_' text
  if groups.all fun group => !group.isEmpty && group.all valid then some groups.flatten else none

def withinInt64? (value : Int) : Option Int :=
  if -0x8000000000000000 ≤ value ∧ value < 0x8000000000000000 then some value else none

def baseInteger? (base : Nat) (valid : Char → Bool) (text : List Char) : Option Int := do
  let digits ← ungrouped? valid text
  withinInt64? (digits.foldl (fun value c => value * base + (hexValue? c).getD 0) 0 : Nat)

def splitSign : List Char → Bool × List Char
  | '-' :: rest => (true, rest)
  | '+' :: rest => (false, rest)
  | digits => (false, digits)

def wholeDigits? (text : List Char) : Option (List Char) :=
  if text.head? = some '0' ∧ text ≠ ['0'] then none else ungrouped? isDigit text

def integer? (text : List Char) : Option Int :=
  match text with
  | '0' :: 'x' :: digits => baseInteger? 16 isHexDigit digits
  | '0' :: 'o' :: digits => baseInteger? 8 (fun c => '0' ≤ c && c ≤ '7') digits
  | '0' :: 'b' :: digits => baseInteger? 2 (fun c => c == '0' || c == '1') digits
  | _ => do
    let (negative, unsigned) := splitSign text
    let magnitude : Int := digitsValue (← wholeDigits? unsigned)
    withinInt64? (if negative then -magnitude else magnitude)

/-- Whether digits with a decimal exponent round to infinity as a 64-bit float. -/
def isHuge (digits : List Char) (exponent : Int) : Bool :=
  let significant := digits.dropWhile (· == '0')
  let order := significant.length + exponent
  let limit := 1 <<< 1024 - 1 <<< 970
  if significant.isEmpty || order < 300 then false
  else if 320 < order then true
  else if exponent < 0 then limit * Nat.pow 10 exponent.natAbs ≤ digitsValue significant
  else limit ≤ digitsValue significant * Nat.pow 10 exponent.natAbs

def splitExponent? (text : List Char) : Option (List Char × Option Int) :=
  let isMark := fun c => c == 'e' || c == 'E'
  match text.dropWhile (!isMark ·) with
  | [] => some (text, none)
  | _ :: written => do
    let (negative, unsigned) := splitSign written
    let magnitude : Int := digitsValue (← ungrouped? isDigit unsigned)
    return (text.takeWhile (!isMark ·), some (if negative then -magnitude else magnitude))

/-- Floats have a fraction or an exponent or both, and a positive one must not be too large. -/
def isFloat (text : List Char) : Bool :=
  let (negative, unsigned) := splitSign text
  if unsigned == "inf".toList || unsigned == "nan".toList then true
  else
    match splitExponent? unsigned with
    | none => false
    | some (mantissa, exponent?) =>
      match splitFirst? '.' mantissa with
      | none =>
        match wholeDigits? mantissa, exponent? with
        | some digits, some exponent => negative || !isHuge digits exponent
        | _, _ => false
      | some (whole, fraction) =>
        match wholeDigits? whole, ungrouped? isDigit fraction with
        | some before, some after =>
          negative || !isHuge (before ++ after) (exponent?.getD 0 - after.length)
        | _, _ => false

def fixedWidth? (width : Nat) (text : List Char) : Option Nat :=
  if text.length = width ∧ text.all isDigit then some (digitsValue text) else none

def daysIn (year month : Nat) : Nat :=
  if month = 2 then
    if year % 4 = 0 ∧ (year % 100 ≠ 0 ∨ year % 400 = 0) then 29 else 28
  else if month = 4 ∨ month = 6 ∨ month = 9 ∨ month = 11 then 30
  else 31

def isDate (text : List Char) : Bool :=
  match (splitOn '-' text) with
  | [year, month, day] =>
    match fixedWidth? 4 year, fixedWidth? 2 month, fixedWidth? 2 day with
    | some year, some month, some day =>
      1 ≤ month && month ≤ 12 && 1 ≤ day && day ≤ daysIn year month
    | _, _, _ => false
  | _ => false

def isBelow (bound : Nat) (text : List Char) : Bool :=
  match fixedWidth? 2 text with
  | some value => value < bound
  | none => false

/-- Hours, minutes and seconds, with a fraction of a second; a leap second is allowed. -/
def isTime (text : List Char) : Bool :=
  let (clock, fraction?) := match splitFirst? '.' text with
    | some (clock, fraction) => (clock, some fraction)
    | none => (text, none)
  let fractionOk := match fraction? with
    | some fraction => !fraction.isEmpty && fraction.all isDigit
    | none => true
  match splitOn ':' clock with
  | [hour, minute, second] => isBelow 24 hour && isBelow 60 minute && isBelow 61 second && fractionOk
  | _ => false

def isOffset (text : List Char) : Bool :=
  match splitOn ':' text with
  | [hour, minute] => isBelow 24 hour && isBelow 60 minute
  | _ => false

def isOffsetTime (text : List Char) : Bool :=
  let isSign := fun c => c == '+' || c == '-'
  match text.dropWhile (!isSign ·) with
  | _ :: offset => isTime (text.takeWhile (!isSign ·)) && isOffset offset
  | [] =>
    match text.getLast? with
    | some 'Z' | some 'z' => isTime text.dropLast
    | _ => isTime text

/-- A date, a time, or a date and a time with a letter or a space between them. -/
def isMoment (text : List Char) : Bool :=
  isDate text || isTime text ||
    (isDate (text.take 10) &&
      match text.drop 10 with
      | 'T' :: time | 't' :: time | ' ' :: time => isOffsetTime time
      | _ => false)

def ofWord? (word : List Char) : Option Toml :=
  if word = "true".toList then some (.bool true)
  else if word = "false".toList then some (.bool false)
  else if isMoment word then some (.moment (String.ofList word))
  else if isFloat word then some (.float (String.ofList word))
  else (integer? word).map .integer

/-- The word at the start of a text; a date takes the time that follows it after one space. -/
def splitWord (text : List Char) : List Char × List Char :=
  let word := text.takeWhile isWordChar
  let rest := text.dropWhile isWordChar
  match rest with
  | ' ' :: c :: tail =>
    if isDate word && isDigit c then
      (word ++ ' ' :: (c :: tail).takeWhile isWordChar, (c :: tail).dropWhile isWordChar)
    else (word, rest)
  | _ => (word, rest)

end CommitAdmission.Toml
