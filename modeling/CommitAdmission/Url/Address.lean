import CommitAdmission.Text.Decimal
import CommitAdmission.Text.Hex

namespace CommitAdmission.Url

open Text

def isOctalDigit (c : Char) : Bool := '0' ≤ c && c ≤ '7'

def readBase? (base : Nat) (valid : Char → Bool) (digits : List Char) : Option Nat :=
  if digits.all valid then
    some (digits.foldl (fun value c => value * base + (hexValue? c).getD 0) 0)
  else none

/-- A part of a version 4 address: hexadecimal after `0x`, octal after another leading zero, and
decimal otherwise. -/
def ipv4Number? : List Char → Option Nat
  | [] => none
  | '0' :: 'x' :: digits => readBase? 16 isHexDigit digits
  | '0' :: 'X' :: digits => readBase? 16 isHexDigit digits
  | '0' :: c :: digits => readBase? 8 isOctalDigit (c :: digits)
  | digits => readBase? 10 isDigit digits

/-- The parts between dots; a final dot closes the last part. -/
def dottedParts (text : List Char) : List (List Char) :=
  let parts := splitOn '.' text
  if 1 < parts.length && parts.getLast? == some [] then parts.dropLast else parts

/-- A host whose last part is a number must be a version 4 address. -/
def endsInNumber (text : List Char) : Bool :=
  match (dottedParts text).getLast? with
  | none => false
  | some last => (!last.isEmpty && last.all isDigit) || (ipv4Number? last).isSome

/-- The address of up to four numbers: all but the last give one byte each, the last gives the
remaining bytes. -/
def ipv4OfNumbers? : List Nat → Option Nat
  | [a] => if a < 0x100000000 then some a else none
  | [a, b] => if a < 256 ∧ b < 0x1000000 then some (a * 0x1000000 + b) else none
  | [a, b, c] =>
    if a < 256 ∧ b < 256 ∧ c < 0x10000 then some (a * 0x1000000 + b * 0x10000 + c) else none
  | [a, b, c, d] =>
    if a < 256 ∧ b < 256 ∧ c < 256 ∧ d < 256 then
      some (a * 0x1000000 + b * 0x10000 + c * 0x100 + d)
    else none
  | _ => none

def ipv4? (text : List Char) : Option Nat := do
  ipv4OfNumbers? (← (dottedParts text).mapM ipv4Number?)

def writeIpv4 (address : Nat) : List Char :=
  joinWith ['.'] ([0x1000000, 0x10000, 0x100, 1].map fun weight => decimal (address / weight % 256))

def strictByte? (digits : List Char) : Option Nat :=
  if digits.head? = some '0' ∧ digits ≠ ['0'] then none else readDigits? 256 digits

def quadGroups? (text : List Char) : Option (List Nat) :=
  match (splitOn '.' text).mapM strictByte? with
  | some [a, b, c, d] => some [a * 256 + b, c * 256 + d]
  | _ => none

def group? (digits : List Char) : Option Nat :=
  if digits.isEmpty || 4 < digits.length then none else readHex? digits

/-- The groups between colons; only the last may be a dotted quad. -/
def groupsOf? : List (List Char) → Option (List Nat)
  | [] => some []
  | [last] => if last.contains '.' then quadGroups? last else (group? last).map ([·])
  | piece :: pieces => do
    let group ← group? piece
    let groups ← groupsOf? pieces
    return group :: groups

def splitDoubleColon? : List Char → Option (List Char × List Char)
  | ':' :: ':' :: rest => some ([], rest)
  | c :: rest => (splitDoubleColon? rest).map fun halves => (c :: halves.1, halves.2)
  | [] => none

def ipv6Groups? (text : List Char) : Option (List Nat) :=
  if text.isEmpty then some [] else groupsOf? (splitOn ':' text)

/-- The eight groups of a version 6 address; two colons stand for at least one group of zeros. -/
def ipv6? (text : List Char) : Option (List Nat) :=
  match splitDoubleColon? text with
  | none => do
    let groups ← ipv6Groups? text
    if groups.length = 8 then some groups else none
  | some (before, after) =>
    if before.contains '.' then none
    else do
      let first ← ipv6Groups? before
      let last ← ipv6Groups? after
      if first.length + last.length < 8 then
        some (first ++ List.replicate (8 - first.length - last.length) 0 ++ last)
      else none

def leadingZeros (groups : List Nat) : Nat := (groups.takeWhile (· == 0)).length

/-- The start and the length of the longest run of at least two zeros; of equal runs the first. -/
def zeroRun? (groups : List Nat) : Option (Nat × Nat) :=
  (List.range groups.length).foldl
    (fun best start =>
      let length := leadingZeros (groups.drop start)
      let longest := (best.map Prod.snd).getD 1
      if longest < length then some (start, length) else best) none

def writeGroups (groups : List Nat) : List Char := joinWith [':'] (groups.map hexadecimal)

def writeIpv6 (groups : List Nat) : List Char :=
  match zeroRun? groups with
  | none => writeGroups groups
  | some (start, length) =>
    writeGroups (groups.take start) ++ [':', ':'] ++ writeGroups (groups.drop (start + length))

end CommitAdmission.Url
