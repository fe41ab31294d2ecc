import CommitAdmission.Unicode.Composition
import CommitAdmission.Unicode.LabelTables

namespace CommitAdmission.Unicode

def markRuns : List Run := readTable markTable

def joiningRuns : List Run := readTable joiningTable

def directionRuns : List Run := readTable directionTable

def isMark (c : Char) : Bool := 0x300 ≤ c.toNat && (find? markRuns c).isSome

def startsWithMark (label : List Char) : Bool := label.head?.any isMark

def nonJoiner : Char := '\u200C'

def joiner : Char := '\u200D'

/-- The class of the marks that silence the vowel of a letter. -/
def silencer : Nat := 9

/-- Whether the first character that is not transparent joins towards the place where it is seen
from. -/
def joinsFrom (sides : List String) (text : List Char) : Bool :=
  match (text.map (wordFor? joiningRuns)).dropWhile (· == some "T") with
  | some side :: _ => sides.contains side
  | _ => false

/-- Whether a character is no joiner, or one in its place: behind a silencing mark, or for the
non-joiner between two letters that would join. The text before it is given in reverse. -/
def joinerFits (before : List Char) (c : Char) (after : List Char) : Bool :=
  if c != nonJoiner && c != joiner then true
  else
    before.head?.any (fun last => combiningClass last == silencer) ||
      (c == nonJoiner && joinsFrom ["L", "D"] before && joinsFrom ["R", "D"] after)

def joinersFit (before : List Char) : List Char → Bool
  | [] => true
  | c :: after => joinerFits before c after && joinersFit (c :: before) after

/-- The direction of a character: `L` for left to right, and otherwise the word of the table. -/
def direction (c : Char) : String := (wordFor? directionRuns c).getD "L"

def isRightToLeft (label : List Char) : Bool :=
  label.any fun c => ["R", "AL", "AN"].contains (direction c)

/-- A label reads in one direction: it starts with a letter of that direction, holds only what may
stand among such letters, and ends with such a letter or a number, not counting marks. A label from
right to left does not mix two kinds of numbers. -/
def fitsDirection (label : List Char) : Bool :=
  let directions := label.map direction
  let neutral := ["EN", "ES", "CS", "ET", "ON", "BN", "NSM"]
  let ends := (directions.reverse.dropWhile (· == "NSM")).head?
  match directions.head? with
  | none => true
  | some "L" =>
    directions.all (("L" :: neutral).contains ·) && ends.any (["L", "EN"].contains ·)
  | some first =>
    ["R", "AL"].contains first &&
      directions.all ((["R", "AL", "AN"] ++ neutral).contains ·) &&
      ends.any (["R", "AL", "EN", "AN"].contains ·) &&
      !(directions.contains "EN" && directions.contains "AN")

end CommitAdmission.Unicode
