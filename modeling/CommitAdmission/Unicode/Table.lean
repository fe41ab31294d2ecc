import CommitAdmission.Text.Hex
import CommitAdmission.Text.Split

namespace CommitAdmission.Unicode

open Text

/-- A run of code points and what the table notes about it. A note that starts with an equals sign
has one text for each code point. -/
structure Run where
  first : Nat
  last : Nat
  note : List Char
  deriving DecidableEq, Repr

namespace Run

def read? (entry : List Char) : Option Run := do
  let first ← readHex? (entry.takeWhile isHexDigit)
  match entry.dropWhile isHexDigit with
  | '-' :: rest => return ⟨first, ← readHex? (rest.takeWhile isHexDigit), rest.dropWhile isHexDigit⟩
  | '=' :: texts => return ⟨first, first + texts.count ',', '=' :: texts⟩
  | note => return ⟨first, first, note⟩

def covers (run : Run) (c : Char) : Bool := run.first ≤ c.toNat && c.toNat ≤ run.last

def code? (digits : List Char) : Option Char := (readHex? digits).map Char.ofNat

def texts (run : Run) : List (List Char) :=
  (splitOn ',' (run.note.drop 1)).map fun text => (splitOn '.' text).filterMap code?

end Run

def readTable (table : String) : List Run := (words table.toList).filterMap Run.read?

def find? (table : List Run) (c : Char) : Option Run := table.find? (·.covers c)

def wordFor? (table : List Run) (c : Char) : Option String :=
  (find? table c).map fun run => String.ofList (run.note.drop 1)

end CommitAdmission.Unicode
