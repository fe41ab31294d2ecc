import CommitAdmission.Unicode.InvisibleTable
import CommitAdmission.Unicode.Table

namespace CommitAdmission.Text

open Unicode

def invisibleRuns : List Run := readTable invisibleTable

def isInvisible (c : Char) : Bool :=
  if c.toNat < 0x7F then c.toNat < 0x20 else (find? invisibleRuns c).isSome

def escapedInvisible (c : Char) : List Char :=
  if c = '\x00' then ['\\', '0']
  else if c = '\t' then ['\\', 't']
  else if c = '\n' then ['\\', 'n']
  else if c = '\r' then ['\\', 'r']
  else if c = '\\' then ['\\', '\\']
  else if isInvisible c then ['\\', 'u', '{'] ++ hexadecimal c.toNat ++ ['}']
  else [c]

def quotedWith (escapes : Char → Bool) (text : String) : String :=
  String.ofList <| '"' :: (text.toList.flatMap fun c =>
    if escapes c then ['\\', c] else escapedInvisible c) ++ ['"']

def quotedText (text : String) : String := quotedWith (· == '"') text

/-- The path of a file in double quotes; single quotes in it are escaped as well. -/
def quotedPath (path : String) : String := quotedWith (fun c => c == '"' || c == '\'') path

end CommitAdmission.Text
