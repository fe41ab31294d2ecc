import CommitAdmission.Unicode.MappingTable
import CommitAdmission.Unicode.Table

namespace CommitAdmission.Unicode

open Text

def mappingRuns : List Run := readTable mappingTable

def Run.mapped? (run : Run) (c : Char) : Option (List Char) :=
  match run.note with
  | [] => some [c]
  | ['!'] => some []
  | ['^'] => some [if (c.toNat - run.first) % 2 = 0 then Char.ofNat (c.toNat + 1) else c]
  | '>' :: target => (readHex? target).map fun start => [Char.ofNat (start + (c.toNat - run.first))]
  | _ => run.texts[c.toNat - run.first]?

/-- What stands for a character in a domain name, if it may occur in one. Letters are in lower case. -/
def mapped? (c : Char) : Option (List Char) :=
  if c.toNat < 0x80 then some [c.toLower] else (find? mappingRuns c).bind (·.mapped? c)

def isKept (c : Char) : Bool := mapped? c == some [c]

end CommitAdmission.Unicode
