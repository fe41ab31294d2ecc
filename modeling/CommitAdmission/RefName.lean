import CommitAdmission.Text.Decimal

namespace CommitAdmission.RefName

open Text

def headsSpace : String := "refs/heads/"

def changesSpace : String := "refs/changes/"

def reviewSpace : String := "refs/for/"

def projectConfig : String := "refs/meta/config"

def groupNames : String := "refs/meta/group-names"

def isUnder (space ref : String) : Bool := startsWith space.toList ref.toList

def isMagic (ref : String) : Bool := isUnder reviewSpace ref

def isGroup (ref : String) : Bool :=
  isUnder "refs/groups/" ref || isUnder "refs/deleted-groups/" ref || ref == groupNames

/-- Entries of a diff that stand for no file of the tree. -/
def magicPaths : List String := ["/COMMIT_MSG", "/MERGE_LIST", "/PATCHSET_LEVEL"]

def isMagicPath (path : String) : Bool := magicPaths.contains path

/-- A shard is written with exactly two digits. -/
def isShard (piece : List Char) : Bool := piece.length == 2 && piece.all isDigit

def isNumeral (piece : List Char) : Bool :=
  piece.all isDigit && !piece.isEmpty && piece.head? != some '0'

/-- The piece that names the change: a shard may stand before it and a patch set number after it.
Two pieces that allow both readings are a shard and a change. -/
def changePiece? : List (List Char) → Option (List Char)
  | [change] => if isNumeral change then some change else none
  | [first, second] =>
    if isShard first && isNumeral second then some second
    else if isNumeral first && isNumeral second then some first
    else none
  | [shard, change, patchSet] =>
    if isShard shard && isNumeral change && isNumeral patchSet then some change else none
  | _ => none

def newPatchSetChange? (ref : String) : Option UInt32 := do
  let rest ← after? changesSpace.toList ref.toList
  let change ← changePiece? (splitOn '/' rest)
  let number ← readDigits? UInt32.size change
  return UInt32.ofNat number

end CommitAdmission.RefName
