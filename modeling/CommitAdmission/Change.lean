import CommitAdmission.Project
import CommitAdmission.RefName

namespace CommitAdmission

open Text

structure Change where
  number : UInt32
  key : String
  project : ProjectName
  destination : String
  deriving DecidableEq, Repr

structure PatchSetId where
  change : UInt32
  number : UInt32
  deriving DecidableEq, Repr

namespace PatchSetId

def display (patchSet : PatchSetId) : String :=
  String.ofList (decimal patchSet.change.toNat ++ ',' :: decimal patchSet.number.toNat)

/-- The ref of a patch set: the last two digits of the change come first, as its shard. -/
def refName (patchSet : PatchSetId) : String :=
  String.ofList (RefName.changesSpace.toList ++ twoDigits (patchSet.change.toNat % 100) ++
    '/' :: decimal patchSet.change.toNat ++ '/' :: decimal patchSet.number.toNat)

end PatchSetId

structure RefUpdate where
  ref : String
  oldId : ObjectId
  newId : ObjectId
  deriving DecidableEq, Repr

end CommitAdmission
