import CommitAdmission.Footer
import CommitAdmission.ObjectId

namespace CommitAdmission

open Text

structure Person where
  name : String
  email : String
  deriving DecidableEq, Repr

def Person.display (person : Person) : String := person.name ++ " <" ++ person.email ++ ">"

structure Commit where
  id : ObjectId
  parents : List ObjectId
  author : Person
  committer : Person
  message : String
  deriving DecidableEq, Repr

namespace Commit

def isMerge (commit : Commit) : Bool := commit.parents.length > 1

/-- The first paragraph on one line: each line loses its blank end, and a space joins the lines. -/
def subjectOf (message : List Char) : List Char :=
  joinWith [' '] ((splitOn '\n' (trim (beforeEmptyLine message))).map trimEnd)

def subject (commit : Commit) : String := String.ofList (subjectOf commit.message.toList)

def footers (commit : Commit) : List Footer := Footer.ofMessage commit.message

def footerValues (commit : Commit) (key : String) : List String :=
  CommitAdmission.footerValues commit.message key

end Commit

end CommitAdmission
