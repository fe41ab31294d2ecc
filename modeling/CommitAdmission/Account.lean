import CommitAdmission.Text.Decimal
import CommitAdmission.Text.Ordered

namespace CommitAdmission

open Text

structure AccountId where
  number : UInt32
  deriving DecidableEq, Repr

structure User where
  account : AccountId
  userName : Option String
  displayName : Option String
  emails : TextSet
  deriving DecidableEq, Repr

namespace User

def ofAccount (number : UInt32) : User := ⟨⟨number⟩, none, none, .empty⟩

def hasEmail (user : User) (email : String) : Bool := user.emails.contains email

def loggableName (user : User) : String :=
  match user.userName, user.displayName with
  | some name, _ => name
  | none, some name => name
  | none, none => "a/" ++ decimalText user.account.number.toNat

end User

end CommitAdmission
