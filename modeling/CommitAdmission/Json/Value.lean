/-! JSON values as a document spells them: members keep their order and may repeat. -/

namespace CommitAdmission

namespace Json

/-- How a number is spelled: as a plain natural number, or in any other way (with a sign, a fraction
or an exponent). -/
inductive Numeral
  | natural (value : Nat)
  | other (spelling : String)
  deriving DecidableEq, Repr

/-- A string literal denotes a text, or none if its escapes leave half of a surrogate pair. -/
abbrev Literal := Option String

inductive Scalar
  | null
  | bool (value : Bool)
  | number (value : Numeral)
  | text (content : Literal)
  deriving DecidableEq, Repr

end Json

inductive Json
  | scalar (value : Json.Scalar)
  | array (items : List Json)
  | object (members : List (Json.Literal × Json))
  deriving Repr

namespace Json

@[match_pattern] abbrev null : Json := .scalar .null

@[match_pattern] abbrev bool (value : Bool) : Json := .scalar (.bool value)

@[match_pattern] abbrev natural (value : Nat) : Json := .scalar (.number (.natural value))

@[match_pattern] abbrev text (content : String) : Json := .scalar (.text (some content))

def ofMembers (members : List (String × Json)) : Json :=
  .object (members.map fun member => (some member.1, member.2))

def member? (key : String) : Json → Option Json
  | .object members => members.reverse.lookup (some key)
  | _ => none

def lastMembers : List (Literal × Json) → List (Literal × Json)
  | [] => []
  | member :: rest =>
    if rest.any (·.1 == member.1) then lastMembers rest else member :: lastMembers rest

mutual

/-- The value in which, at every depth, the last of several members with one key counts. -/
def settled : Json → Json
  | .scalar value => .scalar value
  | .array items => .array (settledItems items)
  | .object members => .object (lastMembers (settledMembers members))

def settledItems : List Json → List Json
  | [] => []
  | item :: rest => settled item :: settledItems rest

def settledMembers : List (Literal × Json) → List (Literal × Json)
  | [] => []
  | (key, value) :: rest => (key, settled value) :: settledMembers rest

end

end Json

end CommitAdmission
