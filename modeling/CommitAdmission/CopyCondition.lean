import CommitAdmission.Text.Split

/-! Copy conditions: terms of the form operator, colon, value, joined by AND and OR, negated by NOT
or a leading minus, and grouped by parentheses. -/

namespace CommitAdmission.CopyCondition

open Text

def operators : List String := ["approverin", "changekind", "has", "is", "uploaderin"]

inductive Token
  | openGroup
  | closeGroup
  | joined (word : List Char)
  | negated
  | term (word : List Char)
  deriving DecidableEq, Repr

def isParenthesis (c : Char) : Bool := c == '(' || c == ')'

def spaced (query : List Char) : List Char :=
  query.flatMap fun c => if isParenthesis c then [' ', c, ' '] else [c]

def Token.ofWord (word : List Char) : Token :=
  if word = ['('] then .openGroup
  else if word = [')'] then .closeGroup
  else if word = "AND".toList ∨ word = "OR".toList then .joined word
  else if word = "NOT".toList then .negated
  else .term word

def tokens (query : List Char) : List Token := (words (spaced query)).map Token.ofWord

inductive Fault
  | unexpected (word : List Char)
  | missingOperator (word : List Char)
  | noOperator (word : List Char)
  | noValue (operator : List Char)
  | unsupported (operator : List Char)
  | incomplete
  | unbalanced
  deriving DecidableEq, Repr

def Fault.message : Fault → String
  | unexpected word => "unexpected '" ++ String.ofList word ++ "'"
  | missingOperator word => "missing operator before '" ++ String.ofList word ++ "'"
  | noOperator word => "'" ++ String.ofList word ++ "' is not an operator:value term"
  | noValue operator => "operator '" ++ String.ofList operator ++ "' needs a value"
  | unsupported operator => "unsupported operator '" ++ String.ofList operator ++ "'"
  | incomplete => "incomplete query"
  | unbalanced => "unbalanced parentheses"

def withoutMinus : List Char → List Char
  | '-' :: rest => rest
  | word => word

def checkTerm (word : List Char) : Except Fault Unit :=
  match splitFirst? ':' (withoutMinus word) with
  | none => .error (.noOperator (withoutMinus word))
  | some (operator, value) =>
    if value.isEmpty then .error (.noValue operator)
    else if !operators.contains (String.ofList operator) then .error (.unsupported operator)
    else .ok ()

/-- Where the reader of a condition stands: the groups that are open, and whether a term must come. -/
structure Place where
  depth : Int32
  wantsTerm : Bool
  deriving DecidableEq, Repr

def step (place : Place) : Token → Except Fault Place
  | .openGroup =>
    if place.wantsTerm then .ok { place with depth := place.depth + 1 }
    else .error (.unexpected ['('])
  | .closeGroup =>
    if place.wantsTerm ∨ place.depth = 0 then .error (.unexpected [')'])
    else .ok { place with depth := place.depth - 1 }
  | .joined word =>
    if place.wantsTerm then .error (.unexpected word) else .ok { place with wantsTerm := true }
  | .negated =>
    if place.wantsTerm then .ok place else .error (.unexpected "NOT".toList)
  | .term word =>
    if place.wantsTerm then (checkTerm word).map fun _ => { place with wantsTerm := false }
    else .error (.missingOperator word)

def finish (place : Place) : Except Fault Unit :=
  if place.wantsTerm then .error .incomplete
  else if place.depth ≠ 0 then .error .unbalanced
  else .ok ()

def check (query : String) : Except Fault Unit :=
  ((tokens query.toList).foldlM step ⟨0, true⟩).bind finish

end CommitAdmission.CopyCondition
