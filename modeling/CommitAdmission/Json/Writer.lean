import CommitAdmission.Json.Value
import CommitAdmission.Text.Decimal
import CommitAdmission.Text.Hex

/-! Writing JSON: on one line without spaces, or on indented lines. -/

namespace CommitAdmission.Json

open Text

/-- A character in a string literal: the quote, the backslash and the control characters are
escaped, by one letter where there is one. -/
def escaped (c : Char) : List Char :=
  if c = '"' then ['\\', '"']
  else if c = '\\' then ['\\', '\\']
  else if c = '\x08' then ['\\', 'b']
  else if c = '\x0c' then ['\\', 'f']
  else if c = '\n' then ['\\', 'n']
  else if c = '\r' then ['\\', 'r']
  else if c = '\t' then ['\\', 't']
  else if c.toNat < 0x20 then
    ['\\', 'u', '0', '0', hexDigit (c.toNat / 16), hexDigit (c.toNat % 16)]
  else [c]

def quoted (content : List Char) : List Char := '"' :: content.flatMap escaped ++ ['"']

/-- A literal that denotes no text is written as the empty one. -/
def writeLiteral (literal : Literal) : List Char := quoted (literal.getD "").toList

def writeScalar : Scalar → List Char
  | .null => "null".toList
  | .bool true => "true".toList
  | .bool false => "false".toList
  | .number (.natural value) => decimal value
  | .number (.other spelling) => spelling.toList
  | .text content => writeLiteral content

mutual

def write : Json → List Char
  | .scalar value => writeScalar value
  | .array [] => ['[', ']']
  | .array (item :: rest) => '[' :: write item ++ writeItems rest
  | .object [] => ['{', '}']
  | .object ((key, value) :: rest) =>
    '{' :: writeLiteral key ++ ':' :: write value ++ writeMembers rest

def writeItems : List Json → List Char
  | [] => [']']
  | item :: rest => ',' :: write item ++ writeItems rest

def writeMembers : List (Literal × Json) → List Char
  | [] => ['}']
  | (key, value) :: rest => ',' :: writeLiteral key ++ ':' :: write value ++ writeMembers rest

end

def newline (depth : Nat) : List Char := '\n' :: List.replicate (2 * depth) ' '

mutual

/-- The value on several lines: each item and each member on its own, two spaces per level. -/
def writeLines (depth : Nat) : Json → List Char
  | .scalar value => writeScalar value
  | .array [] => ['[', ']']
  | .array (item :: rest) =>
    '[' :: newline (depth + 1) ++ writeLines (depth + 1) item ++ writeItemLines depth rest
  | .object [] => ['{', '}']
  | .object ((key, value) :: rest) =>
    '{' :: newline (depth + 1) ++ writeLiteral key ++ ':' :: ' ' :: writeLines (depth + 1) value ++
      writeMemberLines depth rest

def writeItemLines (depth : Nat) : List Json → List Char
  | [] => newline depth ++ [']']
  | item :: rest =>
    ',' :: newline (depth + 1) ++ writeLines (depth + 1) item ++ writeItemLines depth rest

def writeMemberLines (depth : Nat) : List (Literal × Json) → List Char
  | [] => newline depth ++ ['}']
  | (key, value) :: rest =>
    ',' :: newline (depth + 1) ++ writeLiteral key ++ ':' :: ' ' :: writeLines (depth + 1) value ++
      writeMemberLines depth rest

end

def compact (value : Json) : String := String.ofList value.write

def pretty (value : Json) : String := String.ofList (value.writeLines 0)

end CommitAdmission.Json
