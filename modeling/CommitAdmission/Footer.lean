import CommitAdmission.Text.Split

/-! Footers: the lines of the form key, colon, value in the last block of a commit message. -/

namespace CommitAdmission

open Text

structure Footer where
  key : String
  value : String
  deriving DecidableEq, Repr

namespace Footer

def changeIdKey : String := "Change-Id"

def signedOffByKey : String := "Signed-off-by"

def isKeyChar (c : Char) : Bool := c.isAlphanum || c == '-'

def ofLine? (line : List Char) : Option Footer :=
  match splitFirst? ':' line with
  | none => none
  | some (key, value) =>
    if key.isEmpty || !key.all isKeyChar then none
    else some ⟨String.ofList key, String.ofList (trim value)⟩

/-- The last run of lines that are not blank; the first line, the subject, is never part of it. -/
def block (lines : List (List Char)) : List (List Char) :=
  ((lines.drop 1).reverse.takeWhile (!allBlank ·)).reverse

def ofMessage (message : String) : List Footer :=
  (block (splitOn '\n' (dropFinalNewlines message.toList))).filterMap ofLine?

/-- Keys are compared without regard to the case of ASCII letters. -/
def sameKey (a b : String) : Bool :=
  a.toList.map Char.toLower == b.toList.map Char.toLower

def hasKey (footer : Footer) (key : String) : Bool := sameKey footer.key key

/-- The address in a value: the text between the first pair of angle brackets, or without an
opening bracket the whole value when it holds an at sign. -/
def emailIn? (value : List Char) : Option (List Char) :=
  match splitFirst? '<' value with
  | some (_, rest) => (splitFirst? '>' rest).map Prod.fst
  | none =>
    let address := trim value
    if address.contains '@' then some address else none

def email? (footer : Footer) : Option String :=
  (emailIn? footer.value.toList).map String.ofList

end Footer

def footerValues (message key : String) : List String :=
  ((Footer.ofMessage message).filter (·.hasKey key)).map Footer.value

end CommitAdmission
