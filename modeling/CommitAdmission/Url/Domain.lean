import CommitAdmission.Unicode.Label
import CommitAdmission.Unicode.Mapping
import CommitAdmission.Url.Punycode

/-! Domain names: percent escapes, their characters and labels, and their spelling in ASCII. -/

namespace CommitAdmission.Url

open Text Unicode Punycode

def unescapeBytes : List UInt8 → List UInt8
  | byte :: high :: low :: rest =>
    if byte = 0x25 then
      match hexValue? (Char.ofNat high.toNat), hexValue? (Char.ofNat low.toNat) with
      | some a, some b => UInt8.ofNat (a * 16 + b) :: unescapeBytes rest
      | _, _ => byte :: unescapeBytes (high :: low :: rest)
    else byte :: unescapeBytes (high :: low :: rest)
  | bytes => bytes

def unescape? (text : List Char) : Option (List Char) :=
  let bytes := unescapeBytes (String.ofList text).toUTF8.toList
  (String.fromUTF8? (ByteArray.mk bytes.toArray)).map String.toList

def isForbidden (c : Char) : Bool :=
  c.toNat ≤ 0x20 || c.toNat == 0x7F || "#%/:<>?@[\\]^`\x7b|\x7d".toList.contains c

def encodedMark : List Char := "xn--".toList

/-- The text of a label. An encoded one must encode a text that needs it and is in its final form. -/
def labelText? (label : List Char) : Option (List Char) :=
  match after? encodedMark label with
  | none => some label
  | some encoded => do
    if !label.all isAscii then none
    let text ← decode? encoded
    if text.all isAscii || !text.all isKept || normalized text != text then none else some text

def writeLabel (text : List Char) : List Char :=
  if text.all isAscii then text else encodedMark ++ encode text

def isWellFormed (label : List Char) : Bool := !startsWithMark label && joinersFit [] label

def domain? (text : List Char) : Option (List Char) := do
  let name := normalized (← text.mapM mapped?).flatten
  if name.any isForbidden then none
  let labels ← (splitOn '.' name).mapM labelText?
  if !labels.all isWellFormed then none
  if labels.any isRightToLeft && !labels.all fitsDirection then none
  return joinWith ['.'] (labels.map writeLabel)

end CommitAdmission.Url
