import CommitAdmission.Url.Address
import CommitAdmission.Url.Domain

namespace CommitAdmission.Url

open Text

inductive Host
  | domain (name : List Char)
  | ipv4 (address : Nat)
  | ipv6 (groups : List Nat)
  deriving DecidableEq, Repr

namespace Host

def write : Host → List Char
  | domain name => name
  | ipv4 address => writeIpv4 address
  | ipv6 groups => '[' :: writeIpv6 groups ++ [']']

def bracketed? (text : List Char) : Option Host :=
  if text.getLast? = some ']' then (ipv6? text.dropLast).map ipv6 else none

def ofWeb? : List Char → Option Host
  | '[' :: text => bracketed? text
  | text => do
    let name ← domain? (← unescape? text)
    if name.isEmpty then none
    else if endsInNumber name then (ipv4? name).map ipv4
    else some (domain name)

def isForbiddenElsewhere (c : Char) : Bool := "\x00\t\n\r #/:<>?@[\\]^|".toList.contains c

def percentEscaped (byte : UInt8) : List Char := '%' :: (hexByte byte).map Char.toUpper

/-- A character of such a host: controls and all beyond ASCII are escaped. -/
def escapeElsewhere (c : Char) : List Char :=
  if c.toNat < 0x20 || 0x7F ≤ c.toNat then c.toString.toUTF8.toList.flatMap percentEscaped else [c]

/-- The host of a URL with any other scheme keeps its spelling. -/
def ofOther? : List Char → Option Host
  | '[' :: text => bracketed? text
  | text => if text.any isForbiddenElsewhere then none else some (domain (text.flatMap escapeElsewhere))

end Host

/-- Control characters and the space are cut off at both ends of a URL. -/
def isEdge (c : Char) : Bool := c.toNat ≤ 0x20

def isIgnored (c : Char) : Bool := c == '\t' || c == '\n' || c == '\r'

def clean (text : List Char) : List Char :=
  (((text.dropWhile isEdge).reverse.dropWhile isEdge).reverse).filter (!isIgnored ·)

def isSchemeChar (c : Char) : Bool := c.isAlphanum || c == '+' || c == '-' || c == '.'

def scheme? (text : List Char) : Option (List Char × List Char) :=
  match splitFirst? ':' text with
  | some (c :: name, rest) =>
    if c.isAlpha && name.all isSchemeChar then some ((c :: name).map Char.toLower, rest) else none
  | _ => none

inductive SchemeKind
  | web
  | file
  | other
  deriving DecidableEq, Repr

def schemeKind (scheme : List Char) : SchemeKind :=
  if ["http", "https", "ws", "wss", "ftp"].contains (String.ofList scheme) then .web
  else if String.ofList scheme == "file" then .file
  else .other

def isSlash (c : Char) : Bool := c == '/' || c == '\\'

/-- The authority ends where the path, the query or the fragment starts. -/
def endsAuthority (kind : SchemeKind) (c : Char) : Bool :=
  c == '/' || c == '?' || c == '#' || (c == '\\' && kind != .other)

/-- The host and the port, which the first colon outside brackets separates. -/
def splitPort (inBrackets : Bool) : List Char → List Char × Option (List Char)
  | [] => ([], none)
  | c :: rest =>
    if c == ':' && !inBrackets then ([], some rest)
    else
      let halves := splitPort (c == '[' || (inBrackets && c != ']')) rest
      (c :: halves.1, halves.2)

def isPort (digits : List Char) : Bool := digits.isEmpty || (readDigits? 0x10000 digits).isSome

inductive HostReading
  | invalid
  | absent
  | host (host : Host)
  deriving DecidableEq, Repr

def authorityHost (kind : SchemeKind) (text : List Char) : HostReading :=
  let authority := text.takeWhile (!endsAuthority kind ·)
  let path := text.dropWhile (!endsAuthority kind ·)
  let (user, hostAndPort) := (splitLast? '@' authority).getD ([], authority)
  let (host, port) := splitPort false hostAndPort
  if (splitLast? '@' authority).isSome && user.isEmpty && hostAndPort.isEmpty && !path.isEmpty then
    .invalid
  else if !isPort ((port.getD []).takeWhile (· != '\\')) then .invalid
  else if host.isEmpty then
    if kind = .web || port.isSome || !(user.isEmpty || user == [':']) then .invalid else .absent
  else
    match if kind = .web then Host.ofWeb? host else Host.ofOther? host with
    | some host => .host host
    | none => .invalid

def isDriveLetter (segment : List Char) : Bool :=
  match segment with
  | [c, d] => c.isAlpha && (d == ':' || d == '|')
  | _ => false

def isDot (segment : List Char) : Bool :=
  [".", "%2e"].contains (String.ofList (segment.map Char.toLower))

def isDoubleDot (segment : List Char) : Bool :=
  ["..", ".%2e", "%2e.", "%2e%2e"].contains (String.ofList (segment.map Char.toLower))

/-- Whether a drive letter comes to stand first in a path with a given number of segments before. -/
def entersDrive (depth : Nat) : List (List Char) → Bool
  | [] => false
  | segment :: segments =>
    if isDot segment then entersDrive depth segments
    else if isDoubleDot segment then entersDrive (depth - 1) segments
    else (depth == 0 && isDriveLetter segment) || entersDrive (depth + 1) segments

/-- The host of a file URL: none for the local host, and none for a path on a drive. -/
def fileHost (text : List Char) : HostReading :=
  match text with
  | a :: b :: rest =>
    if isSlash a && isSlash b then
      let host := rest.takeWhile (!endsAuthority .file ·)
      let path := (rest.dropWhile (!endsAuthority .file ·)).takeWhile fun c => c != '?' && c != '#'
      if host.isEmpty || isDriveLetter host then .absent
      else
        match Host.ofWeb? host with
        | none => .invalid
        | some found =>
          if found = .domain "localhost".toList then .absent
          else if entersDrive 0 (splitWhere isSlash (path.drop 1)) then .absent
          else .host found
    else .absent
  | _ => .absent

def readHost (url : String) : HostReading :=
  match scheme? (clean url.toList) with
  | none => .invalid
  | some (scheme, rest) =>
    match schemeKind scheme with
    | .web => authorityHost .web (rest.dropWhile isSlash)
    | .file => fileHost rest
    | .other =>
      match rest with
      | '/' :: '/' :: authority => authorityHost .other authority
      | _ => .absent

end CommitAdmission.Url
