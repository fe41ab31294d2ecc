import CommitAdmission.Json.Token

/-! Reading JSON texts: a machine that takes one token at a time and keeps the containers that are
still open on a stack. -/

namespace CommitAdmission.Json

/-- An open container that waits for a value: its earlier items or members, latest first. -/
inductive Frame
  | array (items : List Json)
  | object (members : List (Literal × Json)) (key : Literal)
  deriving Repr

/-- What the reader expects next; the frames enclose the current container, innermost first. -/
inductive Progress
  | value (frames : List Frame)
  | firstItem (frames : List Frame)
  | afterItem (items : List Json) (frames : List Frame)
  | firstKey (frames : List Frame)
  | nextKey (members : List (Literal × Json)) (frames : List Frame)
  | keyColon (members : List (Literal × Json)) (key : Literal) (frames : List Frame)
  | afterMember (members : List (Literal × Json)) (frames : List Frame)
  | complete (value : Json)
  deriving Repr

def give (value : Json) : List Frame → Progress
  | [] => .complete value
  | .array items :: frames => .afterItem (value :: items) frames
  | .object members key :: frames => .afterMember ((key, value) :: members) frames

def begin? (frames : List Frame) : Token → Option Progress
  | .scalar value => some (give (.scalar value) frames)
  | .openArray => some (.firstItem frames)
  | .openObject => some (.firstKey frames)
  | _ => none

def step? : Progress → Token → Option Progress
  | .value frames, token => begin? frames token
  | .firstItem frames, .closeArray => some (give (.array []) frames)
  | .firstItem frames, token => begin? (.array [] :: frames) token
  | .afterItem items frames, .comma => some (.value (.array items :: frames))
  | .afterItem items frames, .closeArray => some (give (.array items.reverse) frames)
  | .firstKey frames, .closeObject => some (give (.object []) frames)
  | .firstKey frames, .scalar (.text key) => some (.keyColon [] key frames)
  | .nextKey members frames, .scalar (.text key) => some (.keyColon members key frames)
  | .keyColon members key frames, .colon => some (.value (.object members key :: frames))
  | .afterMember members frames, .comma => some (.nextKey members frames)
  | .afterMember members frames, .closeObject => some (give (.object members.reverse) frames)
  | _, _ => none

def read? (document : List Char) : Option Json := do
  let tokens ← tokens? document
  match ← tokens.foldlM step? (.value []) with
  | .complete value => some value
  | _ => none

def parse? (document : String) : Option Json := read? document.toList

end CommitAdmission.Json
