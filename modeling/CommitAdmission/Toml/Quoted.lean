import CommitAdmission.Text.Hex
import CommitAdmission.Text.Split

namespace CommitAdmission.Toml

open Text

/-- Characters that a comment or a string may hold as they are: no control character but the tab. -/
def isTextChar (c : Char) : Bool := c == '\t' || (0x20 ≤ c.toNat && c.toNat != 0x7F)

def shortEscape? : Char → Option Char
  | '"' => some '"'
  | '\\' => some '\\'
  | 'b' => some '\x08'
  | 'f' => some '\x0c'
  | 'n' => some '\n'
  | 'r' => some '\r'
  | 't' => some '\t'
  | _ => none

def codePoint? (digits : List Char) : Option Char := do
  let code ← readHex? digits
  if code.isValidChar then some (Char.ofNat code) else none

def escapeWidth (letter : Char) : Nat :=
  if letter = 'u' then 4 else if letter = 'U' then 8 else 0

def escape? : List Char → Option (Char × List Char)
  | [] => none
  | c :: rest =>
    match shortEscape? c with
    | some plain => some (plain, rest)
    | none =>
      if rest.length < escapeWidth c ∨ escapeWidth c = 0 then none
      else (codePoint? (rest.take (escapeWidth c))).map fun found => (found, rest.drop (escapeWidth c))

theorem length_of_escape? {text rest : List Char} {c : Char}
    (found : escape? text = some (c, rest)) : rest.length < text.length := by
  unfold escape? at found
  split at found
  · simp at found
  · split at found
    · simp only [Option.some.injEq, Prod.mk.injEq] at found
      simp [found]
    · split at found
      · simp at found
      · simp only [Option.map_eq_some_iff, Prod.mk.injEq] at found
        obtain ⟨_, _, _, rfl⟩ := found
        simp only [List.length_drop, List.length_cons]
        omega

def isSpace (c : Char) : Bool := c == ' ' || c == '\t'

def skipFolded : List Char → List Char
  | [] => []
  | c :: rest =>
    if isSpace c || c == '\n' || (c == '\r' && rest.head? == some '\n') then skipFolded rest
    else c :: rest

theorem length_skipFolded_le (text : List Char) : (skipFolded text).length ≤ text.length := by
  fun_induction skipFolded text <;> grind

/-- What follows a backslash at the end of a line: the line break goes, with all spaces and line
breaks after it. -/
def afterFold? (text : List Char) : Option (List Char) :=
  match text.dropWhile isSpace with
  | '\n' :: rest => some (skipFolded rest)
  | '\r' :: '\n' :: rest => some (skipFolded rest)
  | _ => none

theorem length_of_afterFold? {text rest : List Char} (found : afterFold? text = some rest) :
    rest.length < text.length := by
  unfold afterFold? at found
  have bound := length_dropWhile_le isSpace text
  split at found
  · next tail h =>
    have := length_skipFolded_le tail
    rw [h] at bound
    simp at bound found
    grind
  · next tail h =>
    have := length_skipFolded_le tail
    rw [h] at bound
    simp at bound found
    grind
  · simp at found

/-- What a string goes on with: a character, a removed line break, or its end. Up to two quotes
directly before three closing ones belong to the content. -/
inductive Piece
  | char (c : Char) (rest : List Char)
  | fold (rest : List Char)
  | close (content rest : List Char)
  deriving DecidableEq, Repr

def Piece.rest : Piece → List Char
  | char _ rest => rest
  | fold rest => rest
  | close _ rest => rest

def closing (quote : Char) : List Char → Piece
  | a :: b :: rest =>
    if a = quote ∧ b = quote then .close [quote, quote] rest
    else if a = quote then .close [quote] (b :: rest)
    else .close [] (a :: b :: rest)
  | a :: rest => if a = quote then .close [quote] rest else .close [] (a :: rest)
  | [] => .close [] []

theorem length_closing_le (quote : Char) (text : List Char) :
    (closing quote text).rest.length ≤ text.length := by
  fun_cases closing quote text <;> grind [Piece.rest]

def quotePiece? (quote : Char) (several : Bool) (rest : List Char) : Option Piece :=
  if several then
    match rest with
    | a :: b :: after => if a = quote ∧ b = quote then some (closing quote after) else some (.char quote rest)
    | _ => some (.char quote rest)
  else some (.close [] rest)

/-- The next piece of a string in a given kind of quotes, on one line or on several. Escapes are
known in double quotes only. -/
def piece? (quote : Char) (several : Bool) : List Char → Option Piece
  | [] => none
  | c :: rest =>
    if c = quote then quotePiece? quote several rest
    else if c = '\\' ∧ quote = '"' then
      match if several then afterFold? rest else none with
      | some after => some (.fold after)
      | none => (escape? rest).map fun found => .char found.1 found.2
    else if several ∧ c = '\r' then
      if rest.head? = some '\n' then some (.char '\n' rest.tail) else none
    else if isTextChar c ∨ (several ∧ c = '\n') then some (.char c rest)
    else none

theorem length_of_piece? {quote : Char} {several : Bool} {text : List Char} {piece : Piece}
    (found : piece? quote several text = some piece) : piece.rest.length < text.length := by
  unfold piece? at found
  split at found
  · simp at found
  · next c rest =>
    split at found
    · unfold quotePiece? at found
      split at found
      · split at found
        · next a b after =>
          have bound := length_closing_le quote after
          split at found
          · grind
          · grind [Piece.rest]
        · grind [Piece.rest]
      · grind [Piece.rest]
    · split at found
      · split at found
        · next h =>
          split at h
          · have := length_of_afterFold? h
            grind [Piece.rest]
          · simp at h
        · simp only [Option.map_eq_some_iff] at found
          obtain ⟨⟨plain, after⟩, h, rfl⟩ := found
          have := length_of_escape? h
          grind [Piece.rest]
      · grind [Piece.rest]

def scan? (quote : Char) (several : Bool) (text : List Char) : Option (List Char × List Char) :=
  match _found : piece? quote several text with
  | none => none
  | some (.close content rest) => some (content, rest)
  | some (.fold rest) => scan? quote several rest
  | some (.char c rest) =>
    match scan? quote several rest with
    | none => none
    | some (content, final) => some (c :: content, final)
termination_by text.length
decreasing_by all_goals exact length_of_piece? _found

theorem length_of_scan? {quote : Char} {several : Bool} {text content rest : List Char}
    (found : scan? quote several text = some (content, rest)) : rest.length < text.length := by
  fun_induction scan? quote several text generalizing content rest with
  | case1 => simp at found
  | case2 text _ _ h =>
    have := length_of_piece? h
    simp [Piece.rest] at this found
    grind
  | case3 text _ h ih =>
    have := length_of_piece? h
    simp [Piece.rest] at this
    have := ih found
    omega
  | case4 => simp at found
  | case5 text _ _ h _ _ inner ih =>
    have := length_of_piece? h
    simp [Piece.rest] at this found
    have := ih inner
    grind

/-- The line break directly after three opening quotes does not belong to the content. -/
def dropFirstBreak : List Char → List Char
  | '\n' :: rest => rest
  | '\r' :: '\n' :: rest => rest
  | text => text

theorem length_dropFirstBreak_le (text : List Char) : (dropFirstBreak text).length ≤ text.length := by
  fun_cases dropFirstBreak text <;> grind

def string? (quote : Char) (text : List Char) : Option (List Char × List Char) :=
  match text with
  | a :: b :: rest =>
    if a = quote ∧ b = quote then scan? quote true (dropFirstBreak rest) else scan? quote false text
  | _ => scan? quote false text

theorem length_of_string? {quote : Char} {text content rest : List Char}
    (found : string? quote text = some (content, rest)) : rest.length < text.length := by
  unfold string? at found
  split at found
  · next a b tail =>
    split at found
    · have := length_of_scan? found
      have := length_dropFirstBreak_le tail
      simp only [List.length_cons]
      omega
    · exact length_of_scan? found
  · exact length_of_scan? found

end CommitAdmission.Toml
