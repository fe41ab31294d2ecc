import CommitAdmission.Toml.Quoted
import CommitAdmission.Toml.Scalar

namespace CommitAdmission.Toml

open Text

/-- A part of a text that was read, and the shorter text after it. -/
structure Found (α : Type) (source : List Char) where
  value : α
  rest : List Char
  shorter : rest.length < source.length

namespace Found

variable {α β : Type} {source inner : List Char}

def map (f : α → β) (found : Found α source) : Found β source :=
  ⟨f found.value, found.rest, found.shorter⟩

def widen (found : Found α inner) (shorter : inner.length ≤ source.length) : Found α source :=
  ⟨found.value, found.rest, Nat.lt_of_lt_of_le found.shorter shorter⟩

end Found

/-- Arrays, tables in braces and dotted keys nest less deep than this. -/
def depthLimit : Nat := 80

def isBareKeyChar (c : Char) : Bool := c.isAlphanum || c == '_' || c == '-'

def skipSpaces (source : List Char) : List Char := source.dropWhile isSpace

theorem length_skipSpaces_le (source : List Char) : (skipSpaces source).length ≤ source.length :=
  length_dropWhile_le isSpace source

theorem length_skipSpaces_lt {source text rest : List Char}
    (shorter : text.length < (skipSpaces source).length) (h : skipSpaces text = rest) :
    rest.length < source.length := by
  have := length_skipSpaces_le source
  have := length_skipSpaces_le text
  grind

def simpleKey? (source : List Char) : Option (Found String source) :=
  match source with
  | [] => none
  | c :: tail =>
    if c = '"' ∨ c = '\'' then
      match found : scan? c false tail with
      | none => none
      | some (content, rest) =>
        some ⟨String.ofList content, rest, Nat.lt_succ_of_lt (length_of_scan? found)⟩
    else if isBareKeyChar c then
      some ⟨String.ofList (c :: tail.takeWhile isBareKeyChar), tail.dropWhile isBareKeyChar,
        Nat.lt_succ_of_le (length_dropWhile_le isBareKeyChar tail)⟩
    else none

/-- A key of one or more parts with dots between them; spaces may surround each part. -/
def dottedKey? (source : List Char) : Option (Found (List String) source) :=
  match simpleKey? (skipSpaces source) with
  | none => none
  | some first =>
    match _after : skipSpaces first.rest with
    | '.' :: tail =>
      have shorter := Nat.lt_of_succ_lt (length_skipSpaces_lt first.shorter _after)
      (dottedKey? tail).map fun found =>
        (found.map (first.value :: ·)).widen (Nat.le_of_lt shorter)
    | rest => some ⟨[first.value], rest, length_skipSpaces_lt first.shorter _after⟩
termination_by source.length

def key? (source : List Char) : Option (Found (List String) source) :=
  (dottedKey? source).filter fun found => found.value.length < depthLimit

def skipLines? (inComment : Bool) : List Char → Option (List Char)
  | [] => if inComment then none else some []
  | c :: rest =>
    if c = '\n' then skipLines? false rest
    else if c = '\r' then if rest.head? = some '\n' then skipLines? false rest else none
    else if inComment then if isTextChar c then skipLines? true rest else none
    else if c = '#' then skipLines? true rest
    else if isSpace c then skipLines? false rest
    else some (c :: rest)

theorem length_of_skipLines? {inComment : Bool} {source rest : List Char}
    (found : skipLines? inComment source = some rest) : rest.length ≤ source.length := by
  fun_induction skipLines? inComment source <;> grind

def scalar? (source : List Char) : Option (Found Toml source) :=
  match source with
  | [] => none
  | c :: tail =>
    if c = '"' ∨ c = '\'' then
      match found : string? c tail with
      | none => none
      | some (content, rest) =>
        some ⟨.text (String.ofList content), rest, Nat.lt_succ_of_lt (length_of_string? found)⟩
    else
      let (word, rest) := splitWord (c :: tail)
      if shorter : rest.length < (c :: tail).length then
        (ofWord? word).map fun value => ⟨value, rest, shorter⟩
      else none

def inlineTable? (pairs : List (List String × Toml)) : Option Toml :=
  (pairs.foldlM (fun (entries : Entries) (pair : List String × Toml) =>
    match pair.1.getLast? with
    | none => none
    | some key => assign pair.1.dropLast key pair.2 entries) []).map (.table .inline)

mutual

/-- A value; `levels` bounds the arrays and tables inside it. -/
def value? (levels : Nat) (source : List Char) : Option (Found Toml source) :=
  match source with
  | [] => none
  | c :: tail =>
    if c = '[' then
      match levels with
      | 0 => none
      | levels + 1 => (items? levels tail).map fun found =>
        (found.map .array).widen (Nat.le_succ _)
    else if c = '{' then
      match levels with
      | 0 => none
      | levels + 1 =>
        match skipSpaces tail with
        | '}' :: rest =>
          if shorter : rest.length < (c :: tail).length then
            some ⟨.table .inline [], rest, shorter⟩
          else none
        | _ =>
          match pairs? levels tail with
          | none => none
          | some found => (inlineTable? found.value).map fun table =>
            (found.map fun _ => table).widen (Nat.le_succ _)
    else scalar? (c :: tail)
termination_by (source.length, 0)
decreasing_by all_goals (apply Prod.Lex.left; simp)

def items? (levels : Nat) (source : List Char) : Option (Found (List Toml) source) :=
  match _start : skipLines? false source with
  | none => none
  | some start =>
    have bound : start.length ≤ source.length := length_of_skipLines? _start
    match _cases : start with
    | [] => none
    | c :: tail =>
      if c = ']' then some ⟨[], tail, by simp at bound; omega⟩
      else
        match value? levels (c :: tail) with
        | none => none
        | some item =>
          match _next : skipLines? false item.rest with
          | none => none
          | some next =>
            have nextBound : next.length < source.length := by
              have h₁ := length_of_skipLines? _next
              have h₂ := item.shorter
              omega
            match _nextCases : next with
            | [] => none
            | d :: rest =>
              if d = ']' then some ⟨[item.value], rest, by simp at nextBound; omega⟩
              else if d = ',' then
                (items? levels rest).map fun found =>
                  (found.map (item.value :: ·)).widen (by simp at nextBound; omega)
              else none
termination_by (source.length, 1)
decreasing_by
  · exact Prod.lex_def.mpr (by simp at bound ⊢; omega)
  · exact Prod.Lex.left _ _ (by simp at nextBound; omega)

def pairs? (levels : Nat) (source : List Char) :
    Option (Found (List (List String × Toml)) source) :=
  match key? source with
  | none => none
  | some key =>
    match _cases : key.rest with
    | '=' :: afterEquals =>
      have bound : (skipSpaces afterEquals).length < source.length := by
        have h₁ := key.shorter
        have h₂ := length_skipSpaces_le afterEquals
        rw [_cases] at h₁
        simp at h₁
        omega
      match value? levels (skipSpaces afterEquals) with
      | none => none
      | some value =>
        have nextBound : (skipSpaces value.rest).length < source.length := by
          have h₁ := value.shorter
          have h₂ := length_skipSpaces_le value.rest
          omega
        match _nextCases : skipSpaces value.rest with
        | '}' :: rest =>
          some ⟨[(key.value, value.value)], rest, by
            rw [_nextCases] at nextBound; simp at nextBound; omega⟩
        | ',' :: rest =>
          have restBound : rest.length < source.length := by
            rw [_nextCases] at nextBound; simp at nextBound; omega
          (pairs? levels rest).map fun found =>
            (found.map ((key.value, value.value) :: ·)).widen (Nat.le_of_lt restBound)
        | _ => none
    | _ => none
termination_by (source.length, 1)
decreasing_by
  · exact Prod.Lex.left _ _ bound
  · exact Prod.Lex.left _ _ restBound

end

inductive Statement
  | assign (key : List String) (value : Toml)
  | table (key : List String)
  | element (key : List String)
  deriving Repr

def lineEnd? (source : List Char) : Option (List Char) :=
  let afterComment := match skipSpaces source with
    | '#' :: comment => comment.dropWhile isTextChar
    | rest => rest
  match afterComment with
  | [] => some []
  | '\n' :: rest => some rest
  | '\r' :: '\n' :: rest => some rest
  | _ => none

theorem length_of_lineEnd? {source rest : List Char} (found : lineEnd? source = some rest) :
    rest = [] ∨ rest.length < source.length := by
  unfold lineEnd? at found
  have bound := length_skipSpaces_le source
  simp only at found
  split at found
  · exact .inl (by simpa using found.symm)
  all_goals
    simp only [Option.some.injEq, reduceCtorEq] at found
  all_goals
    subst found
    rename_i h
    split at h
    · next comment hc =>
      have := length_dropWhile_le isTextChar comment
      rw [hc] at bound
      rw [h] at this
      simp at bound this
      omega
    · rw [h] at bound
      simp at bound
      omega

def statement? : (source : List Char) → Option (Found Statement source)
  | '[' :: '[' :: tail =>
    match key? tail with
    | none => none
    | some key =>
      match key.rest with
      | ']' :: ']' :: rest =>
        if shorter : rest.length < tail.length + 2 then some ⟨.element key.value, rest, shorter⟩
        else none
      | _ => none
  | '[' :: tail =>
    match key? tail with
    | none => none
    | some key =>
      match key.rest with
      | ']' :: rest =>
        if shorter : rest.length < tail.length + 1 then some ⟨.table key.value, rest, shorter⟩
        else none
      | _ => none
  | source =>
    match key? source with
    | none => none
    | some key =>
      match key.rest with
      | '=' :: tail =>
        match value? (depthLimit - 1) (skipSpaces tail) with
        | none => none
        | some value =>
          if shorter : value.rest.length < source.length then
            some ⟨.assign key.value value.value, value.rest, shorter⟩
          else none
      | _ => none

def statements? (source : List Char) : Option (List Statement) :=
  match _start : skipSpaces source with
  | [] => some []
  | c :: tail =>
    if c = '\n' ∨ c = '\r' ∨ c = '#' then
      match _next : lineEnd? (c :: tail) with
      | none => none
      | some rest => statements? rest
    else
      match statement? (c :: tail) with
      | none => none
      | some found =>
        match _next : lineEnd? found.rest with
        | none => none
        | some rest => (statements? rest).map (found.value :: ·)
termination_by source.length
decreasing_by
  · have h₁ := length_skipSpaces_le source
    rw [_start] at h₁
    rcases length_of_lineEnd? _next with rfl | h₂
    · simp at h₁ ⊢
      omega
    · omega
  · have h₁ := length_skipSpaces_le source
    rw [_start] at h₁
    have h₂ := found.shorter
    rcases length_of_lineEnd? _next with rfl | h₃
    · simp at h₁ ⊢
      omega
    · omega

/-- The document so far: its root table and the key of the table that is open. -/
structure Draft where
  entries : Entries
  current : List String
  deriving Repr

def Draft.add (draft : Draft) (statement : Statement) : Option Draft :=
  let split (key : List String) := key.getLast?.map fun last => (key.dropLast, last)
  match statement with
  | .assign key value => do
    let (path, last) ← split key
    return { draft with entries := ← within draft.current (Toml.assign path last value) draft.entries }
  | .table key => do
    let (path, last) ← split key
    return { entries := ← openTable path last draft.entries, current := key }
  | .element key => do
    let (path, last) ← split key
    return { entries := ← openElement path last draft.entries, current := key }

def ofStatements? (statements : List Statement) : Option Entries :=
  (statements.foldlM Draft.add ⟨[], []⟩).map Draft.entries

/-- A document may start with a byte order mark. -/
def dropMark : List Char → List Char
  | '\uFEFF' :: rest => rest
  | source => source

def parse? (document : String) : Option Entries := do
  ofStatements? (← statements? (dropMark document.toList))

end CommitAdmission.Toml
