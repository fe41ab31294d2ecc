import CommitAdmission.Text.Split

/-! Punycode: texts spelled with ASCII letters, digits and hyphens. What is not ASCII comes after the
last hyphen, as a series of numbers that say where to insert which code point. -/

namespace CommitAdmission.Url.Punycode

open Text

def letter (digit : Nat) : Char :=
  if digit < 26 then Char.ofNat (0x61 + digit) else Char.ofNat (0x30 + digit - 26)

def digit? (c : Char) : Option Nat :=
  if 'a' ≤ c ∧ c ≤ 'z' then some (c.toNat - 0x61)
  else if '0' ≤ c ∧ c ≤ '9' then some (c.toNat - 0x30 + 26)
  else none

/-- The digits below the threshold at a place end a number. -/
def threshold (place bias : Nat) : Nat :=
  if place ≤ bias then 1 else if bias + 26 ≤ place then 26 else place - bias

theorem threshold_pos (place bias : Nat) : 0 < threshold place bias := by
  unfold threshold
  split
  · omega
  · split <;> omega

/-- Scales a step down, and counts in thirty-sixes how often. -/
def scaled (step places : Nat) : Nat × Nat :=
  if 455 < step then scaled (step / 35) (places + 36) else (step, places)
termination_by step
decreasing_by omega

/-- The bias after a step, which follows the size of the steps. -/
def adapted (step length : Nat) (isFirst : Bool) : Nat :=
  let damped := if isFirst then step / 700 else step / 2
  let (step, places) := scaled (damped + damped / length) 0
  places + 36 * step / (step + 38)

def writeNumber (bias place value : Nat) : List Char :=
  let limit := threshold place bias
  if value < limit then [letter value]
  else letter (limit + (value - limit) % (36 - limit)) ::
    writeNumber bias (place + 36) ((value - limit) / (36 - limit))
termination_by value
decreasing_by
  have := threshold_pos place bias
  have := Nat.div_le_self (value - threshold place bias) (36 - threshold place bias)
  omega

def readNumber? (bias place weight value : Nat) : List Char → Option (Nat × List Char)
  | [] => none
  | c :: rest =>
    match digit? c with
    | none => none
    | some digit =>
      let limit := threshold place bias
      if digit < limit then some (value + digit * weight, rest)
      else readNumber? bias (place + 36) (weight * (36 - limit)) (value + digit * weight) rest

theorem length_of_readNumber? {bias place weight value number : Nat} {text rest : List Char}
    (found : readNumber? bias place weight value text = some (number, rest)) :
    rest.length < text.length := by
  fun_induction readNumber? bias place weight value text <;> grind

/-- Where a writer stands: what it wrote, the steps since then, the bias, and the number of
characters that a reader knows by now. -/
structure Writer where
  written : List Char
  step : Nat
  bias : Nat
  known : Nat

def isAscii (c : Char) : Bool := c.toNat < 0x80

def Writer.pass (basic code : Nat) (writer : Writer) (c : Char) : Writer :=
  if c.toNat < code then { writer with step := writer.step + 1 }
  else if c.toNat = code then
    { written := writer.written ++ writeNumber writer.bias 36 writer.step
      step := 0
      bias := adapted writer.step (writer.known + 1) (writer.known = basic)
      known := writer.known + 1 }
  else writer

def writeInsertions (text : List Char) (basic : Nat) : List Nat → (next : Nat) → Writer → List Char
  | [], _, writer => writer.written
  | code :: codes, next, writer =>
    let start := { writer with step := writer.step + (code - next) * (writer.known + 1) }
    let done := text.foldl (Writer.pass basic code) start
    writeInsertions text basic codes (code + 1) { done with step := done.step + 1 }

def encode (text : List Char) : List Char :=
  let basic := text.filter isAscii
  let codes := ((text.filter (!isAscii ·)).map Char.toNat).mergeSort.eraseDups
  (if basic.isEmpty then [] else basic ++ ['-']) ++
    writeInsertions text basic.length codes 0x80 ⟨[], 0, 72, basic.length⟩

/-- Reads insertions into a text. The place of the next one is counted on over all code points. -/
def readInsertions? (bias code place : Nat) (text insertions : List Char) : Option (List Char) :=
  match insertions with
  | [] => some text
  | c :: rest =>
    match _found : readNumber? bias 36 1 place (c :: rest) with
    | none => none
    | some (number, rest) =>
      let length := text.length + 1
      let code := code + number / length
      if code.isValidChar then
        readInsertions? (adapted (number - place) length (place = 0)) code (number % length + 1)
          (text.insertIdx (number % length) (Char.ofNat code)) rest
      else none
termination_by insertions.length
decreasing_by
  have := length_of_readNumber? _found
  simpa using this

/-- The text that is spelled so. A hyphen with nothing before it does not count. -/
def decode? (encoded : List Char) : Option (List Char) :=
  match splitLast? '-' encoded with
  | some (c :: basic, insertions) => readInsertions? 72 0x80 0 (c :: basic) insertions
  | _ => readInsertions? 72 0x80 0 [] encoded

end CommitAdmission.Url.Punycode
