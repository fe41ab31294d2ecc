import CommitAdmission.Text.Decimal
import CommitAdmission.Unicode.CompositionTable
import CommitAdmission.Unicode.Table

/-! The composed normal form of texts: letters and their marks as single characters where these
exist, and marks in a fixed order. -/

namespace CommitAdmission.Unicode

open Text

structure Composite where
  whole : Char
  base : Char
  mark : Char
  deriving DecidableEq, Repr

def Run.composites (run : Run) : List Composite :=
  (run.texts.zipIdx run.first).filterMap fun entry =>
    match entry.1 with
    | [base, mark] => some ⟨Char.ofNat entry.2, base, mark⟩
    | _ => none

def composites : List Composite := (readTable compositeTable).flatMap Run.composites

def combiningRuns : List Run := readTable combiningTable

/-- The class of a mark; characters that are no marks have class zero. -/
def combiningClass (c : Char) : Nat :=
  if c.toNat < 0x300 then 0
  else ((wordFor? combiningRuns c).bind fun word => readDigits? 256 word.toList).getD 0

namespace Hangul

def firstSyllable : Nat := 0xAC00

def firstLead : Nat := 0x1100

def firstVowel : Nat := 0x1161

/-- The place before the first trailing consonant; it stands for none. -/
def noTrail : Nat := 0x11A7

def leads : Nat := 19

def vowels : Nat := 21

def trails : Nat := 28

/-- A syllable splits into its lead and vowel, or else into the syllable without trail and the trail. -/
def split? (c : Char) : Option (Char × Char) :=
  let place := c.toNat - firstSyllable
  if c.toNat < firstSyllable ∨ leads * vowels * trails ≤ place then none
  else if place % trails = 0 then
    some (Char.ofNat (firstLead + place / trails / vowels),
      Char.ofNat (firstVowel + place / trails % vowels))
  else some (Char.ofNat (c.toNat - place % trails), Char.ofNat (noTrail + place % trails))

def join? (a b : Char) : Option Char :=
  let lead := a.toNat - firstLead
  let vowel := b.toNat - firstVowel
  let place := a.toNat - firstSyllable
  let trail := b.toNat - noTrail
  if firstLead ≤ a.toNat ∧ lead < leads ∧ firstVowel ≤ b.toNat ∧ vowel < vowels then
    some (Char.ofNat (firstSyllable + (lead * vowels + vowel) * trails))
  else if firstSyllable ≤ a.toNat ∧ place < leads * vowels * trails ∧ place % trails = 0 ∧
      noTrail < b.toNat ∧ trail < trails then
    some (Char.ofNat (a.toNat + trail))
  else none

end Hangul

def split? (c : Char) : Option (Char × Char) :=
  if c.toNat < 0xC0 then none
  else
    match Hangul.split? c with
    | some halves => some halves
    | none => (composites.find? (·.whole == c)).map fun found => (found.base, found.mark)

def join? (a b : Char) : Option Char :=
  if b.toNat < 0x300 then none
  else
    match Hangul.join? a b with
    | some whole => some whole
    | none => (composites.find? fun composite => composite.base == a && composite.mark == b).map
        Composite.whole

/-- No composite has more than this many marks. -/
def deepest : Nat := 4

def expand : (depth : Nat) → Char → List Char
  | 0, c => [c]
  | depth + 1, c =>
    match split? c with
    | none => [c]
    | some (base, mark) => expand depth base ++ [mark]

/-- Puts a mark behind those of no higher class; the text before it is given in reverse. -/
def placeMark (mark : Char) : List Char → List Char
  | [] => [mark]
  | c :: before =>
    if combiningClass mark ≠ 0 ∧ combiningClass mark < combiningClass c then
      c :: placeMark mark before
    else mark :: c :: before

def decomposed (text : List Char) : List Char :=
  ((text.flatMap (expand deepest)).foldl (fun before c => placeMark c before) []).reverse

/-- A text that is being composed: what is finished, and the last letter with its marks that did not
join it, both in reverse. -/
structure Composing where
  finished : List Char
  base : Option Char
  marks : List Char

def Composing.all (state : Composing) : List Char :=
  state.marks ++ state.base.toList ++ state.finished

/-- Adds a character; it joins the last letter unless a mark of its class or a higher one is between
them. -/
def Composing.add (state : Composing) (c : Char) : Composing :=
  let free := match state.marks with
    | [] => true
    | mark :: _ => combiningClass mark < combiningClass c
  match state.base.bind fun base => if free then join? base c else none with
  | some whole => { state with base := some whole }
  | none =>
    if combiningClass c = 0 then ⟨state.all, some c, []⟩
    else { state with marks := c :: state.marks }

def normalized (text : List Char) : List Char :=
  ((decomposed text).foldl Composing.add ⟨[], none, []⟩).all.reverse

end CommitAdmission.Unicode
