import CommitAdmission.Text.Hex

namespace CommitAdmission

open Text

def isLowerHex (c : Char) : Bool := ('0' ≤ c && c ≤ '9') || ('a' ≤ c && c ≤ 'f')

def CanonicalId (spelling : List Char) : Prop :=
  spelling.length = 40 ∧ spelling.all isLowerHex = true

instance (spelling : List Char) : Decidable (CanonicalId spelling) :=
  inferInstanceAs (Decidable (_ ∧ _))

structure ObjectId where
  name : String
  canonical : CanonicalId name.toList
  deriving DecidableEq, Repr

namespace ObjectId

def lowerCase (text : List Char) : List Char :=
  text.map fun c => if 'A' ≤ c && c ≤ 'F' then Char.ofNat (c.toNat + 0x20) else c

def parse? (text : String) : Option ObjectId :=
  let name := String.ofList (lowerCase text.toList)
  if canonical : CanonicalId name.toList then some ⟨name, canonical⟩ else none

def invalidMessage (text : String) : String := "Invalid object id: " ++ text

/-- The id of no object: a ref that does not exist yet stands at it. -/
def zero : ObjectId where
  name := String.ofList (List.replicate 40 '0')
  canonical := by rw [String.toList_ofList]; decide

def isZero (id : ObjectId) : Bool := id.name.toList.all (· == '0')

theorem eq_of_name_eq {a b : ObjectId} (same : a.name = b.name) : a = b := by
  cases a
  cases b
  cases same
  rfl

theorem lowerCase_of_canonical {spelling : List Char} (canonical : CanonicalId spelling) :
    lowerCase spelling = spelling := by
  calc lowerCase spelling
      = spelling.map id := by
        apply List.map_congr_left
        intro c member
        have digit : isLowerHex c = true := List.all_eq_true.mp canonical.2 c member
        have notUpper : ¬ (('A' ≤ c && c ≤ 'F') = true) := by
          simp only [isLowerHex, Bool.or_eq_true, Bool.and_eq_true, decide_eq_true_eq, Char.le_def,
            UInt32.le_iff_toNat_le, Char.reduceVal, UInt32.reduceToNat] at digit ⊢
          omega
        rw [if_neg notUpper, id]
    _ = spelling := List.map_id _

theorem parse?_name (id : ObjectId) : parse? id.name = some id := by
  have unchanged : String.ofList (lowerCase id.name.toList) = id.name := by
    rw [lowerCase_of_canonical id.canonical, String.ofList_toList]
  simp only [parse?, unchanged, id.canonical, dif_pos]

theorem toList_name_zero : zero.name.toList = List.replicate 40 '0' := String.toList_ofList

theorem isZero_iff {id : ObjectId} : id.isZero = true ↔ id = zero := by
  constructor
  · intro zeros
    have digits : id.name.toList = List.replicate 40 '0' := by
      apply List.eq_replicate_iff.mpr
      refine ⟨id.canonical.1, ?_⟩
      intro digit member
      exact eq_of_beq (List.all_eq_true.mp zeros digit member)
    apply eq_of_name_eq
    apply String.toList_inj.mp
    rw [digits, toList_name_zero]
  · intro same
    subst same
    rw [isZero, toList_name_zero]
    decide

/-- The abbreviated name: the first seven digits. -/
def short (id : ObjectId) : String := String.ofList (id.name.toList.take 7)

end ObjectId

end CommitAdmission
