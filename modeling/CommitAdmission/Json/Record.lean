import CommitAdmission.Json.Value
import CommitAdmission.Text.Ordered

namespace CommitAdmission.Json

open Text

class Encode (α : Type) where
  encode : α → Json

class Decode (α : Type) where
  decode? : Json → Option α

export Encode (encode)
export Decode (decode?)

instance : Encode String := ⟨Json.text⟩

instance : Decode String where
  decode?
    | .text content => some content
    | _ => none

instance : Encode Bool := ⟨Json.bool⟩

instance : Decode Bool where
  decode?
    | .bool value => some value
    | _ => none

def naturalBelow? (bound : Nat) : Json → Option Nat
  | .natural value => if value < bound then some value else none
  | _ => none

instance : Encode UInt32 := ⟨fun value => .natural value.toNat⟩

instance : Decode UInt32 := ⟨fun value => (naturalBelow? UInt32.size value).map UInt32.ofNat⟩

instance : Encode UInt64 := ⟨fun value => .natural value.toNat⟩

instance : Decode UInt64 := ⟨fun value => (naturalBelow? UInt64.size value).map UInt64.ofNat⟩

variable {α : Type}

instance [Encode α] : Encode (Option α) where
  encode
    | none => .null
    | some value => encode value

instance [Decode α] : Decode (Option α) where
  decode?
    | .null => some none
    | value => (decode? value).map some

instance [Encode α] : Encode (List α) := ⟨fun items => .array (items.map encode)⟩

instance [Decode α] : Decode (List α) where
  decode?
    | .array items => items.mapM decode?
    | _ => none

instance : Encode TextSet := ⟨fun set => encode set.members⟩

instance : Decode TextSet := ⟨fun value => (decode? value : Option (List String)).map TextSet.ofList⟩

def keyedMembers? (members : List (Literal × Json)) : Option (List (String × Json)) :=
  members.mapM fun member => member.1.map fun key => (key, member.2)

instance [Encode α] : Encode (TextMap α) where
  encode map := .ofMembers (map.entries.map fun entry => (entry.1, encode entry.2))

instance [Decode α] : Decode (TextMap α) where
  decode?
    | .object members => do
      let entries ← (← keyedMembers? members).mapM fun member =>
        (decode? member.2).map fun value => (member.1, value)
      return TextMap.ofList entries
    | _ => none

theorem mapM_map_of_inverse {β : Type} {write : α → β} {read? : β → Option α}
    (inverse : ∀ value, read? (write value) = some value) (values : List α) :
    (values.map write).mapM read? = some values := by
  have undone : read? ∘ write = (pure : α → Option α) := funext inverse
  rw [List.mapM_map, undone]
  calc values.mapM (pure : α → Option α) = pure (values.map id) := List.mapM_pure
    _ = some values := by rw [List.map_id]; rfl

theorem keyedMembers?_ofMembers (members : List (String × Json)) :
    keyedMembers? (members.map fun member => (some member.1, member.2)) = some members := by
  rw [keyedMembers?]
  apply mapM_map_of_inverse
  exact fun _ => rfl

abbrev Record := List (String × Json)

/-- The form of a record is an object, of which only the named members count and none of them
repeats, or an array with the first fields in their order. -/
def record? (names : List String) : Json → Option Record
  | .array items => if items.length ≤ names.length then some (names.zip items) else none
  | .object members => do
    let fields := (← keyedMembers? members).filter (names.contains ·.1)
    if (fields.map Prod.fst).Nodup then some fields else none
  | .scalar _ => none

theorem record?_ofMembers {names : List String} {record : Record} (distinct : names.Nodup)
    (ordered : (record.map Prod.fst).Sublist names) :
    (ofMembers record).record? names = some record := by
  have known : record.filter (names.contains ·.1) = record := by
    apply List.filter_eq_self.mpr
    intro field member
    exact List.contains_iff_mem.mpr (ordered.subset (List.mem_map_of_mem member))
  have once : (record.map Prod.fst).Nodup := distinct.sublist ordered
  simp only [ofMembers, record?, keyedMembers?_ofMembers, Option.bind_eq_bind, Option.bind_some,
    known, if_pos once]

namespace Record

def required [Decode α] (record : Record) (name : String) : Option α := do
  decode? (← record.lookup name)

def withDefault [Decode α] (record : Record) (name : String) (default : α) : Option α :=
  match record.lookup name with
  | none => some default
  | some value => decode? value

section

variable [Decode α] (record : Record) {name key : String} (form : Json) (default : α)

@[simp] theorem required_cons_self :
    (required ((name, form) :: record) name : Option α) = decode? form := by
  simp [required]

@[simp] theorem required_cons_of_ne (differs : name ≠ key) :
    (required ((key, form) :: record) name : Option α) = required record name := by
  simp [required, List.lookup_cons, beq_false_of_ne differs]

@[simp] theorem withDefault_nil : withDefault [] name default = some default := rfl

@[simp] theorem withDefault_cons_self :
    withDefault ((name, form) :: record) name default = decode? form := by
  simp [withDefault]

@[simp] theorem withDefault_cons_of_ne (differs : name ≠ key) :
    withDefault ((key, form) :: record) name default = withDefault record name default := by
  simp [withDefault, List.lookup_cons, beq_false_of_ne differs]

end

end Record

/-- One of a list of named values is its name, or an object with the name as its one key and null
under it. -/
def variant? (named : List (String × α)) : Json → Option α
  | .text name => named.lookup name
  | .object [(some name, .null)] => named.lookup name
  | _ => none

end CommitAdmission.Json
