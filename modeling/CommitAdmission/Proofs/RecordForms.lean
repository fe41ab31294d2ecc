import CommitAdmission.Records
import CommitAdmission.Settings

namespace CommitAdmission

open Json Text

namespace Json

/-- Values are read back from the forms that are written for them. -/
class Faithful (α : Type) [Encode α] [Decode α] : Prop where
  decode?_encode : ∀ value : α, decode? (encode value) = some value

attribute [simp] Faithful.decode?_encode

/-- No value is written as null, so that null can stand for the lack of one. -/
class NeverNull (α : Type) [Encode α] : Prop where
  encode_ne_null : ∀ value : α, encode value ≠ .null

theorem naturalBelow?_natural {bound value : Nat} (below : value < bound) :
    naturalBelow? bound (.natural value) = some value :=
  if_pos below

instance : Faithful String := ⟨fun _ => rfl⟩

instance : Faithful Bool := ⟨fun _ => rfl⟩

instance : Faithful UInt32 where
  decode?_encode value := by
    change (naturalBelow? UInt32.size (.natural value.toNat)).map UInt32.ofNat = some value
    rw [naturalBelow?_natural value.toNat_lt_size, Option.map_some, UInt32.ofNat_toNat]

instance : Faithful UInt64 where
  decode?_encode value := by
    change (naturalBelow? UInt64.size (.natural value.toNat)).map UInt64.ofNat = some value
    rw [naturalBelow?_natural value.toNat_lt_size, Option.map_some, UInt64.ofNat_toNat]

instance : NeverNull String := ⟨nofun⟩

section

variable {α : Type}

theorem decode?_of_ne_null [Decode α] {form : Json} (present : form ≠ .null) :
    (decode? form : Option (Option α)) = (decode? form).map some := by
  cases form with
  | scalar value =>
    cases value with
    | null => exact absurd rfl present
    | bool _ => rfl
    | number _ => rfl
    | text _ => rfl
  | array _ => rfl
  | object _ => rfl

theorem read_ofMembers {names : List String} {record : Record} {read? : Record → Option α}
    {value : α} (distinct : names.Nodup) (ordered : (record.map Prod.fst).Sublist names)
    (undone : read? record = some value) :
    ((ofMembers record).record? names >>= read?) = some value := by
  rw [record?_ofMembers distinct ordered]
  exact undone

variable [Encode α] [Decode α] [Faithful α]

instance [NeverNull α] : Faithful (Option α) where
  decode?_encode value := by
    cases value with
    | none => rfl
    | some value =>
      change decode? (encode value) = some (some value)
      rw [decode?_of_ne_null (NeverNull.encode_ne_null value), Faithful.decode?_encode,
        Option.map_some]

instance : Faithful (List α) where
  decode?_encode items := mapM_map_of_inverse Faithful.decode?_encode items

instance : Faithful TextSet where
  decode?_encode set := by
    change (decode? (encode set.members) : Option (List String)).map TextSet.ofList = some set
    rw [Faithful.decode?_encode, Option.map_some, TextSet.ofList_members]

instance : Faithful (TextMap α) where
  decode?_encode map := by
    have inverse (entry : String × α) :
        (decode? (encode entry.2)).map (fun value => (entry.1, value)) = some entry := by
      rw [Faithful.decode?_encode, Option.map_some]
    have entries : ((map.entries.map fun entry => (entry.1, encode entry.2)).mapM fun member =>
        (decode? member.2).map fun value => (member.1, value)) = some map.entries :=
      mapM_map_of_inverse inverse map.entries
    change (do
      let members ← keyedMembers? ((map.entries.map fun entry => (entry.1, encode entry.2)).map
        fun member => (some member.1, member.2))
      return TextMap.ofList (← members.mapM fun member =>
        (decode? member.2).map fun value => (member.1, value))) = some map
    rw [keyedMembers?_ofMembers, Option.bind_eq_bind, Option.bind_some, entries,
      Option.bind_eq_bind, Option.bind_some, TextMap.ofList_entries]
    rfl

end

def canonical? (α : Type) [Encode α] [Decode α] (form : Json) : Option Json :=
  (decode? form : Option α).map encode

/-- Every value is read back from its form, and the forms of a value, that is those which are read as
it, are those which are written again as the form of the value. -/
def RoundTrips (α : Type) [Encode α] [Decode α] : Prop :=
  (∀ value : α, decode? (encode value) = some value) ∧
  ∀ (form : Json) (value : α), decode? form = some value ↔ canonical? α form = some (encode value)

theorem encode_injective {α : Type} [Encode α] [Decode α] [Faithful α] {value other : α}
    (same : encode value = encode other) : value = other := by
  apply Option.some.inj
  rw [← Faithful.decode?_encode value, same, Faithful.decode?_encode]

theorem roundTrips (α : Type) [Encode α] [Decode α] [Faithful α] : RoundTrips α := by
  refine ⟨Faithful.decode?_encode, ?_⟩
  intro form value
  constructor
  · intro read
    rw [canonical?, read, Option.map_some]
  · intro rewritten
    obtain ⟨other, read, same⟩ := Option.map_eq_some_iff.mp rewritten
    rw [read, encode_injective same]

end Json

instance : Faithful ObjectId where
  decode?_encode id := by
    change (decode? (encode id.name) : Option String).bind ObjectId.parse? = some id
    rw [Faithful.decode?_encode, Option.bind_some, ObjectId.parse?_name]

instance : Faithful ProjectName := ⟨fun _ => rfl⟩

instance : NeverNull ProjectName := ⟨nofun⟩

-- The members of a record are written in the order in which its reader names them.
instance : Faithful Branch where
  decode?_encode _ := read_ofMembers (by decide) (.refl _) (by simp)

instance : Faithful Lifecycle where
  decode?_encode lifecycle := by cases lifecycle <;> rfl

instance : Faithful ProjectState where
  decode?_encode _ := read_ofMembers (by decide) (.refl _) (by simp)

instance : Faithful Label where
  decode?_encode _ := read_ofMembers (by decide) (.refl _) (by simp)

instance : Faithful ProjectConfig where
  decode?_encode _ := read_ofMembers (by decide) (.refl _) (by simp)

instance : Faithful FileChange where
  decode?_encode change := by cases change <;> rfl

instance : Faithful ChangedFile where
  decode?_encode _ := read_ofMembers (by decide) (.refl _) (by simp)

instance : Faithful Permission where
  decode?_encode permission := by cases permission <;> rfl

instance : Faithful HostKey where
  decode?_encode _ := read_ofMembers (by decide) (.refl _) (by simp)

instance : Faithful SshInfo where
  decode?_encode _ := read_ofMembers (by decide) (.refl _) (by simp)

instance : Faithful Footer where
  decode?_encode _ := read_ofMembers (by decide) (.refl _) (by simp)

instance : Faithful Person where
  decode?_encode _ := read_ofMembers (by decide) (.refl _) (by simp)

instance : Faithful Commit where
  decode?_encode _ := read_ofMembers (by decide) (.refl _) (by simp)

instance : Faithful AccountId where
  decode?_encode account := by
    change (decode? (encode account.number) : Option UInt32).map AccountId.mk = some account
    rw [Faithful.decode?_encode, Option.map_some]

instance : Faithful User where
  decode?_encode _ := read_ofMembers (by decide) (.refl _) (by simp)

instance : Faithful Change where
  decode?_encode _ := read_ofMembers (by decide) (.refl _) (by simp)

instance : Faithful PatchSetId where
  decode?_encode _ := read_ofMembers (by decide) (.refl _) (by simp)

instance : Faithful RefUpdate where
  decode?_encode _ := read_ofMembers (by decide) (.refl _) (by simp)

instance : Faithful Severity where
  decode?_encode severity := by cases severity <;> rfl

instance : Faithful Message where
  decode?_encode _ := read_ofMembers (by decide) (.refl _) (by simp)

instance : Faithful Status where
  decode?_encode status := by cases status <;> rfl

/-- What is left out where there is none is what is assumed where it is missing. -/
instance : Faithful Info where
  decode?_encode info := by
    obtain ⟨status, metadata, messages⟩ := info
    have noMetadata : metadata.isEmpty = true → metadata = .empty := TextMap.eq_empty_of_isEmpty
    have noMessages : messages.isEmpty = true → messages = [] := List.isEmpty_iff.mp
    have distinct : ["status", "metadata", "messages"].Nodup := by decide
    refine read_ofMembers distinct ?ordered ?undone
    case ordered => split <;> split <;> simp
    case undone => split <;> split <;> simp_all

instance : Faithful RejectionKind where
  decode?_encode kind := by cases kind <;> rfl

instance : Faithful Rejection where
  decode?_encode _ := read_ofMembers (by decide) (.refl _) (by simp)

instance : Faithful Settings where
  decode?_encode _ := read_ofMembers (by decide) (.refl _) (by simp)

/-- All records that are both written and read survive it, and have one canonical form each. -/
theorem records_round_trip :
    RoundTrips ObjectId ∧ RoundTrips ProjectName ∧ RoundTrips Branch ∧ RoundTrips ProjectState ∧
    RoundTrips Label ∧ RoundTrips ProjectConfig ∧ RoundTrips ChangedFile ∧ RoundTrips Permission ∧
    RoundTrips SshInfo ∧ RoundTrips Footer ∧ RoundTrips Person ∧ RoundTrips Commit ∧
    RoundTrips User ∧ RoundTrips Change ∧ RoundTrips PatchSetId ∧ RoundTrips RefUpdate ∧
    RoundTrips Message ∧ RoundTrips Info ∧ RoundTrips Rejection ∧ RoundTrips Settings :=
  ⟨roundTrips _, roundTrips _, roundTrips _, roundTrips _, roundTrips _, roundTrips _,
    roundTrips _, roundTrips _, roundTrips _, roundTrips _, roundTrips _, roundTrips _,
    roundTrips _, roundTrips _, roundTrips _, roundTrips _, roundTrips _, roundTrips _,
    roundTrips _, roundTrips _⟩

end CommitAdmission
