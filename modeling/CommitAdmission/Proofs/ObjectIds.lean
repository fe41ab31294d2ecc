import CommitAdmission.ObjectId

namespace CommitAdmission

open Text

def SpellsId (text : String) : Prop :=
  text.toList.length = 40 ∧
    ∀ c ∈ text.toList, ('0' ≤ c ∧ c ≤ '9') ∨ ('a' ≤ c ∧ c ≤ 'f') ∨ ('A' ≤ c ∧ c ≤ 'F')

instance (text : String) : Decidable (SpellsId text) := inferInstanceAs (Decidable (_ ∧ _))

/-- Whether two texts have the same digits, one by one; what is no digit is like no digit. -/
def SameDigits (text other : String) : Prop :=
  text.toList.map hexValue? = other.toList.map hexValue?

instance (text other : String) : Decidable (SameDigits text other) :=
  inferInstanceAs (Decidable (_ = _))

theorem spellsId_iff (text : String) :
    SpellsId text ↔ text.toList.length = 40 ∧ ∀ c ∈ text.toList, isHexDigit c = true := by
  simp only [SpellsId, isHexDigit_iff]

theorem isHexDigit_of_isLowerHex {c : Char} (digit : isLowerHex c = true) : isHexDigit c = true := by
  rw [isHexDigit_iff]
  simp only [isLowerHex, Bool.or_eq_true, Bool.and_eq_true, decide_eq_true_eq] at digit
  exact digit.imp_right .inl

theorem utf8Size_of_isHexDigit {c : Char} (digit : isHexDigit c = true) : c.utf8Size = 1 :=
  forall_isHexDigit (fun c => c.utf8Size = 1) (by decide) digit

namespace ObjectId

variable {text other : String} {id : ObjectId}

theorem lowerCase_of_spellsId (spells : SpellsId text) :
    lowerCase text.toList = text.toList.map Char.toLower := by
  apply List.map_congr_left
  intro c member
  have digit := ((spellsId_iff text).mp spells).2 c member
  exact forall_isHexDigit
    (fun c => (if 'A' ≤ c && c ≤ 'F' then Char.ofNat (c.toNat + 0x20) else c) = c.toLower)
    (by decide) digit

theorem canonicalId_lowerCase_iff (text : String) :
    CanonicalId (lowerCase text.toList) ↔ SpellsId text := by
  have digits (c : Char) : isLowerHex
      (if 'A' ≤ c && c ≤ 'F' then Char.ofNat (c.toNat + 0x20) else c) = true ↔
        isHexDigit c = true := by
    constructor
    · intro lower
      split at lower
      · rename_i upper
        rw [Bool.and_eq_true, decide_eq_true_eq, decide_eq_true_eq] at upper
        exact isHexDigit_iff.mpr (.inr (.inr upper))
      · exact isHexDigit_of_isLowerHex lower
    · exact forall_isHexDigit (fun c => isLowerHex
        (if 'A' ≤ c && c ≤ 'F' then Char.ofNat (c.toNat + 0x20) else c) = true) (by decide)
  rw [spellsId_iff, CanonicalId, lowerCase, List.length_map, List.all_map, List.all_eq_true]
  simp only [Function.comp_apply, digits]

theorem exists_of_spellsId (spells : SpellsId text) : ∃ id, parse? text = some id := by
  have canonical : CanonicalId (String.ofList (lowerCase text.toList)).toList := by
    rw [String.toList_ofList]
    exact (canonicalId_lowerCase_iff text).mpr spells
  exact ⟨⟨_, canonical⟩, dif_pos canonical⟩

theorem spellsId_of_parse? (read : parse? text = some id) :
    SpellsId text ∧ id.name.toList = text.toList.map Char.toLower := by
  simp only [parse?, Option.dite_none_right_eq_some, Option.some.injEq] at read
  obtain ⟨canonical, rfl⟩ := read
  rw [String.toList_ofList, canonicalId_lowerCase_iff] at canonical
  exact ⟨canonical, by rw [String.toList_ofList, lowerCase_of_spellsId canonical]⟩

theorem parse?_ne_none_iff : parse? text ≠ none ↔ SpellsId text := by
  rw [Option.ne_none_iff_exists']
  constructor
  · rintro ⟨id, read⟩
    exact (spellsId_of_parse? read).1
  · exact exists_of_spellsId

theorem parse?_eq_some_iff :
    parse? text = some id ↔ SpellsId text ∧ id.name.toList = text.toList.map Char.toLower := by
  constructor
  · exact spellsId_of_parse?
  · rintro ⟨spells, name⟩
    obtain ⟨own, read⟩ := exists_of_spellsId spells
    have same : own = id := by
      apply eq_of_name_eq
      rw [← String.toList_inj, (spellsId_of_parse? read).2, name]
    rw [read, same]

theorem parse?_eq_some_iff_bytes :
    parse? text = some id ↔ ∃ bytes, readBytes? text.toList = some bytes ∧ bytes.length = 20 ∧
      id.name.toList = bytes.flatMap hexByte := by
  rw [parse?_eq_some_iff, spellsId_iff]
  constructor
  · rintro ⟨⟨forty, digits⟩, name⟩
    obtain ⟨bytes, read⟩ := exists_readBytes? digits (by rw [forty])
    have written := (flatMap_hexByte_of_readBytes? read).2
    have lengths := length_flatMap_hexByte bytes
    rw [written, List.length_map, forty] at lengths
    exact ⟨bytes, read, by omega, by rw [name, written]⟩
  · rintro ⟨bytes, read, twenty, name⟩
    obtain ⟨digits, written⟩ := flatMap_hexByte_of_readBytes? read
    have lengths := length_flatMap_hexByte bytes
    rw [written, List.length_map, twenty] at lengths
    exact ⟨⟨lengths, digits⟩, by rw [name, written]⟩

theorem utf8ByteSize_ofList {digits : List Char} (ascii : ∀ c ∈ digits, c.utf8Size = 1) :
    (String.ofList digits).utf8ByteSize = digits.length := by
  induction digits with
  | nil => rfl
  | cons c rest ih =>
    have bytes := ih fun digit member => ascii digit (.tail _ member)
    rw [String.ofList_cons, String.utf8ByteSize_append, String.utf8ByteSize_singleton,
      ascii c (.head _), bytes, List.length_cons, Nat.add_comm]

theorem short_append (id : ObjectId) :
    id.short.utf8ByteSize = 7 ∧ id.name = id.short ++ String.ofList (id.name.toList.drop 7) := by
  constructor
  · have ascii : ∀ c ∈ id.name.toList.take 7, c.utf8Size = 1 := by
      intro c member
      have digit := List.all_eq_true.mp id.canonical.2 c (List.mem_of_mem_take member)
      exact utf8Size_of_isHexDigit (isHexDigit_of_isLowerHex digit)
    rw [short, utf8ByteSize_ofList ascii, List.length_take, id.canonical.1]
    rfl
  · rw [short, ← String.ofList_append, List.take_append_drop, String.ofList_toList]

theorem short_toList (id : ObjectId) : id.short.toList = id.name.toList.take 7 :=
  String.toList_ofList

end ObjectId

theorem map_toLower_eq_iff {digits others : List Char}
    (own : ∀ c ∈ digits, isHexDigit c = true) (other : ∀ c ∈ others, isHexDigit c = true) :
    digits.map Char.toLower = others.map Char.toLower ↔
      digits.map hexValue? = others.map hexValue? := by
  have values {text : List Char} (allDigits : ∀ c ∈ text, isHexDigit c = true) :
      (text.map Char.toLower).map hexValue? = text.map hexValue? := by
    rw [List.map_map]
    exact List.map_congr_left fun c member => hexValue?_toLower (allDigits c member)
  have lower {text : List Char} (allDigits : ∀ c ∈ text, isHexDigit c = true) :
      (text.map hexValue?).map (Option.map hexDigit) = (text.map Char.toLower).map some := by
    rw [List.map_map, List.map_map]
    exact List.map_congr_left fun c member => map_hexDigit_hexValue? (allDigits c member)
  constructor
  · intro same
    rw [← values own, same, values other]
  · intro same
    apply (List.map_inj_right fun _ _ => Option.some.inj).mp
    rw [← lower own, same, lower other]

theorem SameDigits.spellsId {text other : String} (same : SameDigits text other)
    (spells : SpellsId text) : SpellsId other := by
  rw [spellsId_iff] at spells ⊢
  obtain ⟨forty, digits⟩ := spells
  constructor
  · have lengths := congrArg List.length same
    rw [List.length_map, List.length_map] at lengths
    rw [← lengths, forty]
  · intro c member
    have value : hexValue? c ∈ text.toList.map hexValue? := by
      rw [same]
      exact List.mem_map_of_mem member
    obtain ⟨own, within, equal⟩ := List.mem_map.mp value
    rw [isHexDigit, ← equal]
    exact digits own within

theorem ObjectId.parse?_iff_sameDigits {text other : String} {id : ObjectId}
    (read : parse? text = some id) : parse? other = some id ↔ SameDigits text other := by
  obtain ⟨spells, name⟩ := spellsId_of_parse? read
  have digits := ((spellsId_iff text).mp spells).2
  rw [parse?_eq_some_iff, name]
  constructor
  · rintro ⟨otherSpells, same⟩
    exact (map_toLower_eq_iff digits ((spellsId_iff other).mp otherSpells).2).mp same
  · intro same
    have otherSpells := same.spellsId spells
    exact ⟨otherSpells, (map_toLower_eq_iff digits ((spellsId_iff other).mp otherSpells).2).mpr same⟩

end CommitAdmission
