namespace CommitAdmission.Text

def hexValue? (c : Char) : Option Nat :=
  if '0' ≤ c && c ≤ '9' then some (c.toNat - 0x30)
  else if 'a' ≤ c && c ≤ 'f' then some (c.toNat - 0x61 + 10)
  else if 'A' ≤ c && c ≤ 'F' then some (c.toNat - 0x41 + 10)
  else none

def isHexDigit (c : Char) : Bool := (hexValue? c).isSome

def hexDigit (value : Nat) : Char :=
  if value < 10 then Char.ofNat (0x30 + value) else Char.ofNat (0x61 + value - 10)

def hexByte (byte : UInt8) : List Char := [hexDigit (byte.toNat / 16), hexDigit (byte.toNat % 16)]

theorem hexDigit_injective :
    ∀ m < 16, ∀ n < 16, hexDigit m = hexDigit n → m = n := by decide

theorem hexByte_injective {byte other : UInt8} (same : hexByte byte = hexByte other) :
    byte = other := by
  obtain ⟨upper, rest⟩ := List.cons.inj same
  obtain ⟨lower, _⟩ := List.cons.inj rest
  have bound := byte.toNat_lt
  have otherBound := other.toNat_lt
  have quotients := hexDigit_injective _ (by omega) _ (by omega) upper
  have remainders := hexDigit_injective _ (by omega) _ (by omega) lower
  apply UInt8.toNat_inj.mp
  omega

theorem flatMap_hexByte_injective {bytes others : List UInt8}
    (same : bytes.flatMap hexByte = others.flatMap hexByte) : bytes = others := by
  induction bytes generalizing others with
  | nil =>
    cases others with
    | nil => rfl
    | cons other others => cases same
  | cons byte bytes ih =>
    cases others with
    | nil => cases same
    | cons other others =>
      rw [List.flatMap_cons, List.flatMap_cons] at same
      obtain ⟨first, rest⟩ := List.append_inj same rfl
      rw [hexByte_injective first, ih rest]

def hexadecimal (value : Nat) : List Char :=
  if value < 16 then [hexDigit value] else hexadecimal (value / 16) ++ [hexDigit (value % 16)]
termination_by value

def readHex? (digits : List Char) : Option Nat :=
  digits.foldlM (fun value c => (hexValue? c).map (value * 16 + ·)) 0

def readBytes? : List Char → Option (List UInt8)
  | [] => some []
  | [_] => none
  | high :: low :: rest => do
    let upper ← hexValue? high
    let lower ← hexValue? low
    let bytes ← readBytes? rest
    return UInt8.ofNat (upper * 16 + lower) :: bytes

theorem isHexDigit_iff {c : Char} :
    isHexDigit c = true ↔ ('0' ≤ c ∧ c ≤ '9') ∨ ('a' ≤ c ∧ c ≤ 'f') ∨ ('A' ≤ c ∧ c ≤ 'F') := by
  have decided (within : Prop) [Decidable within] (value : Nat) (others : Option Nat) :
      (if within then some value else others).isSome = true ↔ within ∨ others.isSome = true := by
    split <;> simp [*]
  rw [isHexDigit, hexValue?, decided, decided, decided]
  simp

theorem toNat_lt_of_isHexDigit {c : Char} (digit : isHexDigit c = true) : c.toNat < 128 := by
  rw [isHexDigit_iff] at digit
  simp only [Char.le_def, UInt32.le_iff_toNat_le, Char.reduceVal, UInt32.reduceToNat] at digit
  rw [Char.toNat]
  omega

theorem forall_isHexDigit (holds : Char → Prop)
    (early : ∀ code < 128, isHexDigit (Char.ofNat code) = true → holds (Char.ofNat code))
    {c : Char} (digit : isHexDigit c = true) : holds c := by
  have own := early c.toNat (toNat_lt_of_isHexDigit digit)
  rw [Char.ofNat_toNat] at own
  exact own digit

theorem map_hexDigit_hexValue? {c : Char} (digit : isHexDigit c = true) :
    (hexValue? c).map hexDigit = some c.toLower :=
  forall_isHexDigit (fun c => (hexValue? c).map hexDigit = some c.toLower) (by decide) digit

theorem hexValue?_toLower {c : Char} (digit : isHexDigit c = true) :
    hexValue? c.toLower = hexValue? c :=
  forall_isHexDigit (fun c => hexValue? c.toLower = hexValue? c) (by decide) digit

theorem hexValue?_lt {c : Char} {value : Nat} (reads : hexValue? c = some value) : value < 16 := by
  have digit : isHexDigit c = true := by rw [isHexDigit, reads, Option.isSome_some]
  have small : ∀ value ∈ hexValue? c, value < 16 :=
    forall_isHexDigit (fun c => ∀ value ∈ hexValue? c, value < 16) (by decide) digit
  exact small value reads

theorem hexByte_ofNat {high low : Char} {upper lower : Nat} (first : hexValue? high = some upper)
    (second : hexValue? low = some lower) :
    hexByte (UInt8.ofNat (upper * 16 + lower)) = [high.toLower, low.toLower] := by
  have highDigit : isHexDigit high = true := by rw [isHexDigit, first, Option.isSome_some]
  have lowDigit : isHexDigit low = true := by rw [isHexDigit, second, Option.isSome_some]
  have upperDigit : hexDigit upper = high.toLower := by
    simpa [first] using map_hexDigit_hexValue? highDigit
  have lowerDigit : hexDigit lower = low.toLower := by
    simpa [second] using map_hexDigit_hexValue? lowDigit
  have upperSmall := hexValue?_lt first
  have lowerSmall := hexValue?_lt second
  have value : (UInt8.ofNat (upper * 16 + lower)).toNat = upper * 16 + lower := by
    rw [UInt8.toNat_ofNat']
    omega
  have quotient : (upper * 16 + lower) / 16 = upper := by omega
  have remainder : (upper * 16 + lower) % 16 = lower := by omega
  rw [hexByte, value, quotient, remainder, upperDigit, lowerDigit]

theorem length_flatMap_hexByte (bytes : List UInt8) :
    (bytes.flatMap hexByte).length = 2 * bytes.length := by
  induction bytes with
  | nil => rfl
  | cons byte rest ih =>
    rw [List.flatMap_cons, List.length_append, ih, List.length_cons, hexByte]
    simp only [List.length_cons, List.length_nil]
    omega

theorem flatMap_hexByte_of_readBytes? {text : List Char} {bytes : List UInt8}
    (read : readBytes? text = some bytes) :
    (∀ c ∈ text, isHexDigit c = true) ∧ bytes.flatMap hexByte = text.map Char.toLower := by
  fun_induction readBytes? text generalizing bytes with
  | case1 =>
    cases read
    simp
  | case2 c => cases read
  | case3 high low rest ih =>
    simp only [Option.bind_eq_bind, Option.bind_eq_some_iff] at read
    obtain ⟨upper, first, lower, second, others, later, whole⟩ := read
    cases whole
    obtain ⟨digits, written⟩ := ih later
    have pair := hexByte_ofNat first second
    constructor
    · simpa [isHexDigit, first, second] using digits
    · rw [List.flatMap_cons, pair, written]
      rfl

theorem exists_readBytes? {text : List Char} (digits : ∀ c ∈ text, isHexDigit c = true)
    (even : text.length % 2 = 0) : ∃ bytes, readBytes? text = some bytes := by
  fun_induction readBytes? text with
  | case1 => exact ⟨[], rfl⟩
  | case2 c => cases even
  | case3 high low rest ih =>
    obtain ⟨first, others⟩ := List.forall_mem_cons.mp digits
    obtain ⟨second, others⟩ := List.forall_mem_cons.mp others
    obtain ⟨upper, high⟩ := Option.isSome_iff_exists.mp first
    obtain ⟨lower, low⟩ := Option.isSome_iff_exists.mp second
    have shorter : rest.length % 2 = 0 := by
      rw [List.length_cons, List.length_cons] at even
      omega
    obtain ⟨bytes, later⟩ := ih others shorter
    exact ⟨_, by rw [high, low, later]; rfl⟩

end CommitAdmission.Text
