import CommitAdmission.Text.Split

namespace CommitAdmission.Text

def digit (value : Nat) : Char := Char.ofNat (0x30 + value)

def isDigit (c : Char) : Bool := '0' ≤ c && c ≤ '9'

def digitValue (c : Char) : Nat := c.toNat - 0x30

def decimal (value : Nat) : List Char :=
  if value < 10 then [digit value] else decimal (value / 10) ++ [digit (value % 10)]
termination_by value

/-- The decimal digits of a number below one hundred, always two of them. -/
def twoDigits (value : Nat) : List Char := [digit (value / 10 % 10), digit (value % 10)]

def decimalText (value : Nat) : String := String.ofList (decimal value)

def digitsValue (digits : List Char) : Nat :=
  digits.foldl (fun value c => value * 10 + digitValue c) 0

theorem digitValue_le {c : Char} (isDigit : isDigit c = true) : digitValue c ≤ 9 := by
  simp only [Text.isDigit, Bool.and_eq_true, decide_eq_true_eq, Char.le_def, UInt32.le_iff_toNat_le,
    Char.reduceVal, UInt32.reduceToNat] at isDigit
  rw [digitValue, Char.toNat]
  omega

theorem digitsValue_lt_of_two {digits : List Char} (two : digits.length = 2)
    (allDigits : ∀ c ∈ digits, isDigit c = true) : digitsValue digits < 100 := by
  obtain _ | ⟨tens, _ | ⟨ones, _ | _⟩⟩ := digits <;> cases two
  have tensSmall : digitValue tens ≤ 9 := digitValue_le (allDigits tens (by simp))
  have onesSmall : digitValue ones ≤ 9 := digitValue_le (allDigits ones (by simp))
  simp only [digitsValue, List.foldl_cons, List.foldl_nil]
  omega

theorem isDigit_digit : ∀ value < 10, isDigit (digit value) = true := by decide

theorem digitValue_digit : ∀ value < 10, digitValue (digit value) = value := by decide

theorem digit_ne_zero : ∀ value < 10, value ≠ 0 → digit value ≠ '0' := by decide

theorem digitsValue_concat (digits : List Char) (last : Char) :
    digitsValue (digits ++ [last]) = digitsValue digits * 10 + digitValue last := by
  rw [digitsValue, List.foldl_append]
  rfl

theorem decimal_ne_nil (value : Nat) : decimal value ≠ [] := by
  unfold decimal
  split <;> simp

theorem isDigit_of_mem_decimal {value : Nat} {c : Char} (member : c ∈ decimal value) :
    isDigit c = true := by
  fun_induction decimal value with
  | case1 value small =>
    rw [List.mem_singleton.mp member]
    exact isDigit_digit value small
  | case2 value large ih =>
    rcases List.mem_append.mp member with earlier | last
    · exact ih earlier
    · rw [List.mem_singleton.mp last]
      exact isDigit_digit _ (Nat.mod_lt _ (by omega))

theorem digitsValue_decimal (value : Nat) : digitsValue (decimal value) = value := by
  fun_induction decimal value with
  | case1 value small =>
    have single : digitsValue [digit value] = digitValue (digit value) := by
      simp [digitsValue]
    rw [single, digitValue_digit value small]
  | case2 value large ih =>
    rw [digitsValue_concat, ih, digitValue_digit _ (Nat.mod_lt _ (by omega))]
    omega

theorem head?_decimal_ne_zero {value : Nat} (positive : value ≠ 0) :
    (decimal value).head? ≠ some '0' := by
  fun_induction decimal value with
  | case1 value small => simpa using digit_ne_zero value small positive
  | case2 value large ih =>
    obtain ⟨first, rest, front⟩ := List.exists_cons_of_ne_nil (decimal_ne_nil (value / 10))
    rw [front] at ih ⊢
    exact ih (by omega)

theorem length_decimal_eq_one_iff {value : Nat} : (decimal value).length = 1 ↔ value < 10 := by
  have front : 0 < (decimal (value / 10)).length := List.length_pos_iff.mpr (decimal_ne_nil _)
  rw [decimal]
  split
  · simp [*]
  · rw [List.length_append, List.length_singleton]
    omega

theorem length_decimal_eq_two_iff {value : Nat} :
    (decimal value).length = 2 ↔ 10 ≤ value ∧ value < 100 := by
  have front : (decimal (value / 10)).length = 1 ↔ value / 10 < 10 := length_decimal_eq_one_iff
  rw [decimal]
  split
  · rw [List.length_singleton]
    omega
  · rw [List.length_append, List.length_singleton]
    omega

/-- The number below `bound` that a non-empty run of digits writes; leading zeros are allowed. -/
def readDigits? (bound : Nat) (text : List Char) : Option Nat :=
  if text.isEmpty || !text.all isDigit then none
  else
    let value := digitsValue text
    if value < bound then some value else none

theorem readDigits?_of_digits (bound : Nat) {digits : List Char} (present : digits ≠ [])
    (allDigits : ∀ c ∈ digits, isDigit c = true) :
    readDigits? bound digits =
      if digitsValue digits < bound then some (digitsValue digits) else none := by
  have readable : (digits.isEmpty || !digits.all isDigit) = false := by
    rw [Bool.or_eq_false_iff, List.isEmpty_eq_false_iff, Bool.not_eq_false', List.all_eq_true]
    exact ⟨present, allDigits⟩
  rw [readDigits?, readable, if_neg Bool.false_ne_true]

theorem readDigits?_decimal (bound value : Nat) :
    readDigits? bound (decimal value) = if value < bound then some value else none := by
  rw [readDigits?_of_digits bound (decimal_ne_nil value) fun _ => isDigit_of_mem_decimal,
    digitsValue_decimal]

theorem readDigits?_ne_none_iff {bound : Nat} {text : List Char} :
    readDigits? bound text ≠ none ↔
      text ≠ [] ∧ (∀ c ∈ text, isDigit c = true) ∧ digitsValue text < bound := by
  constructor
  · intro read
    have readable : ¬ (text.isEmpty || !text.all isDigit) = true := by
      intro refused
      rw [readDigits?, if_pos refused] at read
      exact read rfl
    rw [Bool.not_eq_true, Bool.or_eq_false_iff, List.isEmpty_eq_false_iff, Bool.not_eq_false',
      List.all_eq_true] at readable
    obtain ⟨present, allDigits⟩ := readable
    rw [readDigits?_of_digits bound present allDigits] at read
    refine ⟨present, allDigits, ?_⟩
    split at read
    · assumption
    · exact absurd rfl read
  · intro given
    obtain ⟨present, allDigits, small⟩ := given
    rw [readDigits?_of_digits bound present allDigits, if_pos small]
    exact Option.some_ne_none _

/-- As `readDigits?`, with an optional plus sign in front. -/
def readUnsigned? (bound : Nat) : List Char → Option Nat
  | '+' :: digits => readDigits? bound digits
  | text => readDigits? bound text

theorem readUnsigned?_decimal (bound value : Nat) :
    readUnsigned? bound (decimal value) = if value < bound then some value else none := by
  unfold readUnsigned?
  split
  · rename_i signed
    have plus : isDigit '+' = true := isDigit_of_mem_decimal (signed ▸ List.mem_cons_self)
    exact absurd plus (by decide)
  · exact readDigits?_decimal bound value

def IsUnsigned (bound : Nat) (text : List Char) : Prop :=
  ∃ sign digits, (sign = [] ∨ sign = ['+']) ∧ text = sign ++ digits ∧ digits ≠ [] ∧
    (∀ c ∈ digits, isDigit c = true) ∧ digitsValue digits < bound

theorem readUnsigned?_ne_none_iff {bound : Nat} {text : List Char} :
    readUnsigned? bound text ≠ none ↔ IsUnsigned bound text := by
  unfold readUnsigned?
  split
  · rename_i digits
    rw [readDigits?_ne_none_iff]
    constructor
    · intro read
      exact ⟨['+'], digits, .inr rfl, rfl, read⟩
    · rintro ⟨sign, others, rfl | rfl, whole, present, allDigits, small⟩
      · -- a plus sign is no digit
        rw [List.nil_append] at whole
        have plus : isDigit '+' = true := allDigits '+' (whole ▸ List.mem_cons_self)
        exact absurd plus (by decide)
      · cases whole
        exact ⟨present, allDigits, small⟩
  · rename_i unsigned
    rw [readDigits?_ne_none_iff]
    constructor
    · intro read
      exact ⟨[], text, .inl rfl, rfl, read⟩
    · rintro ⟨sign, digits, rfl | rfl, rfl, read⟩
      · exact read
      · exact absurd rfl (unsigned digits)

end CommitAdmission.Text
