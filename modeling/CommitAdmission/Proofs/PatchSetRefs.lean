import CommitAdmission.Change
import CommitAdmission.Proofs.ReviewRefs

/-! The refs of patch sets, read back. With its shard the ref of a patch set gives the change. Without
the shard the number of the change may itself look like one, and then the patch set is taken for the
change. -/

namespace CommitAdmission

open Text

namespace RefName

theorem all_isDigit_decimal (value : Nat) : (decimal value).all isDigit = true :=
  List.all_eq_true.mpr fun _ => isDigit_of_mem_decimal

theorem isNumeral_decimal (value : Nat) : isNumeral (decimal value) = decide (value ≠ 0) := by
  have present : (decimal value).isEmpty = false :=
    List.isEmpty_eq_false_iff.mpr (decimal_ne_nil value)
  rw [isNumeral, all_isDigit_decimal, present]
  by_cases zero : value = 0
  · rw [zero, decimal]
    rfl
  · simpa [zero] using head?_decimal_ne_zero zero

theorem isShard_decimal (value : Nat) :
    isShard (decimal value) = decide (10 ≤ value ∧ value < 100) := by
  rw [isShard, all_isDigit_decimal, Bool.and_true, Bool.eq_iff_iff, beq_iff_eq, decide_eq_true_iff]
  exact length_decimal_eq_two_iff

theorem isShard_twoDigits (value : Nat) : isShard (twoDigits value) = true := by
  have tens : isDigit (digit (value / 10 % 10)) = true := isDigit_digit _ (by omega)
  have ones : isDigit (digit (value % 10)) = true := isDigit_digit _ (by omega)
  simp [isShard, twoDigits, tens, ones]

section

variable (change number : Nat)

theorem changePiece?_change :
    changePiece? [decimal change] = if change = 0 then none else some (decimal change) := by
  by_cases zero : change = 0 <;> simp [changePiece?, isNumeral_decimal, zero]

theorem changePiece?_sharded {shard : List Char} (sharded : isShard shard = true) :
    changePiece? [shard, decimal change, decimal number] =
      if change = 0 ∨ number = 0 then none else some (decimal change) := by
  by_cases zero : change = 0 <;> by_cases unnumbered : number = 0 <;>
    simp [changePiece?, isNumeral_decimal, sharded, zero, unnumbered]

/-- Before another number, one of two digits is taken for a shard. -/
theorem changePiece?_unsharded :
    changePiece? [decimal change, decimal number] =
      if change = 0 ∨ number = 0 then none
      else some (decimal (if 10 ≤ change ∧ change < 100 then number else change)) := by
  simp only [changePiece?, isNumeral_decimal, isShard_decimal]
  by_cases two : 10 ≤ change ∧ change < 100
  · have positive : change ≠ 0 := by omega
    by_cases unnumbered : number = 0 <;> simp [two, positive, unnumbered]
  · by_cases zero : change = 0 <;> by_cases unnumbered : number = 0 <;>
      simp [two, zero, unnumbered]

end

theorem slash_notMem_decimal (value : Nat) : '/' ∉ decimal value :=
  slash_notMem fun _ => isDigit_of_mem_decimal

theorem toNat_eq_zero_iff {number : UInt32} : number.toNat = 0 ↔ number = 0 := by
  rw [← UInt32.toNat_inj, UInt32.toNat_zero]

theorem newPatchSetChange?_of_decimal {ref : String} {missing : Prop} [Decidable missing]
    {change : UInt32} (pieces : List (List Char)) (present : pieces ≠ [])
    (plain : ∀ piece ∈ pieces, '/' ∉ piece)
    (whole : ref.toList = changesSpace.toList ++ joinWith ['/'] pieces)
    (found : changePiece? pieces = if missing then none else some (decimal change.toNat)) :
    newPatchSetChange? ref = if missing then none else some change := by
  have read : (readDigits? UInt32.size (decimal change.toNat)).map UInt32.ofNat = some change := by
    rw [readDigits?_decimal, if_pos change.toNat_lt_size, Option.map_some, UInt32.ofNat_toNat]
  rw [newPatchSetChange?_of_pieces present plain whole, found]
  split
  · rfl
  · rw [Option.bind_some, read]

end RefName

/-- The ref of a patch set gives back its change, where both numbers are positive; with a zero it is
the ref of no change. -/
theorem patch_set_refs_read_back (patchSet : PatchSetId) :
    RefName.newPatchSetChange? patchSet.refName =
      if patchSet.change = 0 ∨ patchSet.number = 0 then none else some patchSet.change := by
  let shard := twoDigits (patchSet.change.toNat % 100)
  have sharded : RefName.isShard shard = true := RefName.isShard_twoDigits _
  have digits : '/' ∉ shard := slash_notMem ((isShard_iff shard).mp sharded).2
  apply RefName.newPatchSetChange?_of_decimal
    [shard, decimal patchSet.change.toNat, decimal patchSet.number.toNat]
  · simp
  · simp [digits, RefName.slash_notMem_decimal]
  · simp [PatchSetId.refName, joinWith, shard]
  · rw [RefName.changePiece?_sharded _ _ sharded]
    simp only [RefName.toNat_eq_zero_iff]

/-- Without a shard, the number of the change is found where it stands alone. Before the number of a
patch set it is found unless it has two digits: then the number of the patch set is taken for it. -/
theorem unsharded_refs_name_longer_changes (change number : UInt32) :
    RefName.newPatchSetChange? ("refs/changes/" ++ decimalText change.toNat) =
      (if change = 0 then none else some change) ∧
    RefName.newPatchSetChange?
        ("refs/changes/" ++ decimalText change.toNat ++ "/" ++ decimalText number.toNat) =
      (if change = 0 ∨ number = 0 then none
      else if 10 ≤ change ∧ change < 100 then some number else some change) := by
  constructor
  · apply RefName.newPatchSetChange?_of_decimal [decimal change.toNat]
    · simp
    · simp [RefName.slash_notMem_decimal]
    · simp [decimalText, joinWith, RefName.changesSpace]
    · rw [RefName.changePiece?_change]
      simp only [RefName.toNat_eq_zero_iff]
  · rw [← apply_ite some]
    apply RefName.newPatchSetChange?_of_decimal [decimal change.toNat, decimal number.toNat]
    · simp
    · simp [RefName.slash_notMem_decimal]
    · simp [decimalText, joinWith, RefName.changesSpace]
    · rw [RefName.changePiece?_unsharded]
      simp only [RefName.toNat_eq_zero_iff, UInt32.le_iff_toNat_le, UInt32.lt_iff_toNat_lt,
        UInt32.reduceToNat, apply_ite UInt32.toNat]

/-- The second patch set of the change 34, without its shard, is taken for the change 2. -/
theorem two_digit_change_is_taken_for_shard :
    "refs/changes/" ++ decimalText 34 ++ "/" ++ decimalText 2 = "refs/changes/34/2" ∧
    RefName.newPatchSetChange? "refs/changes/34/2" = some 2 := by
  have change : decimal 34 = ['3', '4'] := by simp [decimal, digit]
  have number : decimal 2 = ['2'] := by simp [decimal, digit]
  rw [decimalText, decimalText, change, number]
  decide

end CommitAdmission
