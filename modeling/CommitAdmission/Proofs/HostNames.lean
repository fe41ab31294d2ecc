import CommitAdmission.Proofs.Lines
import CommitAdmission.ServerHost
import Mathlib.Data.List.InsertIdx

/-! The host that is read from a URL is written on one line: line ends are dropped from a URL, no host may
hold one, and decoding a label inserts none. -/

namespace CommitAdmission

open Text

namespace Text

theorem newline_notMem_decimal (value : Nat) : '\n' ∉ decimal value := by
  intro member
  have impossible : isDigit '\n' = true := isDigit_of_mem_decimal member
  exact absurd impossible (by decide)

theorem ofNat_ne_newline {code : Nat} (other : code ≠ 0x0A) : Char.ofNat code ≠ '\n' := by
  intro same
  by_cases valid : code.isValidChar
  · have own : (Char.ofNat code).toNat = code := by
      rw [Char.ofNat, dif_pos valid]
      rfl
    rw [same] at own
    exact other own.symm
  · rw [Char.ofNat, dif_neg valid] at same
    exact absurd same (by decide)

theorem hexDigit_ne_newline : ∀ value < 16, hexDigit value ≠ '\n' := by decide

theorem toUpper_hexDigit_ne_newline : ∀ value < 16, (hexDigit value).toUpper ≠ '\n' := by decide

theorem newline_notMem_hexByte (byte : UInt8) : '\n' ∉ hexByte byte := by
  have bound := byte.toNat_lt
  have high := hexDigit_ne_newline (byte.toNat / 16) (by omega)
  have low := hexDigit_ne_newline (byte.toNat % 16) (by omega)
  simp [hexByte, high.symm, low.symm]

theorem newline_notMem_hexadecimal (value : Nat) : '\n' ∉ hexadecimal value := by
  fun_induction hexadecimal value with
  | case1 value small => simpa using (hexDigit_ne_newline value small).symm
  | case2 value large ih =>
    have last := hexDigit_ne_newline (value % 16) (Nat.mod_lt _ (by omega))
    simp [ih, last.symm]

theorem mem_of_mem_splitOn {separator c : Char} {text piece : List Char}
    (member : piece ∈ splitOn separator text) (inside : c ∈ piece) : c ∈ text := by
  induction text generalizing piece with
  | nil =>
    rw [List.mem_singleton.mp member] at inside
    cases inside
  | cons d rest ih =>
    rw [splitOn, splitWhere] at member
    rw [splitOn] at ih
    cases parts : splitWhere (· == separator) rest with
    | nil => exact absurd parts (splitWhere_ne_nil _ rest)
    | cons first others =>
      rw [parts] at ih member
      split at member
      · rcases List.mem_cons.mp member with rfl | later
        · cases inside
        · exact List.mem_cons_of_mem _ (ih later inside)
      · rcases List.mem_cons.mp member with rfl | later
        · rcases List.mem_cons.mp inside with rfl | within
          · exact List.mem_cons_self
          · exact List.mem_cons_of_mem _ (ih List.mem_cons_self within)
        · exact List.mem_cons_of_mem _ (ih (List.mem_cons_of_mem _ later) inside)

theorem exists_of_mem_mapM {α β : Type} {read? : α → Option β} {items : List α} {values : List β}
    (read : items.mapM read? = some values) {value : β} (member : value ∈ values) :
    ∃ item ∈ items, read? item = some value := by
  induction items generalizing values with
  | nil =>
    cases read
    cases member
  | cons item items ih =>
    simp only [List.mapM_cons, Option.bind_eq_bind, Option.bind_eq_some_iff] at read
    obtain ⟨first, own, others, later, whole⟩ := read
    cases whole
    rcases List.mem_cons.mp member with rfl | further
    · exact ⟨item, List.mem_cons_self, own⟩
    · obtain ⟨source, listed, found⟩ := ih later further
      exact ⟨source, List.mem_cons_of_mem _ listed, found⟩

end Text

namespace Url

namespace Punycode

theorem letter_ne_newline (digit : Nat) : letter digit ≠ '\n' := by
  unfold letter
  split
  · exact ofNat_ne_newline (by omega)
  · exact ofNat_ne_newline (by omega)

theorem newline_notMem_writeNumber (bias place value : Nat) : '\n' ∉ writeNumber bias place value := by
  fun_induction writeNumber bias place value with
  | case1 => simpa using (letter_ne_newline _).symm
  | case2 place value _ limit ih => simp [(letter_ne_newline _).symm, ih]

def Writer.OnOneLine (writer : Writer) : Prop := '\n' ∉ writer.written

theorem Writer.OnOneLine.pass {writer : Writer} (plain : writer.OnOneLine) (basic code : Nat) (c : Char) :
    (writer.pass basic code c).OnOneLine := by
  unfold Writer.pass
  split
  · exact plain
  · split
    · rw [OnOneLine, List.mem_append, not_or]
      exact ⟨plain, newline_notMem_writeNumber _ _ _⟩
    · exact plain

theorem Writer.OnOneLine.foldl {writer : Writer} (plain : writer.OnOneLine) (basic code : Nat)
    (text : List Char) : (text.foldl (Writer.pass basic code) writer).OnOneLine := by
  induction text generalizing writer with
  | nil => exact plain
  | cons c rest ih => exact ih (plain.pass basic code c)

theorem newline_notMem_writeInsertions (text : List Char) (basic : Nat) (codes : List Nat) (next : Nat)
    {writer : Writer} (plain : writer.OnOneLine) :
    '\n' ∉ writeInsertions text basic codes next writer := by
  induction codes generalizing next writer with
  | nil => exact plain
  | cons code codes ih =>
    have started : Writer.OnOneLine
        { writer with step := writer.step + (code - next) * (writer.known + 1) } := plain
    exact ih _ (started.foldl basic code text)

theorem newline_notMem_encode {text : List Char} (plain : '\n' ∉ text) : '\n' ∉ encode text := by
  have basic : '\n' ∉ text.filter isAscii := fun member => plain (List.mem_filter.mp member).1
  rw [encode, List.mem_append, not_or]
  constructor
  · split
    · exact List.not_mem_nil
    · simpa using basic
  · exact newline_notMem_writeInsertions _ _ _ _ List.not_mem_nil

/-- What is inserted is not ASCII. -/
theorem newline_notMem_readInsertions {bias code place : Nat} {text insertions found : List Char}
    (beyond : 0x80 ≤ code) (plain : '\n' ∉ text)
    (read : readInsertions? bias code place text insertions = some found) : '\n' ∉ found := by
  fun_induction readInsertions? bias code place text insertions with
  | case1 bias code place text =>
    cases read
    exact plain
  | case2 => cases read
  | case3 bias code place text c rest number others _ length next valid ih =>
    have farther : 0x80 ≤ next := beyond.trans (Nat.le_add_right _ _)
    refine ih farther ?_ read
    intro member
    rcases List.eq_or_mem_of_mem_insertIdx member with inserted | earlier
    · exact ofNat_ne_newline (by omega) inserted.symm
    · exact plain earlier
  | case4 => cases read

theorem newline_notMem_decode {encoded text : List Char} (plain : '\n' ∉ encoded)
    (read : decode? encoded = some text) : '\n' ∉ text := by
  unfold decode? at read
  split at read
  · rename_i c basic insertions halves
    refine newline_notMem_readInsertions (by omega) ?_ read
    intro member
    rw [(append_of_splitLast? halves).1] at plain
    exact plain (List.mem_append_left _ member)
  · exact newline_notMem_readInsertions (by omega) List.not_mem_nil read

end Punycode

open Punycode

theorem newline_notMem_labelText {label text : List Char} (plain : '\n' ∉ label)
    (read : labelText? label = some text) : '\n' ∉ text := by
  unfold labelText? at read
  split at read
  · cases read
    exact plain
  · rename_i encoded found
    have inside : '\n' ∉ encoded := by
      rw [after?_eq_some_iff.mp found] at plain
      exact fun member => plain (List.mem_append_right _ member)
    split at read
    · cases read
    · simp only [Option.bind_eq_bind, Option.bind_eq_some_iff] at read
      obtain ⟨decoded, own, checked⟩ := read
      split at checked
      · cases checked
      · cases checked
        exact newline_notMem_decode inside own

theorem newline_notMem_writeLabel {text : List Char} (plain : '\n' ∉ text) : '\n' ∉ writeLabel text := by
  unfold writeLabel
  split
  · exact plain
  · rw [List.mem_append, not_or]
    exact ⟨by decide, newline_notMem_encode plain⟩

theorem newline_notMem_domain {text name : List Char} (read : domain? text = some name) :
    '\n' ∉ name := by
  unfold domain? at read
  simp only [Option.bind_eq_bind, Option.bind_eq_some_iff] at read
  obtain ⟨mapped, _, read⟩ := read
  split at read
  · cases read
  · rename_i allowed
    have plain : '\n' ∉ Unicode.normalized mapped.flatten := by
      intro member
      exact allowed (List.any_eq_true.mpr ⟨'\n', member, by decide⟩)
    simp only [Option.bind_eq_some_iff] at read
    obtain ⟨labels, found, read⟩ := read
    have written : ∀ label ∈ labels, '\n' ∉ writeLabel label := by
      intro label member
      obtain ⟨piece, listed, own⟩ := exists_of_mem_mapM found member
      have within : '\n' ∉ piece := fun inside => plain (mem_of_mem_splitOn listed inside)
      exact newline_notMem_writeLabel (newline_notMem_labelText within own)
    split at read
    · cases read
    · split at read
      · cases read
      · cases read
        exact notMem_joinWith (by decide) (List.forall_mem_map.mpr written)

namespace Host

theorem newline_notMem_ipv4 (address : Nat) : '\n' ∉ (ipv4 address).write := by
  apply notMem_joinWith (by decide)
  rw [List.forall_mem_map]
  exact fun weight _ => newline_notMem_decimal _

theorem newline_notMem_groups (groups : List Nat) : '\n' ∉ writeGroups groups := by
  apply notMem_joinWith (by decide)
  rw [List.forall_mem_map]
  exact fun group _ => newline_notMem_hexadecimal group

theorem newline_notMem_ipv6 (groups : List Nat) : '\n' ∉ (ipv6 groups).write := by
  have inside : '\n' ∉ writeIpv6 groups := by
    unfold writeIpv6
    split
    · exact newline_notMem_groups groups
    · simp [newline_notMem_groups]
  simp [write, inside]

theorem newline_notMem_bracketed {text : List Char} {host : Host}
    (read : bracketed? text = some host) : '\n' ∉ host.write := by
  unfold bracketed? at read
  split at read
  · obtain ⟨groups, _, rfl⟩ := Option.map_eq_some_iff.mp read
    exact newline_notMem_ipv6 groups
  · cases read

theorem newline_notMem_web {text : List Char} {host : Host} (read : ofWeb? text = some host) :
    '\n' ∉ host.write := by
  unfold ofWeb? at read
  split at read
  · exact newline_notMem_bracketed read
  · simp only [Option.bind_eq_bind, Option.bind_eq_some_iff] at read
    obtain ⟨_, _, name, own, read⟩ := read
    split at read
    · cases read
    · split at read
      · obtain ⟨address, _, rfl⟩ := Option.map_eq_some_iff.mp read
        exact newline_notMem_ipv4 address
      · cases read
        exact newline_notMem_domain own

theorem newline_notMem_percentEscaped (byte : UInt8) : '\n' ∉ percentEscaped byte := by
  have bound := byte.toNat_lt
  have high := toUpper_hexDigit_ne_newline (byte.toNat / 16) (by omega)
  have low := toUpper_hexDigit_ne_newline (byte.toNat % 16) (by omega)
  simp [percentEscaped, hexByte, high.symm, low.symm]

theorem newline_notMem_escapeElsewhere {c : Char} (other : c ≠ '\n') : '\n' ∉ escapeElsewhere c := by
  unfold escapeElsewhere
  split
  · intro member
    obtain ⟨byte, _, inside⟩ := List.mem_flatMap.mp member
    exact newline_notMem_percentEscaped byte inside
  · simpa using other.symm

theorem newline_notMem_other {text : List Char} {host : Host} (read : ofOther? text = some host) :
    '\n' ∉ host.write := by
  unfold ofOther? at read
  split at read
  · exact newline_notMem_bracketed read
  · split at read
    · cases read
    · rename_i allowed
      cases read
      intro member
      obtain ⟨c, listed, inside⟩ := List.mem_flatMap.mp member
      have other : c ≠ '\n' := by
        rintro rfl
        exact allowed (List.any_eq_true.mpr ⟨'\n', listed, by decide⟩)
      exact newline_notMem_escapeElsewhere other inside

end Host

theorem newline_notMem_authorityHost {kind : SchemeKind} {text : List Char} {host : Host}
    (read : authorityHost kind text = .host host) : '\n' ∉ host.write := by
  unfold authorityHost at read
  simp only at read
  split at read
  · cases read
  · split at read
    · cases read
    · split at read
      · split at read <;> cases read
      · split at read
        · rename_i found given
          cases read
          split at given
          · exact Host.newline_notMem_web given
          · exact Host.newline_notMem_other given
        · cases read

theorem newline_notMem_fileHost {text : List Char} {host : Host}
    (read : fileHost text = .host host) : '\n' ∉ host.write := by
  unfold fileHost at read
  split at read
  · split at read
    · simp only at read
      split at read
      · cases read
      · split at read
        · cases read
        · rename_i found given
          split at read
          · cases read
          · split at read
            · cases read
            · cases read
              exact Host.newline_notMem_web given
    · cases read
  · cases read

theorem newline_notMem_readHost {url : String} {host : Host} (read : readHost url = .host host) :
    '\n' ∉ host.write := by
  unfold readHost at read
  split at read
  · cases read
  · split at read
    · exact newline_notMem_authorityHost read
    · exact newline_notMem_fileHost read
    · split at read
      · exact newline_notMem_authorityHost read
      · cases read

end Url

theorem serverHost_eq_or_notMem (system : String) (webUrl : Option String) :
    (serverHost system webUrl).1 = system ∨ '\n' ∉ (serverHost system webUrl).1.toList := by
  unfold serverHost
  split
  · exact .inl rfl
  · split
    · rename_i host read
      rw [String.toList_ofList]
      exact .inr (Url.newline_notMem_readHost read)
    · exact .inl rfl
    · exact .inl rfl

end CommitAdmission
