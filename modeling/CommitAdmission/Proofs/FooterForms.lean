import CommitAdmission.Proofs.FooterBlocks

/-! Footers written out. A footer takes one line, and what is read from a line can be written on one, so
footers written below any text are the footers of the message. -/

namespace CommitAdmission

open Text

namespace Footer

structure IsWritable (footer : Footer) : Prop where
  key_ne_empty : footer.key ≠ ""
  key_chars : ∀ c ∈ footer.key.toList,
    ('A' ≤ c ∧ c ≤ 'Z') ∨ ('a' ≤ c ∧ c ≤ 'z') ∨ ('0' ≤ c ∧ c ≤ '9') ∨ c = '-'
  value_on_one_line : '\n' ∉ footer.value.toList
  value_trimmed : trim footer.value.toList = footer.value.toList

def line (footer : Footer) : List Char := footer.key.toList ++ ':' :: ' ' :: footer.value.toList

def written (footers : List Footer) : String := String.ofList (joinWith ['\n'] (footers.map line))

theorem isKeyChar_iff (c : Char) :
    isKeyChar c = true ↔
      ('A' ≤ c ∧ c ≤ 'Z') ∨ ('a' ≤ c ∧ c ≤ 'z') ∨ ('0' ≤ c ∧ c ≤ '9') ∨ c = '-' := by
  have letter : c.isAlpha = (decide ('A' ≤ c ∧ c ≤ 'Z') ||
      decide ('a' ≤ c) && decide (c ≤ 'z')) := rfl
  have digit : c.isDigit = (decide ('0' ≤ c) && decide (c ≤ '9')) := rfl
  rw [isKeyChar, Char.isAlphanum, letter, digit]
  simp only [Bool.or_eq_true, Bool.and_eq_true, decide_eq_true_eq, beq_iff_eq, or_assoc]

theorem isBlank_of_isKeyChar {c : Char} (keyChar : isKeyChar c = true) : isBlank c = false := by
  have bounds : 45 ≤ c.toNat ∧ c.toNat ≤ 122 := by
    rw [isKeyChar_iff] at keyChar
    simp only [Char.le_def, UInt32.le_iff_toNat_le, Char.reduceVal, UInt32.reduceToNat] at keyChar
    rw [Char.toNat]
    rcases keyChar with upper | lower | digit | rfl
    · omega
    · omega
    · omega
    · decide
  simp [isBlank, blankRanges]
  omega

theorem colon_notMem_key {key : List Char} (keyChars : ∀ c ∈ key, isKeyChar c = true) :
    ':' ∉ key := by
  intro member
  have impossible : isKeyChar ':' = true := keyChars _ member
  exact absurd impossible (by decide)

theorem ofLine?_append {key : List Char} (present : key ≠ [])
    (keyChars : ∀ c ∈ key, isKeyChar c = true) (value : List Char) :
    ofLine? (key ++ ':' :: value) = some ⟨String.ofList key, String.ofList (trim value)⟩ := by
  have valid : (key.isEmpty || !key.all isKeyChar) = false := by
    rw [Bool.or_eq_false_iff, List.isEmpty_eq_false_iff, Bool.not_eq_false', List.all_eq_true]
    exact ⟨present, keyChars⟩
  rw [ofLine?, splitFirst?_append (colon_notMem_key keyChars)]
  simp only [valid, Bool.false_eq_true, if_false]

theorem ofLine?_append_spaced {key : List Char} (present : key ≠ [])
    (keyChars : ∀ c ∈ key, isKeyChar c = true) (value : List Char) :
    ofLine? (key ++ ':' :: ' ' :: value) =
      some ⟨String.ofList key, String.ofList (trim value)⟩ := by
  rw [ofLine?_append present keyChars, trim_cons_of_blank (by decide)]

theorem exists_of_ofLine? {line : List Char} {footer : Footer} (found : ofLine? line = some footer) :
    ∃ value, line = footer.key.toList ++ ':' :: value ∧ footer.key ≠ "" ∧
      (∀ c ∈ footer.key.toList, isKeyChar c = true) ∧ footer.value.toList = trim value := by
  unfold ofLine? at found
  split at found
  · cases found
  · rename_i key value halves
    split at found
    · cases found
    · rename_i valid
      rw [Bool.not_eq_true, Bool.or_eq_false_iff, List.isEmpty_eq_false_iff, Bool.not_eq_false',
        List.all_eq_true] at valid
      obtain ⟨present, keyChars⟩ := valid
      cases found
      simp only [String.toList_ofList]
      refine ⟨value, (append_of_splitFirst? halves).1, ?_, keyChars, rfl⟩
      simpa using present

theorem IsWritable.isKeyChar {footer : Footer} (writable : footer.IsWritable) :
    ∀ c ∈ footer.key.toList, Footer.isKeyChar c = true := fun c member =>
  (isKeyChar_iff c).mpr (writable.key_chars c member)

theorem IsWritable.key_ne_nil {footer : Footer} (writable : footer.IsWritable) :
    footer.key.toList ≠ [] := by
  rw [ne_eq, String.toList_eq_nil_iff]
  exact writable.key_ne_empty

theorem IsWritable.ofLine?_line {footer : Footer} (writable : footer.IsWritable) :
    ofLine? footer.line = some footer := by
  rw [line, ofLine?_append_spaced writable.key_ne_nil writable.isKeyChar, writable.value_trimmed,
    String.ofList_toList, String.ofList_toList]

theorem IsWritable.newline_notMem_line {footer : Footer} (writable : footer.IsWritable) :
    '\n' ∉ footer.line := by
  have key : '\n' ∉ footer.key.toList := fun member =>
    absurd (writable.isKeyChar _ member) (by decide)
  simp [line, key, writable.value_on_one_line]

theorem IsWritable.line_dark {footer : Footer} (writable : footer.IsWritable) :
    allBlank footer.line = false := by
  obtain ⟨c, member⟩ := List.exists_mem_of_ne_nil _ writable.key_ne_nil
  have dark : isBlank c = false := isBlank_of_isKeyChar (writable.isKeyChar c member)
  rw [allBlank, List.all_eq_false]
  exact ⟨c, List.mem_append_left _ member, Bool.eq_false_iff.mp dark⟩

theorem isWritable_of_ofLine? {text : List Char} {footer : Footer} (plain : '\n' ∉ text)
    (found : ofLine? text = some footer) : footer.IsWritable := by
  obtain ⟨value, rfl, present, keyChars, trimmed⟩ := exists_of_ofLine? found
  refine ⟨present, fun c member => (isKeyChar_iff c).mp (keyChars c member), ?_, ?_⟩
  · rw [trimmed]
    intro member
    exact plain (List.mem_append_right _ (List.mem_cons_of_mem _ (mem_of_mem_trim member)))
  · rw [trimmed, trim_trim]

theorem isWritable_of_mem {message : String} {footer : Footer}
    (member : footer ∈ ofMessage message) : footer.IsWritable := by
  rw [ofMessage_eq_lastBlock, List.mem_filterMap] at member
  obtain ⟨text, inBlock, found⟩ := member
  have isLine : text ∈ splitOn '\n' message.toList :=
    List.mem_of_mem_tail (lastBlock_subset _ inBlock)
  exact isWritable_of_ofLine? (notMem_of_mem_splitOn isLine) found

theorem ofMessage_written {footers : List Footer} (present : footers ≠ [])
    (writable : ∀ footer ∈ footers, footer.IsWritable) (body : String) (newlines : Nat) :
    ofMessage (body ++ "\n\n" ++ written footers ++
      String.ofList (List.replicate newlines '\n')) = footers := by
  have lines : footers.map line ≠ [] := by simpa using present
  have plain : ∀ text ∈ footers.map line, '\n' ∉ text :=
    List.forall_mem_map.mpr fun footer member => (writable footer member).newline_notMem_line
  have dark : ∀ text ∈ footers.map line, allBlank text = false :=
    List.forall_mem_map.mpr fun footer member => (writable footer member).line_dark
  have read : ∀ footer ∈ footers, (ofLine? ∘ line) footer = some footer :=
    fun footer member => (writable footer member).ofLine?_line
  rw [written, ofMessage_append_paragraph plain dark lines, List.filterMap_map,
    List.filterMap_congr read, List.filterMap_some]

theorem ofLine?_of_blank {line : List Char} (blank : allBlank line = true) : ofLine? line = none := by
  cases found : ofLine? line with
  | none => rfl
  | some footer =>
    obtain ⟨value, rfl, _⟩ := exists_of_ofLine? found
    have colon : isBlank ':' = true :=
      List.all_eq_true.mp blank ':' (List.mem_append_right _ List.mem_cons_self)
    exact absurd colon (by decide)

section Line

variable {line : String} {footer : Footer} (found : ofLine? line.toList = some footer)
  (plain : '\n' ∉ line.toList)

include found

theorem dark_of_ofLine? : allBlank line.toList = false := by
  rw [← Bool.not_eq_true]
  intro blank
  rw [ofLine?_of_blank blank] at found
  cases found

theorem filterMap_ofLine?_line : [line.toList].filterMap ofLine? = [footer] := by
  rw [List.filterMap_cons_some found, List.filterMap_nil]

include plain

theorem ofMessage_append_own_line (body : String) :
    ofMessage (body ++ "\n\n" ++ line ++ "\n") = [footer] := by
  have read := ofMessage_append_paragraph (List.forall_mem_singleton.mpr plain)
    (List.forall_mem_singleton.mpr (dark_of_ofLine? found)) (List.cons_ne_nil _ _) 1 body
  rw [joinWith, String.ofList_toList, filterMap_ofLine?_line found] at read
  exact read

theorem ofMessage_append_last_line (message : String) :
    ofMessage (String.ofList (dropFinalNewlines message.toList) ++ "\n" ++ line ++ "\n") =
      ofMessage message ++ [footer] := by
  have read := ofMessage_append_continuation (List.forall_mem_singleton.mpr plain)
    (List.forall_mem_singleton.mpr (dark_of_ofLine? found)) (List.cons_ne_nil _ _) 1 message
  rw [joinWith, String.ofList_toList, filterMap_ofLine?_line found] at read
  exact read

end Line

end Footer

/-- Footers written below any text are the footers of the message. The footers of every message are such
that they can be written. -/
theorem footers_round_trip :
    (∀ (body : String) (footers : List Footer) (newlines : Nat), footers ≠ [] →
      (∀ footer ∈ footers, footer.IsWritable) →
      Footer.ofMessage (body ++ "\n\n" ++ Footer.written footers ++
        String.ofList (List.replicate newlines '\n')) = footers) ∧
    (∀ message, ∀ footer ∈ Footer.ofMessage message, footer.IsWritable) ∧
    ∀ (body : String) (footers : List Footer) (newlines : Nat), footers ≠ [] →
      (∀ footer ∈ footers, ∃ message, footer ∈ Footer.ofMessage message) →
      Footer.ofMessage (body ++ "\n\n" ++ Footer.written footers ++
        String.ofList (List.replicate newlines '\n')) = footers := by
  refine ⟨?_, fun message footer => Footer.isWritable_of_mem, ?_⟩
  · intro body footers newlines present writable
    exact Footer.ofMessage_written present writable body newlines
  · intro body footers newlines present parsed
    apply Footer.ofMessage_written present
    intro footer member
    obtain ⟨message, read⟩ := parsed footer member
    exact Footer.isWritable_of_mem read

/-- A body that ends with a footer of its own, and a footer without a value. -/
theorem footers_below_footer :
    let footers : List Footer := [⟨"Change-Id", "I1"⟩, ⟨"Note", ""⟩]
    footers ≠ [] ∧ (∀ footer ∈ footers, footer ∈ Footer.ofMessage "Fix\n\nChange-Id: I1\nNote:") ∧
    (∀ footer ∈ footers, footer.IsWritable) ∧
    Footer.ofMessage ("Fix\n\nBug: 7" ++ "\n\n" ++ Footer.written footers ++
      String.ofList (List.replicate 2 '\n')) = footers := by
  intro footers
  have present : footers ≠ [] := List.cons_ne_nil _ _
  have parsed : ∀ footer ∈ footers, footer ∈ Footer.ofMessage "Fix\n\nChange-Id: I1\nNote:" := by
    decide
  have writable : ∀ footer ∈ footers, footer.IsWritable := fun footer member =>
    footers_round_trip.2.1 _ footer (parsed footer member)
  exact ⟨present, parsed, writable, footers_round_trip.1 "Fix\n\nBug: 7" footers 2 present writable⟩

end CommitAdmission
