import CommitAdmission.Memory
import CommitAdmission.Proofs.ChangeIds

/-! The refs under which commits are pushed for review: those under `refs/for/`, and those that name a
change as `refs/changes/[XX/]N[/PS]`. A ref may be read as such a name in two ways. -/

namespace CommitAdmission

open Text

def IsNumeral (text : List Char) : Prop :=
  ∃ first rest, text = first :: rest ∧ '1' ≤ first ∧ first ≤ '9' ∧ ∀ c ∈ rest, isDigit c = true

theorem isDigit_ne_zero_iff (c : Char) : (isDigit c = true ∧ c ≠ '0') ↔ '1' ≤ c ∧ c ≤ '9' := by
  rw [ne_eq, ← Char.toNat_inj]
  simp only [isDigit, Bool.and_eq_true, decide_eq_true_eq, Char.le_def, UInt32.le_iff_toNat_le,
    Char.reduceVal, UInt32.reduceToNat, Char.toNat]
  omega

theorem isNumeral_iff (piece : List Char) : RefName.isNumeral piece = true ↔ IsNumeral piece := by
  cases piece with
  | nil => simp [RefName.isNumeral, IsNumeral]
  | cons first rest =>
    have shape : IsNumeral (first :: rest) ↔
        ('1' ≤ first ∧ first ≤ '9') ∧ ∀ c ∈ rest, isDigit c = true := by
      simp only [IsNumeral, List.cons.injEq, exists_and_left, exists_eq_left', and_assoc]
    rw [shape, ← isDigit_ne_zero_iff]
    simp only [RefName.isNumeral, List.all_cons, List.isEmpty_cons, List.head?_cons,
      Bool.and_eq_true, Bool.not_false, List.all_eq_true, bne_iff_ne, ne_eq, Option.some.injEq,
      and_true]
    exact and_right_comm

namespace IsNumeral

variable {text : List Char}

theorem digits (numeral : IsNumeral text) : ∀ c ∈ text, isDigit c = true := by
  obtain ⟨first, rest, rfl, low, high, others⟩ := numeral
  have own : isDigit first = true := ((isDigit_ne_zero_iff first).mpr ⟨low, high⟩).1
  exact List.forall_mem_cons.mpr ⟨own, others⟩

theorem ne_nil (numeral : IsNumeral text) : text ≠ [] := by
  obtain ⟨first, rest, rfl, _⟩ := numeral
  exact List.cons_ne_nil first rest

end IsNumeral

theorem isShard_iff (piece : List Char) :
    RefName.isShard piece = true ↔ piece.length = 2 ∧ ∀ c ∈ piece, isDigit c = true := by
  rw [RefName.isShard, Bool.and_eq_true, beq_iff_eq, List.all_eq_true]

theorem slash_notMem {digits : List Char} (allDigits : ∀ c ∈ digits, isDigit c = true) :
    '/' ∉ digits := by
  intro member
  have impossible : isDigit '/' = true := allDigits _ member
  exact absurd impossible (by decide)

/-- A way to read a ref as the name of a change: with or without a shard of two digits before the
number of the change, and with or without the number of a patch set after it. -/
structure ChangeRef where
  shard : Option (List Char)
  change : List Char
  patchSet : Option (List Char)
  shard_digits : ∀ piece ∈ shard, piece.length = 2 ∧ ∀ c ∈ piece, isDigit c = true
  change_numeral : IsNumeral change
  patchSet_numeral : ∀ piece ∈ patchSet, IsNumeral piece

namespace ChangeRef

variable (reading : ChangeRef)

/-- The ref, part by part as in `refs/changes/(?:[0-9][0-9]/)?([1-9][0-9]*)(?:/[1-9][0-9]*)?`. -/
def spelling : List Char :=
  RefName.changesSpace.toList ++ reading.shard.elim [] (· ++ ['/']) ++ reading.change ++
    reading.patchSet.elim [] ('/' :: ·)

def number : Nat := digitsValue reading.change

def pieces : List (List Char) :=
  reading.shard.toList ++ reading.change :: reading.patchSet.toList

theorem spelling_eq :
    reading.spelling = RefName.changesSpace.toList ++ joinWith ['/'] reading.pieces := by
  rw [spelling, pieces, List.append_assoc, List.append_assoc]
  congr 1
  cases reading.shard <;> cases reading.patchSet <;> simp [joinWith]

theorem pieces_ne_nil : reading.pieces ≠ [] := by simp [pieces]

theorem slash_notMem_pieces : ∀ piece ∈ reading.pieces, '/' ∉ piece := by
  intro piece member
  apply slash_notMem
  simp only [pieces, List.mem_append, Option.mem_toList, List.mem_cons] at member
  rcases member with shard | rfl | patchSet
  · exact (reading.shard_digits piece shard).2
  · exact reading.change_numeral.digits
  · exact (reading.patchSet_numeral piece patchSet).digits

/-- The piece that is taken for the number of the change is that of the reading, but for a number of
two digits, which may be taken for a shard. -/
theorem changePiece?_pieces :
    ∃ piece, RefName.changePiece? reading.pieces = some piece ∧
      (piece = reading.change ∨ reading.change.length = 2) := by
  have change : RefName.isNumeral reading.change = true :=
    (isNumeral_iff _).mpr reading.change_numeral
  cases shard : reading.shard with
  | none =>
    cases patchSet : reading.patchSet with
    | none =>
      refine ⟨reading.change, ?_, .inl rfl⟩
      simp [pieces, shard, patchSet, RefName.changePiece?, change]
    | some number =>
      have numeral : RefName.isNumeral number = true :=
        (isNumeral_iff _).mpr (reading.patchSet_numeral number patchSet)
      -- A change of two digits before a patch set is taken for a shard before a change.
      cases ambiguous : RefName.isShard reading.change with
      | true =>
        refine ⟨number, ?_, .inr ((isShard_iff _).mp ambiguous).1⟩
        simp [pieces, shard, patchSet, RefName.changePiece?, numeral, ambiguous]
      | false =>
        refine ⟨reading.change, ?_, .inl rfl⟩
        simp [pieces, shard, patchSet, RefName.changePiece?, change, numeral, ambiguous]
  | some digits =>
    have sharded : RefName.isShard digits = true :=
      (isShard_iff _).mpr (reading.shard_digits digits shard)
    refine ⟨reading.change, ?_, .inl rfl⟩
    cases patchSet : reading.patchSet with
    | none => simp [pieces, shard, patchSet, RefName.changePiece?, change, sharded]
    | some number =>
      have numeral : RefName.isNumeral number = true :=
        (isNumeral_iff _).mpr (reading.patchSet_numeral number patchSet)
      simp [pieces, shard, patchSet, RefName.changePiece?, change, sharded, numeral]

theorem exists_reading {pieces : List (List Char)} {piece : List Char}
    (found : RefName.changePiece? pieces = some piece) :
    ∃ reading : ChangeRef, reading.pieces = pieces ∧ reading.change = piece := by
  unfold RefName.changePiece? at found
  split at found
  case h_1 change =>
    split at found
    case isTrue numeral =>
      obtain rfl := Option.some.inj found
      rw [isNumeral_iff] at numeral
      exact ⟨⟨none, change, none, by simp, numeral, by simp⟩, rfl, rfl⟩
    case isFalse => cases found
  case h_2 first second =>
    split at found
    case isTrue parts =>
      obtain rfl := Option.some.inj found
      rw [Bool.and_eq_true, isShard_iff, isNumeral_iff] at parts
      obtain ⟨digits, numeral⟩ := parts
      exact ⟨⟨some first, second, none, by simpa using digits, numeral, by simp⟩, rfl, rfl⟩
    case isFalse =>
      split at found
      case isTrue parts =>
        obtain rfl := Option.some.inj found
        rw [Bool.and_eq_true, isNumeral_iff, isNumeral_iff] at parts
        obtain ⟨numeral, last⟩ := parts
        exact ⟨⟨none, first, some second, by simp, numeral, by simpa using last⟩, rfl, rfl⟩
      case isFalse => cases found
  case h_3 shard change patchSet =>
    split at found
    case isTrue parts =>
      obtain rfl := Option.some.inj found
      rw [Bool.and_eq_true, Bool.and_eq_true, isShard_iff, isNumeral_iff, isNumeral_iff] at parts
      obtain ⟨⟨digits, numeral⟩, last⟩ := parts
      exact ⟨⟨some shard, change, some patchSet, by simpa using digits, numeral,
        by simpa using last⟩, rfl, rfl⟩
    case isFalse => cases found
  case h_4 => cases found

theorem number_lt_of_two_digits (two : reading.change.length = 2) :
    reading.number < UInt32.size := by
  have small : reading.number < 100 := digitsValue_lt_of_two two reading.change_numeral.digits
  exact Nat.lt_trans small (by decide)

end ChangeRef

namespace RefName

variable {ref : String} {reading : ChangeRef}

theorem newPatchSetChange?_of_pieces {pieces : List (List Char)} (present : pieces ≠ [])
    (plain : ∀ piece ∈ pieces, '/' ∉ piece)
    (whole : ref.toList = changesSpace.toList ++ joinWith ['/'] pieces) :
    newPatchSetChange? ref =
      (changePiece? pieces).bind fun piece =>
        (readDigits? UInt32.size piece).map UInt32.ofNat := by
  have rest : after? changesSpace.toList ref.toList = some (joinWith ['/'] pieces) :=
    after?_eq_some_iff.mpr whole
  simp only [newPatchSetChange?, rest, Option.bind_eq_bind, Option.bind_some,
    splitOn_joinWith present plain, Option.map_eq_bind]
  rfl

theorem newPatchSetChange?_of_reading (reads : reading.spelling = ref.toList) :
    newPatchSetChange? ref =
      (changePiece? reading.pieces).bind fun piece =>
        (readDigits? UInt32.size piece).map UInt32.ofNat := by
  apply newPatchSetChange?_of_pieces reading.pieces_ne_nil reading.slash_notMem_pieces
  rw [← reads, reading.spelling_eq]

theorem exists_reading_of_ne_none (addressed : newPatchSetChange? ref ≠ none) :
    ∃ reading : ChangeRef, reading.spelling = ref.toList := by
  obtain ⟨number, found⟩ := Option.ne_none_iff_exists'.mp addressed
  simp only [newPatchSetChange?, Option.bind_eq_bind, Option.bind_eq_some_iff] at found
  obtain ⟨rest, whole, piece, isPiece, _⟩ := found
  obtain ⟨reading, pieces, _⟩ := ChangeRef.exists_reading isPiece
  refine ⟨reading, ?_⟩
  rw [reading.spelling_eq, pieces, joinWith_splitOn, after?_eq_some_iff.mp whole]

theorem readDigits?_change (reading : ChangeRef) :
    readDigits? UInt32.size reading.change =
      if reading.number < UInt32.size then some reading.number else none :=
  readDigits?_of_digits _ reading.change_numeral.ne_nil reading.change_numeral.digits

/-- A ref addresses a change if it can be read as the name of one, and every number that it may be
read to name is one that a change can have. -/
theorem newPatchSetChange?_ne_none_iff (ref : String) :
    newPatchSetChange? ref ≠ none ↔
      (∃ reading : ChangeRef, reading.spelling = ref.toList) ∧
      ∀ reading : ChangeRef, reading.spelling = ref.toList → reading.number < UInt32.size := by
  constructor
  · intro addressed
    refine ⟨exists_reading_of_ne_none addressed, ?_⟩
    intro reading reads
    obtain ⟨piece, found, same | two⟩ := reading.changePiece?_pieces
    · rw [newPatchSetChange?_of_reading reads, found, Option.bind_some, same,
        readDigits?_change] at addressed
      by_cases fits : reading.number < UInt32.size
      · exact fits
      · rw [if_neg fits] at addressed
        exact absurd rfl addressed
    · exact reading.number_lt_of_two_digits two
  · intro given
    obtain ⟨⟨reading, reads⟩, fits⟩ := given
    obtain ⟨piece, found, _⟩ := reading.changePiece?_pieces
    obtain ⟨taken, pieces, change⟩ := ChangeRef.exists_reading found
    have spelled : taken.spelling = ref.toList := by
      rw [← reads, taken.spelling_eq, reading.spelling_eq, pieces]
    rw [newPatchSetChange?_of_reading reads, found, Option.bind_some, ← change,
      readDigits?_change, if_pos (fits taken spelled)]
    exact Option.some_ne_none _

end RefName

/-- Whether pushes to a ref are checked for a Change-Id: it is under `refs/for/`, or names a change
whose number is below the bound, however it is read. -/
def IsReviewed (ref : String) : Prop :=
  "refs/for/".toList <+: ref.toList ∨
  ((∃ reading : ChangeRef, reading.spelling = ref.toList) ∧
    ∀ reading : ChangeRef, reading.spelling = ref.toList → reading.number < UInt32.size)

theorem isExpected_iff_isReviewed (ref : String) :
    ChangeId.isExpected ref = true ↔ IsReviewed ref := by
  rw [ChangeId.isExpected_iff, RefName.newPatchSetChange?_ne_none_iff, IsReviewed]

namespace ChangeIdPolicy

variable (policy : ChangeIdPolicy) (world : Collaborators) {candidate : Candidate}

theorem rejects_without_footer (expected : ChangeId.isExpected candidate.ref = true)
    (required : policy.project.requireChangeId = true)
    (absent : candidate.commit.footerValues "Change-Id" = []) :
    ∃ rejection, (policy.check world candidate).outcome = .error rejection := by
  have key : candidate.commit.footerValues Footer.changeIdKey = [] := absent
  simp only [check, expected, Bool.not_true, Bool.false_eq_true, if_false, key, required, if_true]
  split
  · exact ⟨_, rfl⟩
  · split
    · exact ⟨_, rfl⟩
    · obtain ⟨rejection, outcome, _⟩ := policy.reason_rejectWithHint world ChangeId.missing
      exact ⟨rejection, outcome⟩

theorem check_unexpected (unexpected : ChangeId.isExpected candidate.ref = false) :
    policy.check world candidate = pure () := by
  simp only [check, unexpected, Bool.not_false, if_pos]

theorem outcome_unexpected (unexpected : ChangeId.isExpected candidate.ref = false) :
    (hasChangeId policy).outcome world candidate = .ok .plain := by
  apply Validator.ofCheck_passes
  rw [policy.check_unexpected world unexpected, Check.outcome_pure]

end ChangeIdPolicy

/-- On reviewed refs, a project that requires Change-Ids gets no commit without one in a footer. On
other refs the commit does not matter. -/
theorem reviewed_refs_need_change_id (policy : ChangeIdPolicy) (world : Collaborators)
    (candidate : Candidate) :
    (IsReviewed candidate.ref → policy.project.requireChangeId = true →
      candidate.commit.footerValues "Change-Id" = [] →
      ∃ rejection, (hasChangeId policy).outcome world candidate = .error rejection) ∧
    (¬ IsReviewed candidate.ref → (hasChangeId policy).judge world candidate = ⟨.ok .plain, []⟩) := by
  rw [← isExpected_iff_isReviewed]
  constructor
  · intro expected required absent
    obtain ⟨rejection, outcome⟩ :=
      policy.rejects_without_footer world expected required absent
    refine ⟨rejection, ?_⟩
    rw [hasChangeId, Validator.outcome_ofCheck, outcome]
    rfl
  · intro unexpected
    rw [Bool.not_eq_true] at unexpected
    have passes : policy.check world candidate = pure () :=
      policy.check_unexpected world unexpected
    change (policy.check world candidate >>= fun _ => pure Info.plain) = _
    rw [passes]
    rfl

/-- A patch set needs a Change-Id, and a push to a branch needs none. -/
theorem patch_set_needs_change_id :
    let world := (Memory.empty "localhost").collaborators
    let user := User.ofAccount 1
    let person : Person := ⟨"U", "u@x"⟩
    let branch : Branch := ⟨⟨"p"⟩, "refs/heads/main"⟩
    let project : ProjectState := ⟨⟨"p"⟩, .active, true, false⟩
    let policy : ChangeIdPolicy := ⟨project, user, none, none, .none, none⟩
    let candidate (ref : String) : Candidate :=
      (ReceivedCommit.dossier ⟨⟨ref, .zero, .zero⟩, branch,
        ⟨.zero, [], person, person, "Update"⟩, user⟩).candidate world
    IsReviewed (candidate "refs/changes/34/1234/2").ref ∧
    policy.project.requireChangeId = true ∧
    (candidate "refs/changes/34/1234/2").commit.footerValues "Change-Id" = [] ∧
    (∃ rejection, (hasChangeId policy).outcome world (candidate "refs/changes/34/1234/2") =
      .error rejection) ∧
    ¬ IsReviewed (candidate "refs/heads/main").ref ∧
    (hasChangeId policy).judge world (candidate "refs/heads/main") = ⟨.ok .plain, []⟩ := by
  intro world user person branch project policy candidate
  have reviewed : IsReviewed (candidate "refs/changes/34/1234/2").ref :=
    (isExpected_iff_isReviewed _).mp (by decide)
  have direct : ¬ IsReviewed (candidate "refs/heads/main").ref := by
    rw [← isExpected_iff_isReviewed]
    decide
  have absent : (candidate "refs/changes/34/1234/2").commit.footerValues "Change-Id" = [] := by
    decide
  exact ⟨reviewed, rfl, absent,
    (reviewed_refs_need_change_id policy world _).1 reviewed rfl absent, direct,
    (reviewed_refs_need_change_id policy world _).2 direct⟩

/-- A ref that names a change by a number which no change can have is not checked. -/
theorem large_change_number_is_unchecked :
    let world := (Memory.empty "localhost").collaborators
    let user := User.ofAccount 1
    let person : Person := ⟨"U", "u@x"⟩
    let project : ProjectState := ⟨⟨"p"⟩, .active, true, false⟩
    let policy : ChangeIdPolicy := ⟨project, user, none, none, .none, none⟩
    let candidate : Candidate :=
      (ReceivedCommit.dossier ⟨⟨"refs/changes/4294967296", .zero, .zero⟩,
        ⟨⟨"p"⟩, "refs/heads/main"⟩, ⟨.zero, [], person, person, "Update"⟩, user⟩).candidate world
    (∃ reading : ChangeRef, reading.spelling = candidate.ref.toList) ∧
    policy.project.requireChangeId = true ∧
    candidate.commit.footerValues "Change-Id" = [] ∧
    (hasChangeId policy).outcome world candidate = .ok .plain := by
  intro world user person project policy candidate
  have numeral : IsNumeral "4294967296".toList := (isNumeral_iff _).mp (by decide)
  have spelled : "refs/changes/".toList ++ [] ++ "4294967296".toList ++ [] =
      "refs/changes/4294967296".toList := by decide
  have reads : ∃ reading : ChangeRef, reading.spelling = candidate.ref.toList :=
    ⟨⟨none, "4294967296".toList, none, by simp, numeral, by simp⟩, spelled⟩
  refine ⟨reads, rfl, by decide, ?_⟩
  have passes : policy.check world candidate = pure () :=
    policy.check_unexpected world (by decide)
  rw [hasChangeId, Validator.outcome_ofCheck, passes]
  rfl

end CommitAdmission
