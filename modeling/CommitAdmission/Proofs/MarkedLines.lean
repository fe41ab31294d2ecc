import CommitAdmission.Proofs.Lines

/-! Lines that read as a given one, the mark, in texts that are put together from parts. What a part adds
depends on the last line before it, of which one of four things is known. -/

namespace CommitAdmission.Text

theorem splitOn_append {separator : Char} {text more last first : List Char}
    {pieces others : List (List Char)} (parts : splitOn separator text = pieces ++ [last])
    (added : splitOn separator more = first :: others) :
    splitOn separator (text ++ more) = pieces ++ (last ++ first) :: others := by
  have plain : ∀ piece ∈ pieces ++ [last], separator ∉ piece := by
    intro piece member
    exact notMem_of_mem_splitOn (parts ▸ member)
  rw [← joinWith_splitOn separator text, parts]
  clear parts
  induction pieces with
  | nil =>
    have unseparated : ∀ c ∈ last, (c == separator) = false := by
      intro c member
      rw [beq_eq_false_iff_ne]
      rintro rfl
      exact plain last List.mem_cons_self member
    exact splitWhere_append unseparated added
  | cons piece pieces ih =>
    obtain ⟨own, rest⟩ := List.forall_mem_cons.mp plain
    have joined : joinWith [separator] (piece :: (pieces ++ [last])) =
        piece ++ separator :: joinWith [separator] (pieces ++ [last]) := by
      cases pieces <;> simp [joinWith]
    rw [List.cons_append, joined, List.append_assoc, List.cons_append, splitOn_append_separator,
      splitOn_of_notMem own, ih rest]
    rfl

/-- Whether a line of the text reads as the mark, but for white space after it. -/
def HasMark (mark text : List Char) : Prop := ∃ line ∈ splitOn '\n' text, trimEnd line = mark

def HasLaterMark (mark text : List Char) : Prop :=
  ∃ line ∈ (splitOn '\n' text).tail, trimEnd line = mark

instance (mark text : List Char) : Decidable (HasMark mark text) :=
  inferInstanceAs (Decidable (∃ line ∈ _, _))

instance (mark text : List Char) : Decidable (HasLaterMark mark text) :=
  inferInstanceAs (Decidable (∃ line ∈ _, _))

variable {mark : List Char}

theorem hasMark_append_newline (text rest : List Char) :
    HasMark mark (text ++ '\n' :: rest) ↔ HasMark mark text ∨ HasMark mark rest := by
  simp only [HasMark, splitOn_append_separator, List.mem_append, or_and_right, exists_or]

theorem not_hasLaterMark_of_notMem {text : List Char} (single : '\n' ∉ text) :
    ¬ HasLaterMark mark text := by
  rintro ⟨line, member, _⟩
  rw [splitOn_of_notMem single] at member
  cases member

theorem trimEnd_prefix (text : List Char) : trimEnd text <+: text := List.rdropWhile_prefix isBlank text

theorem mem_trimEnd_of_dark {c : Char} {text : List Char} (member : c ∈ text)
    (dark : isBlank c = false) : c ∈ trimEnd text :=
  List.mem_reverse.mpr (mem_dropWhile (List.mem_reverse.mpr member) dark)

theorem trimEnd_append_blank {blanks : List Char} (blank : ∀ c ∈ blanks, isBlank c = true)
    (text : List Char) : trimEnd (text ++ blanks) = trimEnd text :=
  rdropWhile_append_of_all blank text

theorem HasMark.of_trimEnd {text : List Char} (marked : HasMark mark (trimEnd text)) :
    HasMark mark text := by
  obtain ⟨blanks, blank, whole⟩ : ∃ blanks, (∀ c ∈ blanks, isBlank c = true) ∧
      text = trimEnd text ++ blanks := by
    refine ⟨text.rtakeWhile isBlank, fun c member => List.mem_rtakeWhile_imp member, ?_⟩
    exact List.rdropWhile_append_rtakeWhile.symm
  obtain ⟨line, member, reads⟩ := marked
  obtain ⟨pieces, last, parts⟩ : ∃ pieces last, splitOn '\n' (trimEnd text) = pieces ++ [last] :=
    ⟨_, _, (List.dropLast_append_getLast (splitOn_ne_nil _ _)).symm⟩
  obtain ⟨first, others, added⟩ := List.exists_cons_of_ne_nil (splitOn_ne_nil '\n' blanks)
  have grown := splitOn_append parts added
  rw [← whole] at grown
  rw [parts] at member
  rcases List.mem_append.mp member with earlier | own
  · exact ⟨line, grown ▸ List.mem_append_left _ earlier, reads⟩
  · have begins : first <+: blanks :=
      (prefix_iff_of_splitOn (notMem_of_mem_splitOn (added ▸ List.mem_cons_self)) added).mpr
        List.prefix_rfl
    refine ⟨last ++ first, grown ▸ List.mem_append_right _ List.mem_cons_self, ?_⟩
    rw [trimEnd_append_blank fun c inside => blank c (begins.subset inside),
      ← List.mem_singleton.mp own, reads]

/-- What is known of the last line of a text: it is empty; it does not read as the mark, whatever is added
to it; it does not as it stands; or nothing is known. -/
inductive LastLine
  | empty
  | foreign
  | other
  | unknown
  deriving DecidableEq, Repr

namespace LastLine

def Allows (mark : List Char) : LastLine → List Char → Prop
  | empty, line => line = []
  | foreign, line => ∀ more, trimEnd (line ++ more) ≠ mark
  | other, line => trimEnd line ≠ mark
  | unknown, _ => True

def step (mark : List Char) (last : LastLine) (c : Char) : Option LastLine :=
  if c = '\n' then if last = unknown then none else some empty
  else
    match last with
    | empty => some (if mark.head? = some c then unknown else foreign)
    | foreign => some foreign
    | other | unknown => some (if isBlank c || mark.contains c then unknown else foreign)

def scan (mark : List Char) (last : LastLine) (text : List Char) : Option LastLine :=
  text.foldlM (step mark) last

end LastLine

/-- A text without a mark before its last line, and what is known of that one. -/
def EndsIn (mark : List Char) (state : LastLine) (text : List Char) : Prop :=
  ∃ done last, splitOn '\n' text = done ++ [last] ∧ (∀ line ∈ done, trimEnd line ≠ mark) ∧
    state.Allows mark last

/-- Adding a part leads from what is known of the last line to what is known then. -/
def Leads (mark : List Char) (before : LastLine) (part : String) (after : LastLine) : Prop :=
  ∀ text, EndsIn mark before text → EndsIn mark after (text ++ part.toList)

section Steps

variable {text line : List Char} {state : LastLine} {c : Char}

theorem LastLine.ne_of_allows (present : mark ≠ []) (known : state ≠ .unknown)
    (allowed : state.Allows mark line) : trimEnd line ≠ mark := by
  cases state with
  | empty =>
    rw [Allows] at allowed
    rw [allowed]
    exact present.symm
  | foreign => simpa using allowed []
  | other => exact allowed
  | unknown => exact absurd rfl known

theorem foreign_of_head (present : mark ≠ []) (differs : mark.head? ≠ some c) :
    LastLine.foreign.Allows mark [c] := by
  intro more reads
  obtain ⟨rest, whole⟩ := trimEnd_prefix ([c] ++ more)
  rw [reads] at whole
  cases mark with
  | nil => exact present rfl
  | cons own others =>
    rw [(List.cons.inj whole).1] at differs
    exact differs rfl

/-- What has a character that neither is white space nor occurs in the mark does not read as it. -/
theorem foreign_of_alien (alien : (isBlank c || mark.contains c) = false) (line : List Char) :
    LastLine.foreign.Allows mark (line ++ [c]) := by
  obtain ⟨dark, absent⟩ := Bool.or_eq_false_iff.mp alien
  intro more reads
  have inside : c ∈ trimEnd (line ++ [c] ++ more) := mem_trimEnd_of_dark (by simp) dark
  rw [reads] at inside
  rw [List.contains_iff_mem.mpr inside] at absent
  cases absent

theorem EndsIn.step (present : mark ≠ []) (ends : EndsIn mark state text) {next : LastLine}
    (stepped : state.step mark c = some next) : EndsIn mark next (text ++ [c]) := by
  obtain ⟨done, last, parts, unmarked, allowed⟩ := ends
  unfold LastLine.step at stepped
  split at stepped
  · rename_i newline
    subst newline
    split at stepped
    · cases stepped
    · rename_i known
      cases stepped
      refine ⟨done ++ [last], [], ?_, ?_, rfl⟩
      · rw [splitOn_append_separator, parts]
        rfl
      · exact List.forall_mem_append.mpr ⟨unmarked, List.forall_mem_singleton.mpr
          (LastLine.ne_of_allows present known allowed)⟩
  · rename_i newline
    have added : splitOn '\n' [c] = [c] :: [] := splitOn_of_notMem (by simpa using Ne.symm newline)
    refine ⟨done, last ++ [c], splitOn_append parts added, unmarked, ?_⟩
    cases state with
    | empty =>
      rw [LastLine.Allows] at allowed
      rw [allowed, List.nil_append]
      simp only [Option.some.injEq] at stepped
      subst stepped
      split
      · trivial
      · rename_i differs
        exact foreign_of_head present differs
    | foreign =>
      cases stepped
      intro more
      rw [List.append_assoc]
      exact allowed _
    | other =>
      simp only [Option.some.injEq] at stepped
      subst stepped
      split
      · trivial
      · rename_i alien
        exact foreign_of_alien (Bool.eq_false_iff.mpr alien) last
    | unknown =>
      simp only [Option.some.injEq] at stepped
      subst stepped
      split
      · trivial
      · rename_i alien
        exact foreign_of_alien (Bool.eq_false_iff.mpr alien) last

theorem EndsIn.scan (present : mark ≠ []) (ends : EndsIn mark state text) {part : List Char}
    {next : LastLine} (scanned : state.scan mark part = some next) :
    EndsIn mark next (text ++ part) := by
  induction part generalizing state text with
  | nil =>
    cases scanned
    rwa [List.append_nil]
  | cons c rest ih =>
    rw [LastLine.scan, List.foldlM_cons] at scanned
    obtain ⟨middle, stepped, further⟩ := Option.bind_eq_some_iff.mp scanned
    rw [List.append_cons]
    exact ih (ends.step present stepped) further

end Steps

section Parts

variable {before middle after : LastLine} {part : String}

theorem Leads.of_scan {text : List Char} (present : mark ≠ []) (spelled : part = String.ofList text)
    (scanned : before.scan mark text = some after) : Leads mark before part after := by
  subst spelled
  intro start ends
  rw [String.toList_ofList]
  exact ends.scan present scanned

theorem Leads.append {rest : String} (first : Leads mark before part middle)
    (second : Leads mark middle rest after) : Leads mark before (part ++ rest) after := by
  intro text ends
  rw [String.toList_append, ← List.append_assoc]
  exact second _ (first text ends)

theorem Leads.of_not_hasLaterMark (unmarked : ¬ HasLaterMark mark part.toList) :
    Leads mark .foreign part .other := by
  rintro text ⟨done, last, parts, ended, foreign⟩
  obtain ⟨first, others, added⟩ := List.exists_cons_of_ne_nil (splitOn_ne_nil '\n' part.toList)
  have grown := splitOn_append parts added
  have later : ∀ line ∈ others, trimEnd line ≠ mark := by
    intro line member reads
    exact unmarked ⟨line, by rwa [added], reads⟩
  cases others using List.reverseRecOn with
  | nil => exact ⟨done, last ++ first, grown, ended, foreign first⟩
  | append_singleton others final =>
    obtain ⟨inner, own⟩ := List.forall_mem_append.mp later
    refine ⟨done ++ (last ++ first) :: others, final, ?_, ?_, own final List.mem_cons_self⟩
    · rw [grown]
      simp
    · exact List.forall_mem_append.mpr ⟨ended, List.forall_mem_cons.mpr ⟨foreign first, inner⟩⟩

theorem Leads.of_not_hasMark (unmarked : ¬ HasMark mark part.toList) :
    Leads mark .empty part .other := by
  rintro text ⟨done, last, parts, ended, rfl⟩
  obtain ⟨pieces, final, added⟩ : ∃ pieces final, splitOn '\n' part.toList = pieces ++ [final] :=
    ⟨_, _, (List.dropLast_append_getLast (splitOn_ne_nil _ _)).symm⟩
  have lines : ∀ line ∈ pieces ++ [final], trimEnd line ≠ mark := by
    intro line member reads
    exact unmarked ⟨line, by rwa [added], reads⟩
  obtain ⟨inner, own⟩ := List.forall_mem_append.mp lines
  refine ⟨done ++ pieces, final, ?_, List.forall_mem_append.mpr ⟨ended, inner⟩,
    own final List.mem_cons_self⟩
  obtain ⟨first, others, spelled⟩ := List.exists_cons_of_ne_nil (splitOn_ne_nil '\n' part.toList)
  rw [splitOn_append parts spelled, List.nil_append, List.append_assoc, ← added, spelled]

theorem Leads.of_notMem (single : '\n' ∉ part.toList) : Leads mark .foreign part .foreign := by
  rintro text ⟨done, last, parts, ended, foreign⟩
  refine ⟨done, last ++ part.toList, splitOn_append parts (splitOn_of_notMem single), ended, ?_⟩
  intro more
  rw [List.append_assoc]
  exact foreign _

theorem Leads.forget (leads : Leads mark before part after) : Leads mark before part .unknown := by
  intro text ends
  obtain ⟨done, last, parts, ended, _⟩ := leads text ends
  exact ⟨done, last, parts, ended, trivial⟩

/-- A part that is cut off somewhere may end in a mark, but has none before its last line. -/
theorem Leads.of_prefix {text : List Char} (begins : part.toList <+: text)
    (unmarked : ¬ HasLaterMark mark text) : Leads mark .foreign part .unknown := by
  rintro start ⟨done, last, parts, ended, foreign⟩
  obtain ⟨rest, rfl⟩ := begins
  obtain ⟨pieces, final, added⟩ : ∃ pieces final, splitOn '\n' part.toList = pieces ++ [final] :=
    ⟨_, _, (List.dropLast_append_getLast (splitOn_ne_nil _ _)).symm⟩
  cases pieces with
  | nil => exact ⟨done, last ++ final, splitOn_append parts added, ended, trivial⟩
  | cons first pieces =>
    obtain ⟨next, others, beyond⟩ := List.exists_cons_of_ne_nil (splitOn_ne_nil '\n' rest)
    have whole := splitOn_append added beyond
    have inner : ∀ line ∈ pieces, trimEnd line ≠ mark := by
      intro line member reads
      refine unmarked ⟨line, ?_, reads⟩
      rw [whole]
      exact List.mem_append_left _ member
    refine ⟨done ++ (last ++ first) :: pieces, final, ?_, ?_, trivial⟩
    · rw [splitOn_append parts added]
      simp
    · exact List.forall_mem_append.mpr ⟨ended, List.forall_mem_cons.mpr ⟨foreign first, inner⟩⟩

theorem Leads.weaken (present : mark ≠ []) (leads : Leads mark before part after)
    (known : after ≠ .unknown) : Leads mark before part .other := by
  intro text ends
  obtain ⟨done, last, parts, ended, allowed⟩ := leads text ends
  exact ⟨done, last, parts, ended, LastLine.ne_of_allows present known allowed⟩

theorem Leads.join {parts : List String} (each : ∀ part ∈ parts, Leads mark before part before) :
    Leads mark before (String.join parts) before := by
  induction parts with
  | nil =>
    intro text ends
    rwa [String.join_nil, String.toList_empty, List.append_nil]
  | cons part rest ih =>
    obtain ⟨own, others⟩ := List.forall_mem_cons.mp each
    rw [String.join_cons]
    exact own.append (ih others)

theorem Leads.joinLines (present : mark ≠ []) {lines : List (List Char)}
    (each : ∀ line ∈ lines, Leads mark .empty (String.ofList line) .foreign) :
    Leads mark .empty (String.ofList (joinWith ['\n'] lines)) .other := by
  fun_induction joinWith ['\n'] lines with
  | case1 => exact (Leads.of_scan present rfl rfl).weaken present (by decide)
  | case2 line => exact (each line List.mem_cons_self).weaken present (by decide)
  | case3 line next rest ih =>
    obtain ⟨own, others⟩ := List.forall_mem_cons.mp each
    have ending : Leads mark .foreign (String.ofList ['\n']) .empty := .of_scan present rfl rfl
    rw [String.ofList_append, String.ofList_append]
    exact (own.append ending).append (ih others)

theorem Leads.endsIn (leads : Leads mark .empty part after) : EndsIn mark after part.toList :=
  leads [] ⟨[], [], rfl, List.forall_mem_nil _, rfl⟩

theorem Leads.not_hasMark (present : mark ≠ []) (leads : Leads mark .empty part after)
    (known : after ≠ .unknown) : ¬ HasMark mark part.toList := by
  obtain ⟨done, last, parts, ended, allowed⟩ := leads.endsIn
  rintro ⟨line, member, reads⟩
  rw [parts] at member
  rcases List.mem_append.mp member with earlier | own
  · exact ended line earlier reads
  · rw [List.mem_singleton.mp own] at reads
    exact LastLine.ne_of_allows present known allowed reads

theorem Leads.newline (present : mark ≠ []) : Leads mark .foreign "\n" .empty :=
  .of_scan present rfl rfl

end Parts

def HasLine (text line : String) : Prop := line.toList ∈ splitOn '\n' text.toList

instance (text line : String) : Decidable (HasLine text line) := inferInstanceAs (Decidable (_ ∈ _))

section WholeLines

variable {text line before : String}

theorem HasLine.hasMark (given : HasLine text line) (trimmed : trimEnd line.toList = line.toList) :
    HasMark line.toList text.toList := ⟨_, given, trimmed⟩

theorem splitOn_of_leads (leads : Leads mark .empty before .empty) (rest : List Char) :
    ∃ done, (∀ line ∈ done, trimEnd line ≠ mark) ∧
      splitOn '\n' (before.toList ++ rest) = done ++ splitOn '\n' rest := by
  obtain ⟨done, last, parts, unmarked, rfl⟩ := leads.endsIn
  obtain ⟨first, others, added⟩ := List.exists_cons_of_ne_nil (splitOn_ne_nil '\n' rest)
  refine ⟨done, unmarked, ?_⟩
  rw [splitOn_append parts added, List.nil_append, added]

theorem hasLine_of_leads (leads : Leads mark .empty before .empty) (single : '\n' ∉ line.toList)
    (rest : String) : HasLine (before ++ (line ++ "\n" ++ rest)) line := by
  obtain ⟨done, _, parts⟩ := splitOn_of_leads leads (line.toList ++ '\n' :: rest.toList)
  have whole : (before ++ (line ++ "\n" ++ rest)).toList =
      before.toList ++ (line.toList ++ '\n' :: rest.toList) := by simp
  rw [HasLine, whole, parts, splitOn_append_separator, splitOn_of_notMem single]
  simp

theorem hasLine_append_iff (leads : Leads line.toList .empty before .empty)
    (trimmed : trimEnd line.toList = line.toList) :
    HasLine (before ++ text) line ↔ HasLine text line := by
  obtain ⟨done, unmarked, parts⟩ := splitOn_of_leads leads text.toList
  rw [HasLine, String.toList_append, parts, List.mem_append, HasLine]
  constructor
  · rintro (own | later)
    · exact absurd trimmed (unmarked _ own)
    · exact later
  · exact .inr

theorem hasLine_newline_iff (present : line.toList ≠ []) :
    HasLine (text ++ "\n") line ↔ HasLine text line := by
  have whole : (text ++ "\n").toList = text.toList ++ '\n' :: [] := by simp
  have ending : line.toList ∉ splitOn '\n' [] := fun member => present (List.mem_singleton.mp member)
  rw [HasLine, whole, splitOn_append_separator, List.mem_append, or_iff_left ending, HasLine]

end WholeLines

end CommitAdmission.Text
