import CommitAdmission.Memory
import CommitAdmission.Proofs.Decisions
import CommitAdmission.Proofs.FooterForms
import CommitAdmission.Proofs.Questions

namespace CommitAdmission

open Text

namespace Footer

/-- The address that a value gives: what its first opening bracket and the next closing one enclose, or
without an opening bracket the whole of it, if it holds an at sign. -/
inductive GivesAddress : List Char → List Char → Prop
  | bracketed {before address : List Char} (after : List Char) :
      '<' ∉ before → '>' ∉ address →
      GivesAddress (before ++ '<' :: (address ++ '>' :: after)) address
  | bare {value : List Char} : '<' ∉ value → '@' ∈ value → GivesAddress value (trim value)

theorem emailIn?_eq_some_iff {value address : List Char} :
    emailIn? value = some address ↔ GivesAddress value address := by
  unfold emailIn?
  constructor
  · intro found
    split at found
    · rename_i before rest opened
      obtain ⟨halves, closed, same⟩ := Option.map_eq_some_iff.mp found
      obtain ⟨own, after⟩ := halves
      cases same
      obtain ⟨rfl, unopened⟩ := append_of_splitFirst? opened
      obtain ⟨rfl, unclosed⟩ := append_of_splitFirst? closed
      exact .bracketed after unopened unclosed
    · rename_i unopened
      dsimp only at found
      split at found
      · rename_i atSign
        cases found
        exact .bare (splitFirst?_eq_none_iff.mp unopened)
          (mem_of_mem_trim (List.contains_iff_mem.mp atSign))
      · cases found
  · intro gives
    cases gives with
    | bracketed after unopened unclosed =>
      simp only [splitFirst?_append unopened, splitFirst?_append unclosed, Option.map_some]
    | bare unopened holds =>
      have kept : (trim value).contains '@' = true :=
        List.contains_iff_mem.mpr (mem_trim_of_dark holds (by decide))
      simp only [splitFirst?_eq_none_iff.mpr unopened, kept, if_true]

theorem email?_eq_some_iff {footer : Footer} {address : String} :
    footer.email? = some address ↔ GivesAddress footer.value.toList address.toList := by
  rw [← emailIn?_eq_some_iff, email?, Option.map_eq_some_iff]
  constructor
  · rintro ⟨own, found, rfl⟩
    rw [found, String.toList_ofList]
  · intro found
    exact ⟨_, found, String.ofList_toList⟩

end Footer

namespace SignOff

def line (signer : String) : String := "Signed-off-by: " ++ signer

theorem ofLine?_line (signer : String) :
    Footer.ofLine? (line signer).toList =
      some ⟨"Signed-off-by", String.ofList (trim signer.toList)⟩ := by
  have text : (line signer).toList = "Signed-off-by".toList ++ ':' :: ' ' :: signer.toList := by
    simp [line]
  rw [text, Footer.ofLine?_append_spaced (by decide) (List.all_eq_true.mp rfl), String.ofList_toList]

/-- A name without an opening bracket leaves the first one to the address. -/
theorem givesAddress_display {person : Person} (name : '<' ∉ person.name.toList)
    (email : '>' ∉ person.email.toList) :
    Footer.GivesAddress (trim person.display.toList) person.email.toList := by
  have text : person.display.toList =
      (person.name.toList ++ [' ']) ++ '<' :: (person.email.toList ++ ['>']) := by
    simp [Person.display]
  have unopened : '<' ∉ trimStart (person.name.toList ++ [' ']) := by
    intro member
    have inside : '<' ∈ person.name.toList ++ [' '] :=
      (List.dropWhile_suffix isBlank).subset member
    rcases List.mem_append.mp inside with own | space
    · exact name own
    · exact absurd space (by decide)
  rw [text, trim_append_enclosed (by decide) (by decide)]
  exact .bracketed [] unopened email

theorem givesAddress_bare {address : String} (plain : '<' ∉ address.toList)
    (atSign : '@' ∈ address.toList) (trimmed : trim address.toList = address.toList) :
    Footer.GivesAddress (trim address.toList) address.toList := by
  have gives : Footer.GivesAddress address.toList (trim address.toList) := .bare plain atSign
  rw [trimmed] at gives ⊢
  exact gives

variable {candidate : Candidate} {user : User}

theorem isSignedOff_of_line {body signer address : String}
    (message : candidate.commit.message = body ++ "\n\n" ++ line signer ++ "\n")
    (plain : '\n' ∉ signer.toList)
    (gives : Footer.GivesAddress (trim signer.toList) address.toList)
    (entitled : IsEntitled candidate.commit user address) :
    isSignedOff candidate.commit user = true := by
  have newline : '\n' ∉ (line signer).toList := by simp [line, plain]
  have footers : candidate.commit.footers =
      [⟨"Signed-off-by", String.ofList (trim signer.toList)⟩] := by
    rw [Commit.footers, message,
      Footer.ofMessage_append_own_line (ofLine?_line signer) newline body]
  rw [isSignedOff_iff_exists, footers]
  refine ⟨_, List.mem_singleton_self _, beq_self_eq_true _, address, ?_, entitled⟩
  rw [Footer.email?_eq_some_iff, String.toList_ofList]
  exact gives

variable (ref : String) (project : ProjectState) (world : Collaborators)

theorem judge_of_signed (signed : isSignedOff candidate.commit user = true) :
    (signedOff ref user project).judge world candidate = ⟨.ok .plain, []⟩ := by
  simp only [signedOff, Validator.ofCheck, signed, Bool.not_true, Bool.and_false,
    Bool.false_eq_true, if_false]
  rfl

theorem judge_of_unsigned (required : project.useSignedOffBy = true)
    (unsigned : isSignedOff candidate.commit user = false) :
    ((signedOff ref user project).judge world candidate).asked = [(ref, .forgeCommitter)] ∧
    (signedOff ref user project).outcome world candidate =
      ((world.isGranted ref .forgeCommitter).mapError fun _ =>
        Rejection.internal "internal auth error").bind fun granted =>
          if granted then .ok .plain
          else .error (.policy "not Signed-off-by author/committer/uploader in message footer") := by
  have asks : (project.useSignedOffBy && !isSignedOff candidate.commit user) = true := by
    rw [required, unsigned]
    rfl
  constructor
  · have routine (granted : Bool) : (Check.require granted
        (.policy "not Signed-off-by author/committer/uploader in message footer")).asked = [] :=
      Check.asked_of_routine (Check.actsWithin_require _ _)
    simp only [signedOff, Validator.ofCheck, asks, if_true]
    rw [Check.asked_bind fun _ => rfl, Check.asked_bind routine, asked_askPermission]
  · rw [signedOff, Validator.outcome_ofCheck]
    simp only [asks, if_true]
    rw [Check.outcome_bind, outcome_askPermission]
    cases world.isGranted ref .forgeCommitter with
    | error failure => rfl
    | ok granted => cases granted <;> rfl

end SignOff

/-- Where sign-offs are required, one by the author, by the committer or with a registered address of the
uploader is accepted below any text and without a question. A message that has none leaves the verdict to the
permission to forge the committer, and nothing else is asked for. -/
theorem sign_offs_are_recognised (ref : String) (user : User) (project : ProjectState)
    (required : project.useSignedOffBy = true) (world : Collaborators) (candidate : Candidate) :
    let message := candidate.commit.message
    let judged := (signedOff ref user project).judge world candidate
    (∀ (body : String) (person : Person),
      person = candidate.commit.author ∨ person = candidate.commit.committer →
      '<' ∉ person.name.toList → '\n' ∉ person.name.toList →
      '>' ∉ person.email.toList → '\n' ∉ person.email.toList →
      message = body ++ "\n\n" ++ SignOff.line person.display ++ "\n" →
      judged = ⟨.ok .plain, []⟩) ∧
    (∀ body address : String, address ∈ user.emails.members →
      '@' ∈ address.toList → '<' ∉ address.toList → '\n' ∉ address.toList →
      trim address.toList = address.toList →
      message = body ++ "\n\n" ++ SignOff.line address ++ "\n" →
      judged = ⟨.ok .plain, []⟩) ∧
    ((∀ footer ∈ Footer.ofMessage message, footer.hasKey "Signed-off-by" = true →
        ∀ address : String, Footer.GivesAddress footer.value.toList address.toList →
          ¬ IsEntitled candidate.commit user address) →
      judged.asked = [(ref, .forgeCommitter)] ∧
      (world.isGranted ref .forgeCommitter = .ok true → judged.outcome = .ok .plain) ∧
      (world.isGranted ref .forgeCommitter = .ok false → judged.outcome =
        .error (.policy "not Signed-off-by author/committer/uploader in message footer")) ∧
      ∀ failure, world.isGranted ref .forgeCommitter = .error failure →
        judged.outcome = .error (.internal "internal auth error")) := by
  intro message judged
  refine ⟨?_, ?_, ?_⟩
  · intro body person behind nameOpen nameLine emailClose emailLine written
    have plain : '\n' ∉ person.display.toList := by simp [Person.display, nameLine, emailLine]
    have entitled : IsEntitled candidate.commit user person.email := by
      rcases behind with rfl | rfl
      · exact .inl rfl
      · exact .inr (.inl rfl)
    exact SignOff.judge_of_signed ref project world
      (SignOff.isSignedOff_of_line written plain (SignOff.givesAddress_display nameOpen emailClose)
        entitled)
  · intro body address registered atSign unopened plain trimmed written
    have entitled : IsEntitled candidate.commit user address := .inr (.inr registered)
    exact SignOff.judge_of_signed ref project world
      (SignOff.isSignedOff_of_line written plain
        (SignOff.givesAddress_bare unopened atSign trimmed) entitled)
  · intro unentitled
    have unsigned : isSignedOff candidate.commit user = false := by
      rw [← Bool.not_eq_true, isSignedOff_iff_exists]
      rintro ⟨footer, present, key, address, own, entitled⟩
      exact unentitled footer present key address (Footer.email?_eq_some_iff.mp own) entitled
    obtain ⟨asked, outcome⟩ := SignOff.judge_of_unsigned ref project world required unsigned
    have decided : judged.outcome = _ := outcome
    refine ⟨asked, ?_, ?_, ?_⟩
    · intro granted
      rw [decided, granted]
      rfl
    · intro denied
      rw [decided, denied]
      rfl
    · intro failure unknown
      rw [decided, unknown]
      rfl

/-- Brackets in the wrong part: a name that closes one and an address that opens one are read back. A name
that opens one hides the address, and one that is not closed gives none. -/
theorem sign_offs_with_stray_brackets :
    let world := (Memory.empty "localhost").collaborators
    let user := { User.ofAccount 1 with emails := TextSet.empty.insert "me@x" }
    let project : ProjectState := ⟨⟨"p"⟩, .active, false, true⟩
    let author : Person := ⟨" A > B", "a<b@x"⟩
    let committer : Person := ⟨"C", "c@x"⟩
    let candidate (message : String) : Candidate :=
      (ReceivedCommit.dossier ⟨⟨"refs/heads/main", .zero, .zero⟩, ⟨⟨"p"⟩, "refs/heads/main"⟩,
        ⟨.zero, [], author, committer, message⟩, user⟩).candidate world
    let judged (message : String) :=
      (signedOff "refs/heads/main" user project).judge world (candidate message)
    let misread := "Fix\n\nSigned-off-by: C <C> <c@x>\nSigned-off-by: c@x <\n"
    project.useSignedOffBy = true ∧
    judged ("Fix\n\nBug: 7" ++ "\n\n" ++ SignOff.line author.display ++ "\n") = ⟨.ok .plain, []⟩ ∧
    judged ("" ++ "\n\n" ++ SignOff.line "me@x" ++ "\n") = ⟨.ok .plain, []⟩ ∧
    (judged misread).asked = [("refs/heads/main", .forgeCommitter)] ∧
    (judged misread).outcome =
      .error (.policy "not Signed-off-by author/committer/uploader in message footer") := by
  intro world user project author committer candidate judged misread
  have required : project.useSignedOffBy = true := rfl
  have byAuthor := (sign_offs_are_recognised "refs/heads/main" user project required world
    (candidate ("Fix\n\nBug: 7" ++ "\n\n" ++ SignOff.line author.display ++ "\n"))).1
    "Fix\n\nBug: 7" author (.inl rfl) (by decide) (by decide) (by decide) (by decide) rfl
  have byUploader := (sign_offs_are_recognised "refs/heads/main" user project required world
    (candidate ("" ++ "\n\n" ++ SignOff.line "me@x" ++ "\n"))).2.1
    "" "me@x" (by decide) (by decide) (by decide) (by decide) (by decide) rfl
  have unsigned : isSignedOff (candidate misread).commit user = false := by decide
  have byNobody := (sign_offs_are_recognised "refs/heads/main" user project required world
    (candidate misread)).2.2 fun footer present key address gives entitled => by
      have signed : isSignedOff (candidate misread).commit user = true :=
        (isSignedOff_iff_exists _ _).mpr
          ⟨footer, present, key, address, Footer.email?_eq_some_iff.mpr gives, entitled⟩
      rw [unsigned] at signed
      cases signed
  exact ⟨required, byAuthor, byUploader, byNobody.1, byNobody.2.2.1 rfl⟩

end CommitAdmission
