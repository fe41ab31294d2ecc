import CommitAdmission.Proofs.TomlForms
import CommitAdmission.Settings

namespace CommitAdmission.Settings

open Text Toml

structure Overrides where
  webUrl : Option String
  hookCommand : Option String
  maxFiles : Option UInt64
  serverName : Option String
  serverEmail : Option String

namespace Overrides

variable (overrides : Overrides)

def applied : Settings where
  webUrl := overrides.webUrl.or standard.webUrl
  hookCommand := overrides.hookCommand.or standard.hookCommand
  maxFiles := overrides.maxFiles.getD standard.maxFiles
  serverPerson :=
    ⟨overrides.serverName.getD standard.serverPerson.name,
     overrides.serverEmail.getD standard.serverPerson.email⟩
  allProjects := standard.allProjects
  allUsers := standard.allUsers

def personIsWhole : Bool := overrides.serverName.isSome == overrides.serverEmail.isSome

section Variables

/-- Variables that are set to these values; the others are not set. -/
structure GivenByVariables (variable_ : String → Option String) : Prop where
  webUrl : variable_ "PUSHGATE_WEB_URL" = overrides.webUrl
  hookCommand : variable_ "PUSHGATE_HOOK_COMMAND" = overrides.hookCommand
  maxFiles : (variable_ "PUSHGATE_MAX_FILES").map (readUnsigned? UInt64.size ·.toList) =
    overrides.maxFiles.map fun count => some count.toNat
  serverName : variable_ "PUSHGATE_SERVER_NAME" = overrides.serverName
  serverEmail : variable_ "PUSHGATE_SERVER_EMAIL" = overrides.serverEmail

variable {overrides} in
theorem ofVariables_of_given {variable_ : String → Option String}
    (given : overrides.GivenByVariables variable_) :
    ofVariables variable_ = .ok overrides.applied := by
  have counted := given.maxFiles
  unfold ofVariables
  rw [given.webUrl, given.hookCommand, given.serverName, given.serverEmail]
  cases written : variable_ "PUSHGATE_MAX_FILES" with
  | none =>
    rw [written] at counted
    cases limit : overrides.maxFiles with
    | none =>
      simp only [applied, limit]
      cases overrides.webUrl <;> cases overrides.hookCommand <;> rfl
    | some count => simp [limit] at counted
  | some text =>
    rw [written] at counted
    cases limit : overrides.maxFiles with
    | none => simp [limit] at counted
    | some count =>
      have read : readUnsigned? UInt64.size text.toList = some count.toNat := by
        simpa [limit] using counted
      simp only [applied, limit, read, UInt64.ofNat_toNat]
      cases overrides.webUrl <;> cases overrides.hookCommand <;> rfl

def asVariables : List (String × Option String) :=
  [("PUSHGATE_WEB_URL", overrides.webUrl), ("PUSHGATE_HOOK_COMMAND", overrides.hookCommand),
   ("PUSHGATE_MAX_FILES", overrides.maxFiles.map (decimalText ·.toNat)),
   ("PUSHGATE_SERVER_NAME", overrides.serverName),
   ("PUSHGATE_SERVER_EMAIL", overrides.serverEmail)]

def lookUp (name : String) : Option String := (overrides.asVariables.lookup name).join

theorem givenByVariables_lookUp : overrides.GivenByVariables overrides.lookUp where
  webUrl := rfl
  hookCommand := rfl
  maxFiles := by
    have listed : overrides.lookUp "PUSHGATE_MAX_FILES" =
        overrides.maxFiles.map (decimalText ·.toNat) := rfl
    rw [listed, Option.map_map]
    congr 1
    funext count
    rw [Function.comp_apply, decimalText, String.toList_ofList,
      readUnsigned?_decimal, if_pos count.toNat_lt]
  serverName := rfl
  serverEmail := rfl

end Variables

section Entries

variable {overrides} {entries : Entries}

/-- What a document has in place of the person: nothing, or a table with the fields that are given. -/
inductive PersonGiven (overrides : Overrides) : Option Toml → Prop
  | absent : overrides.serverName = none → overrides.serverEmail = none → PersonGiven overrides none
  | table {origin : Origin} {entries : Entries} :
      overrides.serverName ≠ none ∨ overrides.serverEmail ≠ none →
      entries.lookup "name" = overrides.serverName.map .text →
      entries.lookup "email" = overrides.serverEmail.map .text →
      PersonGiven overrides (some (.table origin entries))

/-- Entries of a document that has these values and no other settings. -/
structure GivenByEntries (overrides : Overrides) (entries : Entries) : Prop where
  webUrl : entries.lookup "canonical_web_url" = overrides.webUrl.map .text
  hookCommand : entries.lookup "install_commit_msg_hook_command" = overrides.hookCommand.map .text
  maxFiles : entries.lookup "max_files" = overrides.maxFiles.map fun count => .integer count.toNat
  person : PersonGiven overrides (entries.lookup "server_ident")
  allProjects : entries.lookup "all_projects" = none
  allUsers : entries.lookup "all_users" = none

theorem setting?_text {key : String} {value : Option String}
    (given : entries.lookup key = value.map .text) :
    setting? entries key (fun value => (textOf? value).map some) none = some value := by
  rw [setting?, given]
  cases value <;> rfl

theorem setting?_count {key : String} {value : Option UInt64} {default : UInt64}
    (given : entries.lookup key = value.map fun count => .integer count.toNat) :
    setting? entries key countOf? default = some (value.getD default) := by
  rw [setting?, given]
  cases value with
  | none => rfl
  | some count => simp [countOf?]

/-- A table with one of the two fields is no person: the defaults do not fill it up. -/
theorem setting?_person (given : PersonGiven overrides (entries.lookup "server_ident")) :
    setting? entries "server_ident" personOf? standard.serverPerson =
      if overrides.personIsWhole then some overrides.applied.serverPerson else none := by
  rw [setting?, personIsWhole]
  generalize entries.lookup "server_ident" = found at given
  cases given with
  | absent noName noEmail => simp [applied, noName, noEmail, standard]
  | table somebody name email =>
    simp only [personOf?, name, email]
    cases givenName : overrides.serverName <;> cases givenEmail : overrides.serverEmail <;>
      simp_all [applied, textOf?]

theorem ofEntries?_of_given (given : overrides.GivenByEntries entries) :
    ofEntries? entries = if overrides.personIsWhole then some overrides.applied else none := by
  unfold ofEntries?
  rw [setting?_text given.webUrl, setting?_text given.hookCommand, setting?_count given.maxFiles,
    setting?_person given.person]
  simp only [setting?, given.allProjects, given.allUsers]
  split <;> simp [applied, standard]

theorem ofDocument?_of_given {document : String} (parsed : parse? document = some entries)
    (given : overrides.GivenByEntries entries) :
    ofDocument? document = if overrides.personIsWhole then some overrides.applied else none := by
  rw [ofDocument?, parsed, Option.bind_eq_bind, Option.bind_some, ofEntries?_of_given given]

end Entries

section Options

def chosen (options : List (String × Option Scalar)) : List (String × Scalar) :=
  options.filterMap fun option => option.2.map fun scalar => (option.1, scalar)

variable {options : List (String × Option Scalar)} {key : String}

theorem keys_chosen (options : List (String × Option Scalar)) :
    ((chosen options).map Prod.fst).Sublist (options.map Prod.fst) := by
  induction options with
  | nil => exact List.nil_sublist []
  | cons option options ih =>
    obtain ⟨key, none | scalar⟩ := option
    · exact ih.cons _
    · exact ih.cons_cons _

theorem isTable_chosen (bare : ∀ key ∈ options.map Prod.fst, IsBareKey key)
    (fits : ∀ option ∈ options, ∀ scalar ∈ option.2, scalar.Fits)
    (distinct : (options.map Prod.fst).Nodup) : IsTable (chosen options) where
  bare pair member := bare _ ((keys_chosen options).subset (List.mem_map_of_mem member))
  fits pair member := by
    obtain ⟨option, listed, given⟩ := List.mem_filterMap.mp member
    obtain ⟨scalar, present, rfl⟩ := Option.map_eq_some_iff.mp given
    exact fits option listed scalar present
  distinct := distinct.sublist (keys_chosen options)

theorem lookup_chosen_of_notMem (absent : key ∉ options.map Prod.fst) :
    (entriesOf (chosen options)).lookup key = none := by
  rw [List.lookup_eq_none_iff]
  intro entry member
  obtain ⟨pair, listed, rfl⟩ := List.mem_map.mp member
  have named := (keys_chosen options).subset (List.mem_map_of_mem listed)
  rw [bne_iff_ne]
  rintro rfl
  exact absent named

theorem lookup_chosen {value? : Option Scalar} (distinct : (options.map Prod.fst).Nodup)
    (listed : (key, value?) ∈ options) :
    (entriesOf (chosen options)).lookup key = value?.map Scalar.value := by
  induction options with
  | nil => cases listed
  | cons option options ih =>
    rw [List.map_cons] at distinct
    obtain ⟨new, others⟩ := List.nodup_cons.mp distinct
    rcases List.mem_cons.mp listed with rfl | later
    · cases value? with
      | none =>
        have absent : (entriesOf (chosen options)).lookup key = none := lookup_chosen_of_notMem new
        exact absent
      | some scalar => exact List.lookup_cons_self
    · have named : key ∈ options.map Prod.fst := List.mem_map_of_mem later
      have differs : key ≠ option.1 := by
        rintro rfl
        exact new named
      have rest := ih others later
      obtain ⟨own, none | scalar⟩ := option
      · exact rest
      · rw [← rest]
        have other : (key == own) = false := beq_false_of_ne differs
        simp [chosen, entriesOf, List.lookup_cons, other]

end Options

section Documents

def rootOptions : List (String × Option Scalar) :=
  [("canonical_web_url", overrides.webUrl.map .text),
   ("install_commit_msg_hook_command", overrides.hookCommand.map .text),
   ("max_files", overrides.maxFiles.map (.count ·.toNat))]

def personOptions : List (String × Option Scalar) :=
  [("name", overrides.serverName.map .text), ("email", overrides.serverEmail.map .text)]

def personTables : List (String × List (String × Scalar)) :=
  if chosen overrides.personOptions = [] then []
  else [("server_ident", chosen overrides.personOptions)]

def document : String :=
  String.ofList (writeTables (chosen overrides.rootOptions) overrides.personTables)

theorem keys_rootOptions : overrides.rootOptions.map Prod.fst =
    ["canonical_web_url", "install_commit_msg_hook_command", "max_files"] := rfl

theorem keys_personOptions : overrides.personOptions.map Prod.fst = ["name", "email"] := rfl

theorem keys_personTables :
    (overrides.personTables.map Prod.fst).Sublist ["server_ident"] := by
  unfold personTables
  split
  · exact List.nil_sublist _
  · exact List.Sublist.refl _

theorem isTable_person : IsTable (chosen overrides.personOptions) := by
  apply isTable_chosen
  · rw [keys_personOptions]
    decide
  · simp [personOptions, Scalar.Fits]
  · rw [keys_personOptions]
    decide

variable (small : ∀ count ∈ overrides.maxFiles, count.toNat < countLimit)

def sheet : Sheet where
  pairs := chosen overrides.rootOptions
  tables := overrides.personTables
  root := by
    apply isTable_chosen
    · rw [keys_rootOptions]
      decide
    · simpa [rootOptions, Scalar.Fits] using small
    · rw [keys_rootOptions]
      decide
  titled := by
    intro table member
    unfold personTables at member
    split at member
    · cases member
    · rw [List.mem_singleton.mp member]
      have bare : IsBareKey "server_ident" := by decide
      exact ⟨bare, overrides.isTable_person⟩
  distinct := by
    have names := (keys_chosen overrides.rootOptions).append overrides.keys_personTables
    rw [keys_rootOptions] at names
    refine List.Nodup.sublist names ?_
    decide

theorem lookup_entries_of_ne {key : String} (other : key ≠ "server_ident") :
    (overrides.sheet small).entries.lookup key =
      (entriesOf (chosen overrides.rootOptions)).lookup key := by
  have below : (tableEntries overrides.personTables).lookup key = none := by
    rw [List.lookup_eq_none_iff]
    intro entry member
    obtain ⟨table, listed, rfl⟩ := List.mem_map.mp member
    have named := overrides.keys_personTables.subset (List.mem_map_of_mem listed)
    rw [List.mem_singleton] at named
    rw [bne_iff_ne, named]
    exact other
  rw [Sheet.entries, List.lookup_append, sheet, below, Option.or_none]

theorem personGiven_sheet :
    overrides.PersonGiven ((overrides.sheet small).entries.lookup "server_ident") := by
  have root : (entriesOf (chosen overrides.rootOptions)).lookup "server_ident" = none :=
    lookup_chosen_of_notMem (by rw [keys_rootOptions]; decide)
  have distinct : (overrides.personOptions.map Prod.fst).Nodup := by
    rw [keys_personOptions]
    decide
  have nameListed : ("name", overrides.serverName.map Scalar.text) ∈ overrides.personOptions :=
    List.mem_cons_self
  have emailListed : ("email", overrides.serverEmail.map Scalar.text) ∈ overrides.personOptions :=
    List.mem_cons_of_mem _ List.mem_cons_self
  have name : (entriesOf (chosen overrides.personOptions)).lookup "name" =
      overrides.serverName.map .text := (lookup_chosen distinct nameListed).trans (Option.map_map ..)
  have email : (entriesOf (chosen overrides.personOptions)).lookup "email" =
      overrides.serverEmail.map .text := (lookup_chosen distinct emailListed).trans (Option.map_map ..)
  rw [Sheet.entries, List.lookup_append]
  simp only [sheet, root, Option.none_or]
  by_cases nobody : chosen overrides.personOptions = []
  · have unnamed : overrides.serverName = none ∧ overrides.serverEmail = none := by
      simpa [chosen, personOptions] using nobody
    simp only [personTables, nobody, if_pos, tableEntries, List.map_nil, List.lookup_nil]
    exact .absent unnamed.1 unnamed.2
  · have somebody : overrides.serverName ≠ none ∨ overrides.serverEmail ≠ none := by
      by_contra neither
      rw [not_or, not_not, not_not] at neither
      exact nobody (by simp [chosen, personOptions, neither])
    simp only [personTables, nobody, if_false]
    exact .table somebody name email

theorem givenByEntries_sheet : overrides.GivenByEntries (overrides.sheet small).entries := by
  have distinct : (overrides.rootOptions.map Prod.fst).Nodup := by
    rw [keys_rootOptions]
    decide
  have urlListed : ("canonical_web_url", overrides.webUrl.map Scalar.text) ∈
      overrides.rootOptions := List.mem_cons_self
  have commandListed : ("install_commit_msg_hook_command", overrides.hookCommand.map Scalar.text) ∈
      overrides.rootOptions := List.mem_cons_of_mem _ List.mem_cons_self
  have countListed : ("max_files", overrides.maxFiles.map (Scalar.count ·.toNat)) ∈
      overrides.rootOptions := List.mem_cons_of_mem _ (List.mem_cons_of_mem _ List.mem_cons_self)
  constructor
  · rw [lookup_entries_of_ne _ _ (by decide)]
    exact (lookup_chosen distinct urlListed).trans (Option.map_map ..)
  · rw [lookup_entries_of_ne _ _ (by decide)]
    exact (lookup_chosen distinct commandListed).trans (Option.map_map ..)
  · rw [lookup_entries_of_ne _ _ (by decide)]
    exact (lookup_chosen distinct countListed).trans (Option.map_map ..)
  · exact overrides.personGiven_sheet small
  · rw [lookup_entries_of_ne _ _ (by decide)]
    exact lookup_chosen_of_notMem (by rw [keys_rootOptions]; decide)
  · rw [lookup_entries_of_ne _ _ (by decide)]
    exact lookup_chosen_of_notMem (by rw [keys_rootOptions]; decide)

include small in
theorem givenByEntries_document :
    ∃ entries, parse? overrides.document = some entries ∧ overrides.GivenByEntries entries :=
  ⟨_, (overrides.sheet small).parse?_document, overrides.givenByEntries_sheet small⟩

end Documents

end Overrides

/-- Variables and a document that give the same values yield the same settings, with the defaults for
all that is not given. There are such variables for any values, and such a document if the count is one
that a document can hold. But a document that gives the server's name alone, or its email, is refused. -/
theorem sources_agree_unless_person_is_halved (overrides : Overrides)
    (small : ∀ count ∈ overrides.maxFiles, count.toNat < countLimit) :
    overrides.GivenByVariables overrides.lookUp ∧
    (∃ entries, parse? overrides.document = some entries ∧ overrides.GivenByEntries entries) ∧
    (∀ variable_, overrides.GivenByVariables variable_ →
      ofVariables variable_ = .ok overrides.applied) ∧
    ∀ document entries, parse? document = some entries → overrides.GivenByEntries entries →
      ofDocument? document = if overrides.personIsWhole then some overrides.applied else none :=
  ⟨overrides.givenByVariables_lookUp, overrides.givenByEntries_document small,
    fun _ given => Overrides.ofVariables_of_given given,
    fun _ _ parsed given => Overrides.ofDocument?_of_given parsed given⟩

/-- Every setting but the projects given, by both sources. -/
theorem sources_agree_on_whole_person :
    let overrides : Overrides :=
      ⟨some "https://review.example/", some "install", some 7, some "Bot", some "bot@r.example"⟩
    ofVariables overrides.lookUp = .ok overrides.applied ∧
      ofDocument? overrides.document = some overrides.applied := by
  intro overrides
  have small : ∀ count ∈ overrides.maxFiles, count.toNat < countLimit := by
    intro count given
    cases given
    decide
  obtain ⟨byVariables, ⟨entries, parsed, byEntries⟩, read, readDocument⟩ :=
    sources_agree_unless_person_is_halved overrides small
  exact ⟨read _ byVariables, readDocument _ _ parsed byEntries⟩

/-- The variable with the server's name replaces the default name; the document is refused. -/
theorem name_without_email_is_refused :
    let overrides : Overrides := ⟨none, none, none, some "Review Bot", none⟩
    overrides.document = "[server_ident]\nname = \"Review Bot\"\n" ∧
    ofDocument? "[server_ident]\nname = \"Review Bot\"\n" = none ∧
    ofVariables overrides.lookUp =
      .ok { standard with serverPerson := ⟨"Review Bot", "codereview@localhost"⟩ } := by
  intro overrides
  have written : overrides.document = "[server_ident]\nname = \"Review Bot\"\n" := by decide
  obtain ⟨entries, parsed, given⟩ := overrides.givenByEntries_document fun count member => nomatch member
  rw [written] at parsed
  exact ⟨written, Overrides.ofDocument?_of_given parsed given,
    Overrides.ofVariables_of_given overrides.givenByVariables_lookUp⟩

end CommitAdmission.Settings
