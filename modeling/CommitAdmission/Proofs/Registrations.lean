import CommitAdmission.Memory
import CommitAdmission.Proofs.ObjectIds
import CommitAdmission.Proofs.RecordForms

namespace CommitAdmission

open Json Text

inductive Entry
  | ban
  | config (config : ProjectConfig)
  | configFailure (project : ProjectName) (failure : ConfigFailure)
  | diff (files : List ChangedFile)

namespace Entry

def isBan : Entry → Bool
  | .ban => true
  | _ => false

def config? (project : ProjectName) : Entry → Option (Except ConfigFailure ProjectConfig)
  | .config loaded => if loaded.project = project then some (.ok loaded) else none
  | .configFailure own failure => if own = project then some (.error failure) else none
  | _ => none

def diff? : Entry → Option (Except DiffFailure (List ChangedFile))
  | .diff files => some (.ok files)
  | _ => none

end Entry

structure Registration where
  spelling : String
  entry : Entry

def entriesUnder (text : String) (registrations : List Registration) : List Entry :=
  (registrations.filter fun registration => SameDigits registration.spelling text).map
    Registration.entry

theorem lookup_cons_eq_ite {κ β : Type} [BEq κ] [LawfulBEq κ] [DecidableEq κ] (key wanted : κ)
    (value : β) (entries : List (κ × β)) :
    ((key, value) :: entries).lookup wanted =
      if key = wanted then some value else entries.lookup wanted := by
  by_cases same : key = wanted
  · rw [if_pos same, same, List.lookup_cons_self]
  · rw [if_neg same, List.lookup_cons, beq_false_of_ne (Ne.symm same)]

namespace Memory

def enter (memory : Memory) (id : ObjectId) : Entry → Memory
  | .ban => memory.ban id
  | .config config => memory.addConfig id config
  | .configFailure project failure => memory.addConfigFailure project id failure
  | .diff files => memory.addDiff id files

/-- What is told under a text that spells no id is refused. -/
def register (memory : Memory) (registration : Registration) : Memory :=
  match ObjectId.parse? registration.spelling with
  | none => memory
  | some id => memory.enter id registration.entry

def registerAll (memory : Memory) (registrations : List Registration) : Memory :=
  registrations.foldl register memory

theorem registerAll_cons (memory : Memory) (registration : Registration)
    (rest : List Registration) :
    memory.registerAll (registration :: rest) =
      (memory.register registration).registerAll rest := by
  simp only [registerAll, List.foldl_cons]

section

variable (memory : Memory) (id own : ObjectId) (entry : Entry)

theorem isBanned_enter :
    (memory.enter own entry).isBanned id =
      if own = id then (memory.isBanned id).map (entry.isBan || ·) else memory.isBanned id := by
  have unchanged : memory.isBanned id =
      if own = id then (memory.isBanned id).map (false || ·) else memory.isBanned id := by
    cases memory.isBanned id <;> simp [Except.map]
  cases entry with
  | ban =>
    by_cases same : own = id <;> cases fails : memory.bansFail <;>
      simp [enter, ban, isBanned, fails, same, eq_comm (a := id), Entry.isBan, Except.map]
  | config loaded => exact unchanged
  | configFailure project failure => exact unchanged
  | diff files => exact unchanged

theorem loadConfig_cons (named project : ProjectName)
    (answer : Except ConfigFailure ProjectConfig) :
    loadConfig { memory with configs := ((named, own), answer) :: memory.configs } project id =
      if own = id then (if named = project then some answer else none).getD
        (memory.loadConfig project id)
      else memory.loadConfig project id := by
  simp only [loadConfig, lookup_cons_eq_ite, Prod.mk.injEq]
  by_cases same : own = id <;> by_cases found : named = project <;> simp [same, found]

theorem loadConfig_enter (project : ProjectName) :
    (memory.enter own entry).loadConfig project id =
      if own = id then (entry.config? project).getD (memory.loadConfig project id)
      else memory.loadConfig project id := by
  cases entry with
  | ban => exact (ite_self _).symm
  | config loaded => exact memory.loadConfig_cons id own loaded.project project (.ok loaded)
  | configFailure named failure => exact memory.loadConfig_cons id own named project (.error failure)
  | diff files => exact (ite_self _).symm

theorem changedFiles_enter :
    (memory.enter own entry).changedFiles id =
      if own = id then entry.diff?.getD (memory.changedFiles id) else memory.changedFiles id := by
  cases entry with
  | ban => exact (ite_self _).symm
  | config loaded => exact (ite_self _).symm
  | configFailure other failure => exact (ite_self _).symm
  | diff files =>
    simp only [enter, addDiff, changedFiles, lookup_cons_eq_ite, Entry.diff?, Option.getD_some]
    by_cases same : own = id <;> simp [same]

end

section

variable {text : String} {id : ObjectId} (read : ObjectId.parse? text = some id)
  {β : Type} (look : Memory → β) (change : Entry → β → β)
  (enters : ∀ (memory : Memory) (own : ObjectId) (entry : Entry),
    look (memory.enter own entry) = if own = id then change entry (look memory) else look memory)
include read enters

theorem look_register (memory : Memory) (registration : Registration) :
    look (memory.register registration) =
      if SameDigits registration.spelling text then change registration.entry (look memory)
      else look memory := by
  have spelled : SameDigits registration.spelling text ↔
      ObjectId.parse? registration.spelling = some id := by
    rw [ObjectId.parse?_iff_sameDigits read]
    exact eq_comm
  rw [register]
  cases own : ObjectId.parse? registration.spelling with
  | none => simp [spelled, own]
  | some other => simp [spelled, own, enters]

theorem look_registerAll (memory : Memory) (registrations : List Registration) :
    look (memory.registerAll registrations) =
      (entriesUnder text registrations).foldl (fun seen entry => change entry seen)
        (look memory) := by
  induction registrations generalizing memory with
  | nil => rfl
  | cons registration rest ih =>
    have first := look_register read look change enters memory registration
    rw [registerAll_cons, ih, first]
    by_cases same : SameDigits registration.spelling text <;> simp [entriesUnder, same]

end

end Memory

theorem foldl_getD {β : Type} (view : Entry → Option β) (entries : List Entry) (start : β) :
    entries.foldl (fun seen entry => (view entry).getD seen) start =
      (entries.filterMap view).getLast?.getD start := by
  induction entries generalizing start with
  | nil => rfl
  | cons entry rest ih =>
    rw [List.foldl_cons, ih]
    cases own : view entry with
    | none => simp [own]
    | some seen => simp [own, List.getLast?_cons]

theorem foldl_map_isBan (entries : List Entry) (answer : Except StorageFailure Bool) :
    entries.foldl (fun seen entry => seen.map (entry.isBan || ·)) answer =
      answer.map (entries.any Entry.isBan || ·) := by
  induction entries generalizing answer with
  | nil => cases answer <;> rfl
  | cons entry rest ih =>
    rw [List.foldl_cons, ih]
    cases answer with
    | error failure => rfl
    | ok banned => simp [Except.map, Bool.or_assoc, Bool.or_left_comm]

namespace Memory

variable {text : String} {id : ObjectId} (read : ObjectId.parse? text = some id) (memory : Memory)
  (registrations : List Registration)
include read

theorem isBanned_registerAll :
    (memory.registerAll registrations).isBanned id =
      (memory.isBanned id).map ((entriesUnder text registrations).any Entry.isBan || ·) := by
  rw [← foldl_map_isBan]
  exact look_registerAll read (fun memory => memory.isBanned id)
    (fun entry answer => answer.map (entry.isBan || ·))
    (fun memory own entry => memory.isBanned_enter id own entry) memory registrations

theorem loadConfig_registerAll (project : ProjectName) :
    (memory.registerAll registrations).loadConfig project id =
      ((entriesUnder text registrations).filterMap (Entry.config? project)).getLast?.getD
        (memory.loadConfig project id) := by
  rw [← foldl_getD]
  exact look_registerAll read (fun memory => memory.loadConfig project id)
    (fun entry answer => (entry.config? project).getD answer)
    (fun memory own entry => memory.loadConfig_enter id own entry project) memory registrations

theorem changedFiles_registerAll :
    (memory.registerAll registrations).changedFiles id =
      ((entriesUnder text registrations).filterMap Entry.diff?).getLast?.getD
        (memory.changedFiles id) := by
  rw [← foldl_getD]
  exact look_registerAll read (fun memory => memory.changedFiles id)
    (fun entry answer => entry.diff?.getD answer)
    (fun memory own entry => memory.changedFiles_enter id own entry) memory registrations

end Memory

theorem ObjectId.decode?_text (text : String) :
    (decode? (Json.text text) : Option ObjectId) = ObjectId.parse? text := by
  change (decode? (encode text) : Option String).bind ObjectId.parse? = ObjectId.parse? text
  rw [Faithful.decode?_encode, Option.bind_some]

/-- Ids are canonical. A text is read as an id if it spells one, in digits of either case; the id is named
by the digits in lower case, can be abbreviated, and is read back from its name and from its form. So the
texts that are read as one id are those with the same digits, and a server answers for an id what it was
told under any of them: it is banned if one of them was, and of what was said of its configuration and of
its changes the last counts. -/
theorem object_ids_are_canonical :
    (∀ text : String, ObjectId.parse? text ≠ none ↔ SpellsId text) ∧
    (∀ (text : String) (id : ObjectId), ObjectId.parse? text = some id ↔
      SpellsId text ∧ id.name.toList = text.toList.map Char.toLower) ∧
    (∀ (text : String) (id : ObjectId), ObjectId.parse? text = some id ↔
      ∃ bytes, readBytes? text.toList = some bytes ∧ bytes.length = 20 ∧
        id.name.toList = bytes.flatMap hexByte) ∧
    (∀ text : String, (decode? (Json.text text) : Option ObjectId) = ObjectId.parse? text) ∧
    (∀ id : ObjectId, ObjectId.parse? id.name = some id ∧ decode? (encode id) = some id ∧
      id.short.toList = id.name.toList.take 7 ∧ id.short.utf8ByteSize = 7 ∧
      (∃ rest, id.name = id.short ++ rest) ∧ (id.isZero = true ↔ id = .zero)) ∧
    ∀ (text : String) (id : ObjectId), ObjectId.parse? text = some id →
      (∀ other, ObjectId.parse? other = some id ↔ SameDigits text other) ∧
      ∀ (memory : Memory) (registrations : List Registration) (project : ProjectName),
        let entries := entriesUnder text registrations
        let told := memory.registerAll registrations
        told.isBanned id = (memory.isBanned id).map (entries.any Entry.isBan || ·) ∧
        told.loadConfig project id =
          (entries.filterMap (Entry.config? project)).getLast?.getD
            (memory.loadConfig project id) ∧
        told.changedFiles id =
          (entries.filterMap Entry.diff?).getLast?.getD (memory.changedFiles id) := by
  refine ⟨fun _ => ObjectId.parse?_ne_none_iff, fun _ _ => ObjectId.parse?_eq_some_iff,
    fun _ _ => ObjectId.parse?_eq_some_iff_bytes, ObjectId.decode?_text, ?_, ?_⟩
  · intro id
    exact ⟨id.parse?_name, Faithful.decode?_encode id, id.short_toList, id.short_append.1,
      ⟨_, id.short_append.2⟩, ObjectId.isZero_iff⟩
  · intro text id read
    refine ⟨fun other => ObjectId.parse?_iff_sameDigits read, ?_⟩
    intro memory registrations project
    exact ⟨Memory.isBanned_registerAll read memory registrations,
      Memory.loadConfig_registerAll read memory registrations project,
      Memory.changedFiles_registerAll read memory registrations⟩

/-- What is told under upper-case digits is found under lower-case ones, and under the same id only. -/
theorem upper_case_registrations_are_found :
    let id : ObjectId := ⟨"7abcdef17abcdef17abcdef17abcdef17abcdef1", by decide +kernel⟩
    let upper := "7ABCDEF17ABCDEF17ABCDEF17ABCDEF17ABCDEF1"
    let other := "7ABCDEF17ABCDEF17ABCDEF17ABCDEF17ABCDEF2"
    let config := ProjectConfig.plain ⟨"demo"⟩
    let registrations : List Registration :=
      [⟨upper, .ban⟩, ⟨upper, .config config⟩, ⟨upper, .diff [.added "file"]⟩, ⟨other, .diff []⟩]
    let told := (Memory.empty "localhost").registerAll registrations
    ObjectId.parse? id.name = some id ∧ told.isBanned id = .ok true ∧
      told.loadConfig ⟨"demo"⟩ id = .ok config ∧
      told.changedFiles id = .ok [.added "file"] := by
  intro id upper other config registrations told
  have same : SameDigits upper id.name := by decide +kernel
  have differs : ¬ SameDigits other id.name := by decide +kernel
  have entries : entriesUnder id.name registrations =
      [.ban, .config config, .diff [.added "file"]] := by
    simp [entriesUnder, registrations, same, differs]
  obtain ⟨banned, loaded, changed⟩ :=
    (object_ids_are_canonical.2.2.2.2.2 id.name id id.parse?_name).2 (Memory.empty "localhost")
      registrations ⟨"demo"⟩
  rw [entries] at banned loaded changed
  exact ⟨id.parse?_name, banned, loaded, changed⟩

end CommitAdmission
