import CommitAdmission.DryRun.Push
import CommitAdmission.Proofs.Registrations

namespace CommitAdmission

theorem Memory.loadConfig_congr {memory other : Memory} (same : memory.configs = other.configs) :
    memory.loadConfig = other.loadConfig := by
  funext project id
  rw [loadConfig, loadConfig, same]

theorem Memory.view_foldl {α β : Type} (view : Memory → β) {change : Memory → α → Memory}
    (unaffected : ∀ memory value, view (change memory value) = view memory) (memory : Memory)
    (values : List α) : view (values.foldl change memory) = view memory := by
  induction values generalizing memory with
  | nil => rfl
  | cons value rest ih => rw [List.foldl_cons, ih, unaffected]

theorem Memory.view_registerAll {β : Type} (view : Memory → β)
    (unaffected : ∀ memory id entry, view (Memory.enter memory id entry) = view memory)
    (memory : Memory) (registrations : List Registration) :
    view (memory.registerAll registrations) = view memory := by
  apply Memory.view_foldl
  intro before registration
  unfold Memory.register
  split
  · rfl
  · exact unaffected _ _ _

/-- Of the entries that satisfy a condition the last is the one with none under a later key. -/
theorem Text.TextMap.getLast?_filter_eq_some_iff {β : Type} (map : TextMap β)
    (condition : String × β → Bool) (entry : String × β) :
    (map.entries.filter condition).getLast? = some entry ↔
      entry ∈ map.entries ∧ condition entry = true ∧
        ∀ other ∈ map.entries, entry.1 < other.1 → condition other = false := by
  have ascending := map.ascending.filter condition
  have listed (other : String × β) : other ∈ map.entries.filter condition ↔
      other ∈ map.entries ∧ condition other = true := List.mem_filter
  generalize map.entries.filter condition = chosen at ascending listed
  rw [List.getLast?_eq_some_iff]
  constructor
  · rintro ⟨earlier, rfl⟩
    obtain ⟨own, holds⟩ := (listed entry).mp (List.mem_append_right _ List.mem_cons_self)
    refine ⟨own, holds, fun other member later => Bool.eq_false_iff.mpr fun found => ?_⟩
    rcases List.mem_append.mp ((listed other).mpr ⟨member, found⟩) with before | last
    · have below : other.1 < entry.1 :=
        (List.pairwise_append.mp ascending).2.2 other before entry List.mem_cons_self
      exact String.lt_asymm below later
    · rw [List.mem_singleton.mp last] at later
      exact String.lt_irrefl _ later
  · rintro ⟨own, holds, noneLater⟩
    obtain ⟨earlier, rest, rfl⟩ := List.append_of_mem ((listed entry).mpr ⟨own, holds⟩)
    cases rest with
    | nil => exact ⟨earlier, rfl⟩
    | cons next rest =>
      obtain ⟨member, found⟩ := (listed next).mp (by simp)
      have below : entry.1 < next.1 :=
        (List.pairwise_cons.mp (List.pairwise_append.mp ascending).2.1).1 next List.mem_cons_self
      rw [noneLater next member below] at found
      cases found

namespace DryRun

open Text

namespace Push

def registration (entry : String × ProjectConfig) : Registration := ⟨entry.1, .config entry.2⟩

section

variable {memory told : Memory} {entries : List (String × ProjectConfig)}

theorem addConfigs_eq_ok_iff : addConfigs memory entries = .ok told ↔
    (∀ entry ∈ entries, ObjectId.parse? entry.1 ≠ none) ∧
      told = memory.registerAll (entries.map registration) := by
  induction entries generalizing memory with
  | nil => simp [addConfigs, Memory.registerAll, eq_comm]
  | cons entry rest ih =>
    rw [addConfigs, List.forall_mem_cons, List.map_cons, Memory.registerAll_cons]
    cases read : ObjectId.parse? entry.1 with
    | none => simp
    | some id =>
      have entered : memory.register (registration entry) = memory.addConfig id entry.2 := by
        simp only [Memory.register, registration, read, Memory.enter]
      rw [entered]
      simp [ih]

theorem addConfigs_fails_iff : (∃ invalid, addConfigs memory entries = .error invalid) ↔
    ∃ entry ∈ entries, ObjectId.parse? entry.1 = none := by
  induction entries generalizing memory with
  | nil => simp [addConfigs]
  | cons entry rest ih =>
    rw [addConfigs]
    cases read : ObjectId.parse? entry.1 with
    | none => simp [read]
    | some id => simp [read, ih]

end

def IsFor (project : ProjectName) (id : ObjectId) (entry : String × ProjectConfig) : Prop :=
  ObjectId.parse? entry.1 = some id ∧ entry.2.project = project

instance (project : ProjectName) (id : ObjectId) (entry : String × ProjectConfig) :
    Decidable (IsFor project id entry) := inferInstanceAs (Decidable (_ ∧ _))

def configsAt (push : Push) (project : ProjectName) (id : ObjectId) : List ProjectConfig :=
  (push.configs.entries.filter fun entry => IsFor project id entry).map Prod.snd

theorem config?_entriesUnder (push : Push) (project : ProjectName) (id : ObjectId) :
    (entriesUnder id.name (push.configs.entries.map registration)).filterMap
        (Entry.config? project) = (push.configsAt project id).map .ok := by
  have spelled (key : String) :
      SameDigits key id.name ↔ ObjectId.parse? key = some id := by
    rw [ObjectId.parse?_iff_sameDigits id.parse?_name, SameDigits, SameDigits, eq_comm]
  unfold configsAt
  induction push.configs.entries with
  | nil => rfl
  | cons entry rest ih =>
    rw [List.map_cons]
    by_cases read : ObjectId.parse? entry.1 = some id <;>
      by_cases own : entry.2.project = project <;>
        simp_all [entriesUnder, registration, Entry.config?, IsFor]

section

variable {systemHost : String} {push : Push} {told : Memory}

theorem memory_fails_iff : (∃ invalid, push.memory systemHost = .error invalid) ↔
    ∃ entry ∈ push.configs.entries, ObjectId.parse? entry.1 = none := by
  have added := @addConfigs_fails_iff ((Memory.empty systemHost).addProject push.project)
    push.configs.entries
  rw [← added, memory]
  cases addConfigs ((Memory.empty systemHost).addProject push.project) push.configs.entries <;>
    simp [bind, Except.bind, pure, Except.pure]

variable (systemHost) in
theorem exists_memory (read : ∀ entry ∈ push.configs.entries, ObjectId.parse? entry.1 ≠ none) :
    ∃ told, push.memory systemHost = .ok told := by
  cases ends : push.memory systemHost with
  | ok told => exact ⟨told, rfl⟩
  | error invalid =>
    obtain ⟨entry, listed, unread⟩ := memory_fails_iff.mp ⟨invalid, ends⟩
    exact absurd unread (read entry listed)

theorem view_memory {β : Type} (view : Memory → β)
    (grants : ∀ memory permission, view (Memory.grant memory permission) = view memory)
    (bans : ∀ memory id, view (Memory.ban memory id) = view memory)
    (diffs : ∀ memory id files, view (Memory.addDiff memory id files) = view memory)
    (filled : push.memory systemHost = .ok told) :
    view told = view (((Memory.empty systemHost).addProject push.project).registerAll
      (push.configs.entries.map registration)) := by
  unfold memory at filled
  cases added : addConfigs ((Memory.empty systemHost).addProject push.project)
      push.configs.entries with
  | error invalid =>
    rw [added] at filled
    cases filled
  | ok registered =>
    rw [added] at filled
    rw [← (addConfigs_eq_ok_iff.mp added).2, ← Except.ok.inj filled]
    have granted := Memory.view_foldl view grants registered push.granted
    have banned := Memory.view_foldl view bans (push.granted.foldl Memory.grant registered) push.banned
    rw [granted] at banned
    cases push.changedPaths with
    | none => exact banned
    | some paths => exact (diffs _ _ _).trans banned

theorem systemHost_memory (filled : push.memory systemHost = .ok told) :
    told.systemHost = systemHost := by
  rw [view_memory Memory.systemHost (fun _ _ => rfl) (fun _ _ => rfl) (fun _ _ _ => rfl) filled,
    Memory.view_registerAll Memory.systemHost]
  · rfl
  · rintro memory id (_ | _ | _ | _) <;> rfl

theorem project?_memory (filled : push.memory systemHost = .ok told) :
    told.collaborators.project? push.project.name = some push.project := by
  have projects : told.projects = [(push.project.name, push.project)] := by
    rw [view_memory Memory.projects (fun _ _ => rfl) (fun _ _ => rfl) (fun _ _ _ => rfl) filled,
      Memory.view_registerAll Memory.projects]
    · rfl
    · rintro memory id (_ | _ | _ | _) <;> rfl
  simp [Memory.collaborators, projects]

theorem loadConfig_memory (filled : push.memory systemHost = .ok told) :
    told.loadConfig = (((Memory.empty systemHost).addProject push.project).registerAll
      (push.configs.entries.map registration)).loadConfig :=
  Memory.loadConfig_congr
    (view_memory Memory.configs (fun _ _ => rfl) (fun _ _ => rfl) (fun _ _ _ => rfl) filled)

theorem loadConfig_eq_getLast? (filled : push.memory systemHost = .ok told) (project : ProjectName)
    (id : ObjectId) : told.loadConfig project id =
      ((push.configsAt project id).getLast?.map .ok).getD
        (.error (.unreadable ("no project.config for " ++ project.name ++ " at " ++ id.name))) := by
  rw [loadConfig_memory filled, Memory.loadConfig_registerAll id.parse?_name, config?_entriesUnder,
    List.getLast?_map]
  rfl

theorem loadConfig_eq_ok_iff (filled : push.memory systemHost = .ok told) (project : ProjectName)
    (id : ObjectId) (config : ProjectConfig) : told.loadConfig project id = .ok config ↔
      ∃ key, (key, config) ∈ push.configs.entries ∧ IsFor project id (key, config) ∧
        ∀ other ∈ push.configs.entries, key < other.1 → ¬ IsFor project id other := by
  have last (key : String) := push.configs.getLast?_filter_eq_some_iff
    (fun entry => IsFor project id entry) (key, config)
  simp only [decide_eq_true_eq, decide_eq_false_iff_not] at last
  simp only [← last]
  rw [loadConfig_eq_getLast? filled, configsAt, List.getLast?_map]
  cases (push.configs.entries.filter fun entry => IsFor project id entry).getLast? with
  | none => simp
  | some entry => simp [Prod.ext_iff]

theorem loadConfig_eq_error_iff (filled : push.memory systemHost = .ok told) (project : ProjectName)
    (id : ObjectId) (failure : ConfigFailure) : told.loadConfig project id = .error failure ↔
      (∀ entry ∈ push.configs.entries, ¬ IsFor project id entry) ∧
        failure = .unreadable ("no project.config for " ++ project.name ++ " at " ++ id.name) := by
  have absent : push.configsAt project id = [] ↔
      ∀ entry ∈ push.configs.entries, ¬ IsFor project id entry := by
    simp [configsAt, List.filter_eq_nil_iff]
  rw [loadConfig_eq_getLast? filled, ← absent, ← List.getLast?_eq_none_iff]
  cases (push.configsAt project id).getLast? <;> simp [eq_comm]

end

end Push

/-- The memory of a dry run is filled unless a configuration stands under no id. Then an id leads to what
the last of its spellings has for the project, and to an error if none has anything. So each configuration
is found under its id, unless one of the same project follows under another spelling. -/
theorem last_spelling_is_loaded (systemHost : String) (push : Push) :
    ((∃ invalid, push.memory systemHost = .error invalid) ↔
      ∃ entry ∈ push.configs.entries, ObjectId.parse? entry.1 = none) ∧
    ∀ told, push.memory systemHost = .ok told → ∀ project id,
      (∀ config, told.loadConfig project id = .ok config ↔
        ∃ key, (key, config) ∈ push.configs.entries ∧ Push.IsFor project id (key, config) ∧
          ∀ other ∈ push.configs.entries, key < other.1 → ¬ Push.IsFor project id other) ∧
      ∀ failure, told.loadConfig project id = .error failure ↔
        (∀ entry ∈ push.configs.entries, ¬ Push.IsFor project id entry) ∧
          failure = .unreadable ("no project.config for " ++ project.name ++ " at " ++ id.name) :=
  ⟨Push.memory_fails_iff, fun _ filled project id =>
    ⟨Push.loadConfig_eq_ok_iff filled project id, Push.loadConfig_eq_error_iff filled project id⟩⟩

/-- Configurations of two projects at one revision, and one at another revision. -/
theorem configs_of_two_projects_are_loaded :
    let id : ObjectId := ⟨"6fedcba16fedcba16fedcba16fedcba16fedcba1", by decide +kernel⟩
    let other : ObjectId := ⟨"6fedcba16fedcba16fedcba16fedcba16fedcba2", by decide +kernel⟩
    let person : Person := ⟨"U", "u@x"⟩
    let configs : TextMap ProjectConfig :=
      ⟨[("6FEDCBA16FEDCBA16FEDCBA16FEDCBA16FEDCBA1", .plain ⟨"q"⟩), (id.name, .plain ⟨"p"⟩)],
        by decide +kernel⟩
    let push : Push :=
      ⟨"refs/heads/main", none, none, .activeProject ⟨"p"⟩, ⟨id, [], person, person, "Fix"⟩, .ofAccount 1,
        [], [], none, none, none, .none, false, configs⟩
    ∃ told, push.memory "localhost" = .ok told ∧
      told.loadConfig ⟨"q"⟩ id = .ok (.plain ⟨"q"⟩) ∧ told.loadConfig ⟨"p"⟩ id = .ok (.plain ⟨"p"⟩) ∧
      told.loadConfig ⟨"p"⟩ other =
        .error (.unreadable "no project.config for p at 6fedcba16fedcba16fedcba16fedcba16fedcba2") := by
  intro id other person configs push
  have read : ∀ entry ∈ push.configs.entries, ObjectId.parse? entry.1 ≠ none := by decide +kernel
  obtain ⟨told, filled⟩ := Push.exists_memory "localhost" read
  have loads := (last_spelling_is_loaded "localhost" push).2 told filled
  refine ⟨told, filled, ?_, ?_, ?_⟩
  · apply ((loads ⟨"q"⟩ id).1 _).mpr
    exact ⟨_, List.mem_cons_self, by decide +kernel, by decide +kernel⟩
  · apply ((loads ⟨"p"⟩ id).1 _).mpr
    exact ⟨_, List.mem_cons_of_mem _ List.mem_cons_self, by decide +kernel, by decide +kernel⟩
  · apply ((loads ⟨"p"⟩ other).2 _).mpr
    exact ⟨by decide +kernel, by decide +kernel⟩

/-- A configuration under upper-case digits is lost to one under the same digits in lower case. -/
theorem upper_case_config_is_lost :
    let id : ObjectId := ⟨"6fedcba16fedcba16fedcba16fedcba16fedcba1", by decide +kernel⟩
    let upper := "6FEDCBA16FEDCBA16FEDCBA16FEDCBA16FEDCBA1"
    let person : Person := ⟨"U", "u@x"⟩
    let invalid : ProjectConfig := ⟨⟨"p"⟩, none, ["line 4: unknown key"], []⟩
    let configs : TextMap ProjectConfig :=
      ⟨[(upper, invalid), (id.name, .plain ⟨"p"⟩)], by decide +kernel⟩
    let push : Push :=
      ⟨"refs/heads/main", none, none, .activeProject ⟨"p"⟩, ⟨id, [], person, person, "Fix"⟩, .ofAccount 1,
        [], [], none, none, none, .none, false, configs⟩
    ObjectId.parse? upper = some id ∧ (upper, invalid) ∈ push.configs.entries ∧
      ∃ told, push.memory "localhost" = .ok told ∧
        told.loadConfig invalid.project id = .ok (.plain ⟨"p"⟩) ∧ invalid ≠ .plain ⟨"p"⟩ := by
  intro id upper person invalid configs push
  have read : ∀ entry ∈ push.configs.entries, ObjectId.parse? entry.1 ≠ none := by decide +kernel
  obtain ⟨told, filled⟩ := Push.exists_memory "localhost" read
  have loaded : told.loadConfig invalid.project id = .ok (.plain ⟨"p"⟩) := by
    apply (Push.loadConfig_eq_ok_iff filled _ _ _).mpr
    exact ⟨_, List.mem_cons_of_mem _ List.mem_cons_self, by decide +kernel, by decide +kernel⟩
  exact ⟨by decide +kernel, List.mem_cons_self, told, filled, loaded, by decide⟩

end DryRun

end CommitAdmission
