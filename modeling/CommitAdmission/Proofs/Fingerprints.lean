import CommitAdmission.Proofs.BuiltIn

/-! What the fingerprint of a chain tells about its validators. The text that is hashed has each name on
lines of its own, so that it determines the lines of all names, and the names where each of them is one
line. The validators of the server have such names; plugins may have others. -/

namespace CommitAdmission

open Text

section Bytes

theorem byteArray_toList_loop (bytes : ByteArray) (index : Nat) (taken : List UInt8) :
    ByteArray.toList.loop bytes index taken = taken.reverse ++ bytes.data.toList.drop index := by
  fun_induction ByteArray.toList.loop bytes index taken with
  | case1 index taken below ih =>
    have bound : index < bytes.data.toList.length := by simpa using below
    have head : bytes.get! index = bytes.data.toList[index] := by
      rw [ByteArray.get!]
      simp_all
    rw [ih, List.reverse_cons, List.append_assoc, List.singleton_append, head,
      List.drop_eq_getElem_cons bound]
  | case2 index taken above =>
    have bound : bytes.data.toList.length ≤ index := by simpa using above
    rw [List.drop_eq_nil_of_le bound, List.append_nil]

theorem byteArray_toList (bytes : ByteArray) : bytes.toList = bytes.data.toList := by
  rw [ByteArray.toList, byteArray_toList_loop]
  rfl

theorem toUTF8_toList_injective {text other : String}
    (same : text.toUTF8.toList = other.toUTF8.toList) : text = other := by
  rw [byteArray_toList, byteArray_toList] at same
  exact String.toByteArray_inj.mp (ByteArray.ext (Array.toList_inj.mp same))

end Bytes

def linesOf (names : List String) : List (List Char) :=
  names.flatMap fun name => splitOn '\n' name.toList

theorem linesOf_of_notMem {names : List String} (whole : ∀ name ∈ names, '\n' ∉ name.toList) :
    linesOf names = names.map String.toList := by
  rw [linesOf, List.map_eq_flatMap, List.flatMap_def, List.flatMap_def]
  congr 1
  apply List.map_congr_left
  intro name member
  exact splitOn_of_notMem (whole name member)

theorem linesOf_eq_iff {names others : List String}
    (whole : ∀ name ∈ names ++ others, '\n' ∉ name.toList) :
    linesOf names = linesOf others ↔ names = others := by
  rw [List.forall_mem_append] at whole
  rw [linesOf_of_notMem whole.1, linesOf_of_notMem whole.2]
  apply List.map_inj_right
  exact fun _ _ => String.toList_inj.mp

namespace Chain

variable (chain other : Chain)

theorem toList_preimage :
    chain.preimage.toList = chain.names.flatMap fun name => name.toList ++ ['\n'] := by
  rw [preimage, String.toList_join, List.flatMap_map]
  congr
  funext name
  exact String.toList_append

theorem splitOn_preimage :
    splitOn '\n' chain.preimage.toList = linesOf chain.names ++ [[]] := by
  rw [toList_preimage]
  induction chain.names with
  | nil => rfl
  | cons name rest ih =>
    rw [List.flatMap_cons, List.append_assoc, List.singleton_append, splitOn_append_separator, ih,
      linesOf, linesOf, List.flatMap_cons, List.append_assoc]

theorem preimage_eq_iff :
    chain.preimage = other.preimage ↔ linesOf chain.names = linesOf other.names := by
  constructor
  · intro same
    have pieces : linesOf chain.names ++ [[]] = linesOf other.names ++ [[]] := by
      rw [← splitOn_preimage, ← splitOn_preimage, same]
    exact List.append_cancel_right pieces
  · intro same
    apply String.toList_inj.mp
    calc chain.preimage.toList
        = joinWith ['\n'] (linesOf chain.names ++ [[]]) := by
          rw [← splitOn_preimage, joinWith_splitOn]
      _ = joinWith ['\n'] (linesOf other.names ++ [[]]) := by rw [same]
      _ = other.preimage.toList := by rw [← splitOn_preimage, joinWith_splitOn]

def hashed : List UInt8 := chain.preimage.toUTF8.toList

theorem hashed_eq_iff :
    chain.hashed = other.hashed ↔ linesOf chain.names = linesOf other.names := by
  rw [← preimage_eq_iff]
  constructor
  · exact toUTF8_toList_injective
  · intro same
    rw [hashed, hashed, same]

/-- Where the hash does not collide, the fingerprint stands for what is hashed. -/
theorem fingerprint_eq_iff
    (collisionFree : Digest.sha256 chain.hashed = Digest.sha256 other.hashed →
      chain.hashed = other.hashed) :
    chain.fingerprint = other.fingerprint ↔ chain.hashed = other.hashed := by
  constructor
  · intro same
    apply collisionFree
    exact flatMap_hexByte_injective (String.ofList_injective same)
  · intro same
    change String.ofList ((Digest.sha256 chain.hashed).flatMap hexByte) =
      String.ofList ((Digest.sha256 other.hashed).flatMap hexByte)
    rw [same]

end Chain

namespace Factory

variable (factory : Factory) (request : Request) (project : ProjectState) (scenario : Scenario)

def ownNames : List String :=
  ["UploadMergesPermissionValidator", "ProjectStateValidationListener",
   "AmendedGerritMergeCommitValidationListener", "AuthorUploaderValidator", "FileCountValidator",
   "CommitterUploaderValidator", "SignedOffByValidator", "ChangeIdValidator", "ConfigValidator",
   "BannedCommitsValidator", "GroupCommitValidator", "LabelConfigValidator"]

theorem map_name_around :
    (factory.leading request project ++ factory.trailing).map Validator.name = ownNames := rfl

theorem names_on_one_line (plugins : ∀ plugin ∈ factory.plugins, '\n' ∉ plugin.name.toList) :
    ∀ name ∈ (factory.chain request project scenario).names, '\n' ∉ name.toList := by
  have around : ∀ validator ∈ factory.leading request project ++ factory.trailing,
      '\n' ∉ validator.name.toList := by
    have plain : ∀ name ∈ ownNames, '\n' ∉ name.toList := by decide
    intro validator member
    apply plain
    rw [← factory.map_name_around request project]
    exact List.mem_map_of_mem member
  have validators : ∀ validator ∈ factory.validators request project scenario,
      '\n' ∉ validator.name.toList := by
    apply factory.forall_validators request project around
    exact fun plugin member => ⟨plugins plugin member, plugins plugin member⟩
  rw [Chain.names, List.forall_mem_map]
  exact validators

/-- The fingerprint tells the lines of all names, and it tells the names where plugins have names of
one line. -/
theorem fingerprint_tells_names (factory other : Factory) (request otherRequest : Request)
    (project otherProject : ProjectState) (scenario otherScenario : Scenario) :
    let chain := factory.chain request project scenario
    let otherChain := other.chain otherRequest otherProject otherScenario
    (Digest.sha256 chain.hashed = Digest.sha256 otherChain.hashed →
      chain.hashed = otherChain.hashed) →
    (chain.fingerprint = otherChain.fingerprint ↔ chain.hashed = otherChain.hashed) ∧
    (chain.hashed = otherChain.hashed ↔ linesOf chain.names = linesOf otherChain.names) ∧
    ((∀ plugin ∈ factory.plugins ++ other.plugins, '\n' ∉ plugin.name.toList) →
      (chain.fingerprint = otherChain.fingerprint ↔ chain.names = otherChain.names)) := by
  intro chain otherChain collisionFree
  have prints : chain.fingerprint = otherChain.fingerprint ↔ chain.hashed = otherChain.hashed :=
    chain.fingerprint_eq_iff otherChain collisionFree
  have lines : chain.hashed = otherChain.hashed ↔ linesOf chain.names = linesOf otherChain.names :=
    chain.hashed_eq_iff otherChain
  refine ⟨prints, lines, ?_⟩
  intro plugins
  rw [List.forall_mem_append] at plugins
  have whole : ∀ name ∈ chain.names ++ otherChain.names, '\n' ∉ name.toList :=
    List.forall_mem_append.mpr
      ⟨factory.names_on_one_line request project scenario plugins.1,
        other.names_on_one_line otherRequest otherProject otherScenario plugins.2⟩
  rw [prints, lines, linesOf_eq_iff whole]

/-- The chains of one factory for pushed and for merged commits are told from each other. -/
theorem fingerprints_of_receive_and_merged :
    let factory : Factory := ⟨.standard, [.constant "Plugin" false 0 (.ok .plain)], []⟩
    let request : Request :=
      ⟨⟨⟨"p"⟩, "refs/heads/main"⟩, User.ofAccount 1, .none, none, false⟩
    let project := ProjectState.activeProject ⟨"p"⟩
    let chain := factory.chain request project .receive
    let otherChain := factory.chain request project .merged
    (Digest.sha256 chain.hashed = Digest.sha256 otherChain.hashed →
      chain.hashed = otherChain.hashed) ∧
    (∀ plugin ∈ factory.plugins ++ factory.plugins, '\n' ∉ plugin.name.toList) ∧
    chain.fingerprint ≠ otherChain.fingerprint := by
  intro factory request project chain otherChain
  have collisionFree : Digest.sha256 chain.hashed = Digest.sha256 otherChain.hashed →
      chain.hashed = otherChain.hashed := by
    have differ : Digest.sha256 chain.hashed ≠ Digest.sha256 otherChain.hashed := by decide +kernel
    exact fun same => absurd same differ
  have oneLine : ∀ plugin ∈ factory.plugins ++ factory.plugins, '\n' ∉ plugin.name.toList := by
    decide
  obtain ⟨_, _, names⟩ :=
    fingerprint_tells_names factory factory request request project project .receive .merged
      collisionFree
  have differ : chain.names ≠ otherChain.names := by decide
  exact ⟨collisionFree, oneLine, fun same => differ ((names oneLine).mp same)⟩

/-- A plugin with a name of two lines is not told from two plugins. -/
theorem fingerprint_misses_line_break :
    let validates (name : String) : Plugin := .constant name false 0 (.ok .plain)
    let factory : Factory := ⟨.standard, [validates "A\nB"], []⟩
    let other : Factory := ⟨.standard, [validates "A", validates "B"], []⟩
    let request : Request :=
      ⟨⟨⟨"p"⟩, "refs/heads/main"⟩, User.ofAccount 1, .none, none, false⟩
    let project := ProjectState.activeProject ⟨"p"⟩
    let chain := factory.chain request project .receive
    let otherChain := other.chain request project .receive
    chain.fingerprint = otherChain.fingerprint ∧ chain.names ≠ otherChain.names := by
  intro validates factory other request project chain otherChain
  have lines : linesOf chain.names = linesOf otherChain.names := by decide +kernel
  have preimages : chain.preimage = otherChain.preimage :=
    (chain.preimage_eq_iff otherChain).mpr lines
  constructor
  · rw [Chain.fingerprint, Chain.fingerprint, preimages]
  · decide

end Factory

end CommitAdmission
