import CommitAdmission.Commit
import CommitAdmission.Json.Record
import CommitAdmission.Project
import CommitAdmission.Records
import CommitAdmission.Text.Decimal
import CommitAdmission.Toml.Document

namespace CommitAdmission

open Json Text

structure Settings where
  webUrl : Option String
  hookCommand : Option String
  maxFiles : UInt64
  serverPerson : Person
  allProjects : ProjectName
  allUsers : ProjectName
  deriving DecidableEq, Repr

namespace Settings

def standard : Settings where
  webUrl := none
  hookCommand := none
  maxFiles := 100000
  serverPerson := ⟨"Code Review", "codereview@localhost"⟩
  allProjects := ⟨"All-Projects"⟩
  allUsers := ⟨"All-Users"⟩

def withSlash (url : String) : String := if url.toList.getLast? = some '/' then url else url ++ "/"

def baseUrl (settings : Settings) : Option String := settings.webUrl.map withSlash

def pageUrl (base section_ : String) : String :=
  if section_.isEmpty then base ++ "settings" else base ++ "settings#" ++ section_

inductive Invalid
  | maxFiles (value : String)
  deriving DecidableEq, Repr

def Invalid.message : Invalid → String
  | maxFiles value => "invalid value for PUSHGATE_MAX_FILES: " ++ value

def ofVariables (variable_ : String → Option String) : Except Invalid Settings := do
  let maxFiles ← match variable_ "PUSHGATE_MAX_FILES" with
    | none => pure standard.maxFiles
    | some value =>
      match readUnsigned? UInt64.size value.toList with
      | some number => pure (UInt64.ofNat number)
      | none => throw (.maxFiles value)
  return { standard with
    webUrl := variable_ "PUSHGATE_WEB_URL"
    hookCommand := variable_ "PUSHGATE_HOOK_COMMAND"
    maxFiles
    serverPerson.name := (variable_ "PUSHGATE_SERVER_NAME").getD standard.serverPerson.name
    serverPerson.email := (variable_ "PUSHGATE_SERVER_EMAIL").getD standard.serverPerson.email }

def textOf? : Toml → Option String
  | .text content => some content
  | _ => none

def countOf? : Toml → Option UInt64
  | .integer value => if 0 ≤ value then some (UInt64.ofNat value.toNat) else none
  | _ => none

/-- A person is a table with both fields, or an array that starts with them. -/
def personOf? : Toml → Option Person
  | .table _ entries => do
    let name ← textOf? (← entries.lookup "name")
    let email ← textOf? (← entries.lookup "email")
    return ⟨name, email⟩
  | .array (name :: email :: _) => do return ⟨← textOf? name, ← textOf? email⟩
  | _ => none

def setting? {α : Type} (entries : Toml.Entries) (key : String) (read? : Toml → Option α)
    (default : α) : Option α :=
  match entries.lookup key with
  | none => some default
  | some value => read? value

def ofEntries? (entries : Toml.Entries) : Option Settings := do
  return {
    webUrl := ← setting? entries "canonical_web_url" (fun value => (textOf? value).map some) none
    hookCommand := ←
      setting? entries "install_commit_msg_hook_command" (fun value => (textOf? value).map some) none
    maxFiles := ← setting? entries "max_files" countOf? standard.maxFiles
    serverPerson := ← setting? entries "server_ident" personOf? standard.serverPerson
    allProjects := ←
      setting? entries "all_projects" (fun value => (textOf? value).map ProjectName.mk)
        standard.allProjects
    allUsers := ←
      setting? entries "all_users" (fun value => (textOf? value).map ProjectName.mk)
        standard.allUsers }

def ofDocument? (document : String) : Option Settings := do ofEntries? (← Toml.parse? document)

inductive FileError
  | unreadable
  | malformed
  deriving DecidableEq, Repr

/-- Reads settings from the content of a file, which must be UTF-8. -/
def ofFile (content : ByteArray) : Except FileError Settings :=
  match String.fromUTF8? content with
  | none => .error .unreadable
  | some document =>
    match ofDocument? document with
    | none => .error .malformed
    | some settings => .ok settings

end Settings

instance : Encode Settings where
  encode settings := .ofMembers
    [("canonical_web_url", encode settings.webUrl),
     ("install_commit_msg_hook_command", encode settings.hookCommand),
     ("max_files", encode settings.maxFiles),
     ("server_ident", encode settings.serverPerson),
     ("all_projects", encode settings.allProjects),
     ("all_users", encode settings.allUsers)]

instance : Decode Settings where
  decode? value := do
    let fields ← value.record?
      ["canonical_web_url", "install_commit_msg_hook_command", "max_files", "server_ident",
       "all_projects", "all_users"]
    let standard := Settings.standard
    return {
      webUrl := ← fields.withDefault "canonical_web_url" standard.webUrl
      hookCommand := ← fields.withDefault "install_commit_msg_hook_command" standard.hookCommand
      maxFiles := ← fields.withDefault "max_files" standard.maxFiles
      serverPerson := ← fields.withDefault "server_ident" standard.serverPerson
      allProjects := ← fields.withDefault "all_projects" standard.allProjects
      allUsers := ← fields.withDefault "all_users" standard.allUsers }

end CommitAdmission
