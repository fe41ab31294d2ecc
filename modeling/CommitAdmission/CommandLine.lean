import CommitAdmission.DryRun.Report
import CommitAdmission.Text.Quoted

namespace CommitAdmission.CommandLine

open DryRun Text

inductive Flag
  | push
  | config
  | scenario
  | json
  | verbose
  | logJson
  | help
  | version
  deriving DecidableEq, Repr

namespace Flag

def long : Flag → String
  | push => "push"
  | config => "config"
  | scenario => "scenario"
  | json => "json"
  | verbose => "verbose"
  | logJson => "log-json"
  | help => "help"
  | version => "version"

def short? : Flag → Option Char
  | config => some 'c'
  | scenario => some 's'
  | verbose => some 'v'
  | help => some 'h'
  | version => some 'V'
  | _ => none

def takesValue : Flag → Bool
  | push | config | scenario => true
  | _ => false

end Flag

inductive Section
  | top
  | check
  | validators
  deriving DecidableEq, Repr

def Section.flags : Section → List Flag
  | top => [.verbose, .logJson, .help, .version]
  | check => [.push, .config, .scenario, .json, .verbose, .logJson, .help]
  | validators => [.config, .scenario, .verbose, .logJson, .help]

inductive Stop
  | usage
  | help (about : Section) (brief : Bool)
  | version
  deriving DecidableEq, Repr

/-- The flags read so far, each at most once, with the values of those that take one. -/
structure Given where
  flags : List Flag
  push : Option String
  config : Option String
  scenario : Scenario
  deriving DecidableEq, Repr

def Given.start : Given := ⟨[], none, none, .receive⟩

def Given.add (here : Section) (brief : Bool) (given : Given) (flag : Flag) : Except Stop Given :=
  if flag = .help then .error (.help here brief)
  else if flag = .version then .error .version
  else if given.flags.contains flag then .error .usage
  else .ok { given with flags := flag :: given.flags }

/-- Takes a flag with its value. Paths must not be empty. -/
def Given.addValue (given : Given) (flag : Flag) (value : String) : Except Stop Given :=
  if given.flags.contains flag then .error .usage
  else
    let given := { given with flags := flag :: given.flags }
    match flag with
    | .push => if value.isEmpty then .error .usage else .ok { given with push := some value }
    | .config => if value.isEmpty then .error .usage else .ok { given with config := some value }
    | .scenario =>
      match Scenario.named.lookup value with
      | some scenario => .ok { given with scenario }
      | none => .error .usage
    | _ => .error .usage

/-- Whether an argument is a value or a command, and not a flag. A single minus is a value. -/
def isPlain (argument : String) : Bool :=
  argument.toList.head? != some '-' || argument == "-"

inductive Step
  | done (given : Given)
  | wants (given : Given) (flag : Flag)
  deriving DecidableEq, Repr

def longStep (here : Section) (given : Given) (argument : List Char) : Except Stop Step :=
  let (name, value?) := match splitFirst? '=' argument with
    | some (name, value) => (name, some value)
    | none => (argument, none)
  match here.flags.find? (·.long == String.ofList name) with
  | none => .error .usage
  | some flag =>
    if flag.takesValue then
      match value? with
      | some value => (given.addValue flag (String.ofList value)).map .done
      | none => .ok (.wants given flag)
    else if value?.isSome then .error .usage
    else (given.add here false flag).map .done

/-- Reads a group of one-letter flags; one that takes a value takes the rest of the group. -/
def shortStep (here : Section) (given : Given) : List Char → Except Stop Step
  | [] => .ok (.done given)
  | letter :: rest =>
    match here.flags.find? (·.short? == some letter) with
    | none => .error .usage
    | some flag =>
      if flag.takesValue then
        match rest with
        | [] => .ok (.wants given flag)
        | '=' :: value => (given.addValue flag (String.ofList value)).map .done
        | value => (given.addValue flag (String.ofList value)).map .done
      else
        match given.add here true flag with
        | .error stop => .error stop
        | .ok given => shortStep here given rest

def flagStep (here : Section) (given : Given) (argument : String) : Except Stop Step :=
  match argument.toList with
  | '-' :: '-' :: name => longStep here given name
  | _ :: letters => shortStep here given letters
  | [] => .error .usage

/-- Reads flags up to the first argument that is none, and returns it with what follows it. -/
def readFlags (here : Section) (given : Given) :
    List String → Except Stop (Given × Option (String × List String))
  | [] => .ok (given, none)
  | argument :: rest =>
    if argument = "--" then if rest.isEmpty then .ok (given, none) else .error .usage
    else if isPlain argument then .ok (given, some (argument, rest))
    else
      match flagStep here given argument with
      | .error stop => .error stop
      | .ok (.done given) => readFlags here given rest
      | .ok (.wants given flag) =>
        match rest with
        | [] => .error .usage
        | value :: rest =>
          if isPlain value then
            match given.addValue flag value with
            | .error stop => .error stop
            | .ok given => readFlags here given rest
          else .error .usage

inductive Command
  | check (push : String) (config : Option String) (scenario : Scenario) (json : Bool)
  | validators (config : Option String) (scenario : Scenario)
  deriving DecidableEq, Repr

def Command.files : Command → List String
  | check push config _ _ => config.toList ++ [push]
  | validators config _ => config.toList

def readCommand (here : Section) (arguments : List String) : Except Stop Given :=
  match readFlags here .start arguments with
  | .error stop => .error stop
  | .ok (given, none) => .ok given
  | .ok (_, some _) => .error .usage

def helpTopic? : List String → Option Section
  | [] => some .top
  | ["help"] => some .top
  | ["check"] => some .check
  | ["validators"] => some .validators
  | _ => none

def parse (arguments : List String) : Except Stop Command := do
  let (_, command?) ← readFlags .top .start arguments
  match command? with
  | some ("check", rest) =>
    let given ← readCommand .check rest
    match given.push with
    | some push => return .check push given.config given.scenario (given.flags.contains .json)
    | none => throw .usage
  | some ("validators", rest) =>
    let given ← readCommand .validators rest
    return .validators given.config given.scenario
  | some ("help", rest) =>
    match helpTopic? rest with
    | some about => throw (.help about false)
    | none => throw .usage
  | _ => throw .usage

def versionText : String := "0.3.1"

def topHelp : String :=
  "Commit validation pipeline dry runs\n\nUsage: pushgate [OPTIONS] <COMMAND>\n\nCommands:\n" ++
  "  check       Validate a described push\n" ++
  "  validators  List the validators of an assembled chain\n" ++
  "  help        Print this message or the help of the given subcommand(s)\n\nOptions:\n" ++
  "  -v, --verbose   Enable verbose output\n" ++
  "      --log-json  Emit JSON-formatted log lines\n" ++
  "  -h, --help      Print help\n" ++
  "  -V, --version   Print version\n"

structure HelpEntry where
  form : String
  description : String
  brief : String
  full : String
  deriving DecidableEq, Repr

def helpEntry : Flag → HelpEntry
  | .push => ⟨"      --push <PUSH>", "Path to the push description (JSON)", "", ""⟩
  | .config => ⟨"  -c, --config <CONFIG>",
      "Server settings (TOML); defaults come from PUSHGATE_* variables", "", ""⟩
  | .scenario => ⟨"  -s, --scenario <SCENARIO>", "Which validator chain to ",
      " [default: receive] [possible values: receive, gerrit, merged]",
      "\n\n          Possible values:\n          - receive: Commits pushed by a client\n" ++
      "          - gerrit:  Commits created by the server\n" ++
      "          - merged:  Reviews of already merged commits\n          \n" ++
      "          [default: receive]"⟩
  | .json => ⟨"      --json", "Print the outcome as JSON", "", ""⟩
  | .verbose => ⟨"  -v, --verbose", "Enable verbose output", "", ""⟩
  | .logJson => ⟨"      --log-json", "Emit JSON-formatted log lines", "", ""⟩
  | .help => ⟨"  -h, --help", "Print help ", "(see more with '--help')", "(see a summary with '-h')"⟩
  | .version => ⟨"  -V, --version", "Print version", "", ""⟩

def commandHelp (title usage verb : String) (flags : List Flag) (brief : Bool) : String :=
  let entries := flags.map fun flag =>
    if flag = .scenario then
      { helpEntry flag with description := (helpEntry flag).description ++ verb }
    else helpEntry flag
  title ++ "\n\nUsage: pushgate " ++ usage ++ "\n\nOptions:\n" ++
    if brief then
      String.join (entries.map fun entry =>
        Report.padded 27 entry.form ++ entry.description ++ entry.brief ++ "\n")
    else
      String.intercalate "\n" (entries.map fun entry =>
        entry.form ++ "\n          " ++ entry.description ++ entry.full ++ "\n")

def helpText (about : Section) (brief : Bool) : String :=
  match about with
  | .top => topHelp
  | .check => commandHelp "Validate a described push" "check [OPTIONS] --push <PUSH>" "run"
      [.push, .verbose, .config, .logJson, .scenario, .json, .help] brief
  | .validators =>
      commandHelp "List the validators of an assembled chain" "validators [OPTIONS]" "list"
        [.verbose, .config, .logJson, .scenario, .help] brief

structure Answer where
  exit : UInt32
  stdout : String
  stderr : String
  deriving DecidableEq, Repr

inductive Failure
  | config (path : String)
  | environment (cause : Settings.Invalid)
  | unreadablePush (path : String)
  | malformedPush (path : String)
  | dryRun (failure : DryRun.Failure)
  | rejected (commit : ObjectId) (reason : String)

namespace Failure

def messages : Failure → String × Option String
  | config path => ("Failed to load config " ++ quotedPath path, none)
  | environment cause => ("Invalid PUSHGATE_* environment", some cause.message)
  | unreadablePush path => ("Failed to read push description " ++ quotedPath path, none)
  | malformedPush path => ("Failed to parse push description " ++ quotedPath path, none)
  | dryRun (.invalidRevision revision) =>
    ("Invalid project config revision " ++ revision, some (ObjectId.invalidMessage revision))
  | dryRun (.assembly failure) => ("Failed to assemble validators", some failure.message)
  | rejected commit reason => ("Commit " ++ commit.name ++ " rejected: " ++ reason, none)

def indented (text : String) : String :=
  "    " ++ String.ofList (text.toList.flatMap fun c =>
    if c = '\n' then '\n' :: List.replicate 4 ' ' else [c])

def text (failure : Failure) : String :=
  let (message, cause?) := failure.messages
  "Error: " ++ message ++
    (match cause? with
     | none => "\n"
     | some cause => "\n\nCaused by:\n" ++ indented cause ++ "\n")

end Failure

structure Surroundings where
  host : String
  variable_ : String → Option String
  /-- The content of a file once others have been read: a stream gives its content only once. -/
  file? : (earlier : List String) → (path : String) → Option ByteArray

def loadSettings (system : Surroundings) : Option String → Except Failure Settings
  | none => (Settings.ofVariables system.variable_).mapError Failure.environment
  | some path =>
    match system.file? [] path with
    | none => .error (.config path)
    | some content => (Settings.ofFile content).mapError fun _ => Failure.config path

def loadPush (system : Surroundings) (earlier : List String) (path : String) :
    Except Failure Push :=
  match (system.file? earlier path).bind String.fromUTF8? with
  | none => .error (.unreadablePush path)
  | some document =>
    match Push.parse? document with
    | none => .error (.malformedPush path)
    | some push => .ok push

def execute (system : Surroundings) : Command → String × Option Failure
  | .validators config scenario =>
    match loadSettings system config with
    | .error failure => ("", some failure)
    | .ok settings => (listing (sampleChain settings scenario), none)
  | .check push config scenario json =>
    let report := do
      let settings ← loadSettings system config
      let push ← loadPush system config.toList push
      (DryRun.check system.host settings scenario push).mapError Failure.dryRun
    match report with
    | .error failure => ("", some failure)
    | .ok report =>
      (if json then report.toJson.pretty ++ "\n" else report.toText,
        match report.verdict with
        | .ok _ => none
        | .error rejection => some (.rejected report.commit rejection.reason))

def run (system : Surroundings) (arguments : List String) : Answer :=
  match parse arguments with
  | .error .version => ⟨0, "pushgate " ++ versionText ++ "\n", ""⟩
  | .error (.help about brief) => ⟨0, helpText about brief, ""⟩
  | .error .usage => ⟨2, "", topHelp⟩
  | .ok command =>
    match execute system command with
    | (output, none) => ⟨0, output, ""⟩
    | (output, some failure) => ⟨1, output, failure.text⟩

end CommitAdmission.CommandLine
