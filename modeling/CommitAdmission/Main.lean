import CommitAdmission.CommandLine

namespace CommitAdmission.CommandLine

def variableNames : List String :=
  ["PUSHGATE_WEB_URL", "PUSHGATE_HOOK_COMMAND", "PUSHGATE_MAX_FILES", "PUSHGATE_SERVER_NAME",
   "PUSHGATE_SERVER_EMAIL"]

def contentAmong (contents : List (String × Option ByteArray)) (earlier : List String)
    (path : String) : Option ByteArray :=
  ((contents.drop earlier.length).lookup path).join

def readFile? (path : String) : IO (Option ByteArray) := do
  try return some (← IO.FS.readBinFile path) catch _ => return none

def hostName : IO String := do
  try return (← IO.FS.readFile "/etc/hostname").trimAscii.toString catch _ => return "localhost"

def surroundings (arguments : List String) : IO Surroundings := do
  let paths := match parse arguments with
    | .ok command => command.files
    | .error _ => []
  let environment ← variableNames.mapM fun name => return (name, ← IO.getEnv name)
  let contents ← paths.mapM fun path => return (path, ← readFile? path)
  return {
    host := ← hostName
    variable_ := fun name => (environment.lookup name).join
    file? := contentAmong contents }

end CommitAdmission.CommandLine

open CommitAdmission in
def main (arguments : List String) : IO UInt32 := do
  let answer := CommandLine.run (← CommandLine.surroundings arguments) arguments
  IO.print answer.stdout
  IO.eprint answer.stderr
  return answer.exit
