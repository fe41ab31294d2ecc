import CommitAdmission.Project
import CommitAdmission.ServerHost
import CommitAdmission.Text.Decimal

namespace CommitAdmission.InstallHint

open Text

inductive Fault
  | missingWebUrl
  | invalidHostKey (host : String)
  deriving DecidableEq, Repr

def Fault.message : Fault → String
  | missingWebUrl => "canonical web URL is not configured"
  | invalidHostKey host => "invalid SSH host key address: " ++ host

def httpCommand (webUrl : String) : String :=
  "f=\"$(git rev-parse --git-dir)/hooks/commit-msg\"; curl -o \"$f\" " ++ webUrl ++
    "tools/hooks/commit-msg ; chmod +x \"$f\""

def scpCommand (user host : String) (port : Nat) : String :=
  "gitdir=$(git rev-parse --git-dir); scp -p -P " ++ decimalText port ++ " " ++ user ++ "@" ++ host ++
    ":hooks/commit-msg $\x7bgitdir\x7d/hooks/"

/-- The host and the port of a host key. The port follows the last colon and is 22 without one; a
star in front of the colon stands for the host of the server. -/
def sshAddress (system webUrl : String) (key : HostKey) :
    Except Fault (String × Nat × List TraceEvent) :=
  match splitLast? ':' key.host.toList with
  | none => .ok (key.host, 22, [])
  | some (host, port) =>
    match readUnsigned? 0x10000 port with
    | none => .error (.invalidHostKey key.host)
    | some port =>
      if startsWith "*:".toList key.host.toList then
        let (host, events) := serverHost system (some webUrl)
        .ok (host, port, events)
      else .ok (String.ofList host, port, [])

/-- The commands that install the hook. A configured command wins; without SSH hosts there is the
command over HTTP only, and otherwise a command for the first SSH host comes before it. -/
def commands (system : String) (configured : Option String) (ssh : SshInfo)
    (webUrl user : Option String) : Except Fault (String × List TraceEvent) :=
  match configured, webUrl with
  | some command, _ => .ok (command, [])
  | none, none => .error .missingWebUrl
  | none, some webUrl =>
    match ssh.hostKeys with
    | [] => .ok (httpCommand webUrl, [])
    | key :: _ => do
      let (host, port, events) ← sshAddress system webUrl key
      return ("  " ++ scpCommand (user.getD "<USERNAME>") host port ++
        "\n(for OpenSSH >= 9.0 you need to add the flag '-O' to the scp command)\n" ++
        "or, for http(s):\n  " ++ httpCommand webUrl, events)

end CommitAdmission.InstallHint
