import CommitAdmission.Trace
import CommitAdmission.Url.Host

namespace CommitAdmission

/-- The host of the web interface, or else the name of the system. A URL that is configured but
invalid is worth a warning. -/
def serverHost (system : String) (webUrl : Option String) : String × List TraceEvent :=
  match webUrl with
  | none => (system, [])
  | some url =>
    match Url.readHost url with
    | .host host => (String.ofList host.write, [])
    | .absent => (system, [])
    | .invalid =>
      (system,
        [.ofMessage .warn [] "configured canonical web URL is invalid, using system default"])

end CommitAdmission
