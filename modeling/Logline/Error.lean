/-!
What can go wrong while a record is read, a configuration is loaded or a line is delivered.
-/
namespace Logline

inductive Error where
  | urlTooLong (length max : Nat)
  | invalidUrl (url : String)
  | unsupportedScheme (scheme : String)
  | send
  | httpClient
  | output
  | unknownLevel (level : String)
  | invalidRecord (reason : String)
  | configSyntax (origin : String)
  | configValue (field reason : String)
  | io (path : String)
  deriving DecidableEq, Repr

namespace Error

/-- Text shown to a person. -/
def message : Error → String
  | .urlTooLong _ max => s!"URL length is longer than {max}"
  | .invalidUrl url => s!"Invalid URL: {url}"
  | .unsupportedScheme scheme => s!"Unsupported URL scheme: {scheme}"
  | .send => "Failed to send beacon"
  | .httpClient => "Cannot create HTTP client"
  | .output => "Failed to write record"
  | .unknownLevel level => s!"Unknown level: {level}"
  | .invalidRecord reason => s!"Invalid record: {reason}"
  | .configSyntax origin => s!"Cannot parse config: {origin}"
  | .configValue field reason => s!"Invalid {field}: {reason}"
  | .io path => s!"IO error: {path}"

/-- Whether a failure of another part lies behind the error. -/
def hasCause : Error → Bool
  | .invalidUrl _ | .send | .httpClient | .output | .configSyntax _ | .io _ => true
  | _ => false

end Error

end Logline
