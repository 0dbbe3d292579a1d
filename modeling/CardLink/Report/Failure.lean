import CardLink.Config.Basic
import CardLink.Error
import CardLink.Slave.Basic

/-!
# Failures as JSON

Every failure is reported as an object with its kind (`error`) and its text (`message`). A failure
that another one is made of is reported inside as its `source`.
-/

namespace CardLink

/-- The report of a failure of some kind. -/
def failureReport (kind message : String) (more : List (String × Json)) : Json :=
  .object ([("error", .text kind), ("message", .text message)] ++ more)

def Json.Fault.report (f : Json.Fault) : Json := failureReport "Json" f.message []

def EnvelopeError.report (e : EnvelopeError) : Json :=
  let kind := match e with
    | .malformed _ => "Malformed"
    | .missingField _ => "MissingField"
  failureReport kind e.message []

def TransportError.report (e : TransportError) : Json :=
  let kind := match e with
    | .disconnected => "Disconnected"
    | .unknownNode _ => "UnknownNode"
    | .lost => "Lost"
    | .codec _ => "Codec"
  failureReport kind e.message []

/-- A failed call also says whether it is a timeout, and gives a remote exception in full. -/
def CallError.report (e : CallError) : Json :=
  let (kind, more) := match e with
    | .timeout _ _ _ => ("Timeout", [])
    | .remote x => ("Remote", [("remote", x.toJson)])
    | .transport _ => ("Transport", [])
    | .duplicateId _ => ("DuplicateCorrelationId", [])
    | .tooManyPending _ => ("TooManyPending", [])
    | .cancelled _ => ("Cancelled", [])
  failureReport kind e.message (("timeout", .bool e.isTimeout) :: more)

def ReaderError.report (e : ReaderError) : Json :=
  let more := match e with
    | .communication _ source => [("source", source.report)]
    | _ => []
  failureReport e.kind e.message more

def DispatchError.report (e : DispatchError) : Json :=
  let (kind, more) := match e with
    | .decode source => ("Decode", [("source", source.report)])
    | .noHandler _ => ("NoHandler", [])
    | .missingId => ("MissingCorrelationId", [])
    | .unknownId _ => ("UnknownCorrelation", [])
    | .handler source => ("Handler", [("source", source.report)])
    | .reply source => ("Reply", [("source", source.report)])
  failureReport kind e.message more

/-- A text that does not parse is reported without a message. -/
def ConfigError.report (e : ConfigError) : Json :=
  match e with
  | .fileNotFound _ => failureReport "FileNotFound" e.message []
  | .parse => .object [("error", .text "ParseError")]
  | .validation _ => failureReport "ValidationError" e.message []

/-- The report of a failure that only has a text. -/
def describedReport (message : String) : Json := failureReport "Anyhow" message []

def SlaveError.report (e : SlaveError) : Json := describedReport e.describe

end CardLink
