import CardLink.Duration
import CardLink.Envelope.Wire

/-!
# Failures

One type for each concern: sending an envelope, a remote call, a virtual reader, and the dispatch of
an incoming envelope. Each failure has a text (`message`) and the texts of its causes, outermost
first (`causes`). A reader failure can travel to another node (`ReaderError.toRemote`).
-/

namespace CardLink

open Json

/-- Why an envelope could not be sent. -/
inductive TransportError where
  | disconnected
  | unknownNode (node : String)
  | lost
  | codec (source : EnvelopeError)
deriving DecidableEq, Repr

/-- Why a remote call has no result. -/
inductive CallError where
  /-- no response came in time -/
  | timeout (action id : String) (after : Duration)
  /-- the response describes a failure -/
  | remote (x : RemoteException)
  /-- the request was not sent -/
  | transport (source : TransportError)
  /-- a call with this id is pending -/
  | duplicateId (id : String)
  /-- as many calls as allowed are under way -/
  | tooManyPending (limit : Nat)
  /-- the record of the call went away before a response -/
  | cancelled (id : String)
deriving DecidableEq, Repr

/-- Why an operation on a reader failed. -/
inductive ReaderError where
  | communication (reader : String) (source : CallError)
  | duplicateReader (native slave : String)
  | notFound (name : String)
  | serialization (fault : Fault)
  /-- the response reads well but does not fit the request -/
  | unexpectedResponse (reader detail : String)
deriving DecidableEq, Repr

/-- Why an incoming envelope was not dispatched. -/
inductive DispatchError where
  | decode (source : EnvelopeError)
  | noHandler (action : String)
  | missingId
  | unknownId (id : String)
  | handler (source : ReaderError)
  /-- the reply to a request could not be sent -/
  | reply (source : TransportError)
deriving DecidableEq, Repr

namespace TransportError

def message : TransportError → String
  | .disconnected => "Transport disconnected"
  | .unknownNode node => "Unknown node: " ++ node
  | .lost => "Envelope lost in transit"
  | .codec source => "Codec error: " ++ source.message

def causes : TransportError → List String
  | .codec source => source.message :: source.causes
  | _ => []

end TransportError

namespace CallError

def message : CallError → String
  | .timeout action id after =>
    "no response to " ++ action ++ " (id " ++ id ++ ") within " ++ after.describe
  | .remote x => "remote error: " ++ x.describe
  | .transport source => "transport error: " ++ source.message
  | .duplicateId id => "correlation id " ++ id ++ " is already pending"
  | .tooManyPending limit => "too many pending calls (limit " ++ toString limit ++ ")"
  | .cancelled id => "call " ++ id ++ " cancelled before a response arrived"

def causes : CallError → List String
  | .transport source => source.message :: source.causes
  | _ => []

def isTimeout : CallError → Bool
  | .timeout _ _ _ => true
  | _ => false

end CallError

namespace ReaderError

/-- The name of the kind of failure on the wire. -/
def kind : ReaderError → String
  | .communication _ _ => "ReaderCommunication"
  | .duplicateReader _ _ => "DuplicateReader"
  | .notFound _ => "ReaderNotFound"
  | .serialization _ => "Serialization"
  | .unexpectedResponse _ _ => "UnexpectedResponse"

def message : ReaderError → String
  | .communication reader source =>
    "communication with reader " ++ reader ++ " failed: " ++ source.message
  | .duplicateReader reader slave =>
    "virtual reader already exists for " ++ reader ++ " on " ++ slave
  | .notFound name => "reader not found: " ++ name
  | .serialization fault => "serialization failed: " ++ fault.message
  | .unexpectedResponse reader detail => "unexpected response from " ++ reader ++ ": " ++ detail

def causes : ReaderError → List String
  | .communication _ source => source.message :: source.causes
  | .serialization fault => [fault.message]
  | _ => []

def isNotFound : ReaderError → Bool
  | .notFound _ => true
  | _ => false

/-- The failure as it travels to another node. -/
def toRemote (e : ReaderError) : RemoteException := .ofTexts e.kind (e.message :: e.causes)

end ReaderError

namespace DispatchError

def message : DispatchError → String
  | .decode source => "decode error: " ++ source.message
  | .noHandler action => "no handler for action " ++ Text.quoted action
  | .missingId => "response without correlation id"
  | .unknownId id => "no pending call for correlation id " ++ id
  | .handler source => "handler error: " ++ source.message
  | .reply source => "reply failed: " ++ source.message

def causes : DispatchError → List String
  | .decode source => source.message :: source.causes
  | .handler source => source.message :: source.causes
  | .reply source => source.message :: source.causes
  | _ => []

end DispatchError

end CardLink
