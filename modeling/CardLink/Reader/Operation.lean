import CardLink.Card.Handshake
import CardLink.Error
import CardLink.Method

/-!
# Operations on a reader

What an application may ask of a reader, the remote call that carries it, and what the result of the
call means. The result has a place for each request: places that the response leaves out are empty.
-/

namespace CardLink

open Json

/-- What an application asks of a reader. -/
inductive ReaderOperation where
  | transmit (requests : List CardRequest)
  | transmitOne (request : CardRequest)
  | isPresent
  /-- sets the default selection -/
  | select (selection : DefaultSelection)
deriving DecidableEq, Repr

/-- What an application gets. -/
inductive ReaderAnswer where
  | responses (rs : List (Option CardResponse))
  | response (r : Option CardResponse)
  | present (b : Bool)
  | selected
deriving DecidableEq, Repr

namespace ReaderOperation

def method : ReaderOperation → Method
  | .transmit _ => .transmitSet
  | .transmitOne _ => .readerTransmit
  | .isPresent => .isSePresent
  | .select _ => .defaultSelectionRequest

/-- The body of the request. -/
def body : ReaderOperation → String
  | .transmit requests => (Json.list (requests.map CardRequest.toJson)).toText
  | .transmitOne request => request.toJson.toText
  | .isPresent => ""
  | .select selection => selection.toJson.toText

/-- The answer that needs no call. -/
def immediate? : ReaderOperation → Option ReaderAnswer
  | .transmit [] => some (.responses [])
  | _ => none

/-- Fills up with empty places. -/
def pad (n : Nat) (rs : List (Option CardResponse)) : List (Option CardResponse) :=
  rs ++ List.replicate (n - rs.length) none

/-- Reads the body of a response to the operation. -/
def read (reader : String) (op : ReaderOperation) (body : String) :
    Except ReaderError ReaderAnswer :=
  match op with
  | .transmit requests =>
    match CardResponse.listDecoder.ofText body with
    | .error fault => .error (.serialization fault)
    | .ok rs =>
      if requests.length < rs.length then
        .error (.unexpectedResponse reader
          (toString rs.length ++ " responses for " ++ toString requests.length ++ " requests"))
      else .ok (.responses (pad requests.length rs))
  | .transmitOne _ =>
    match CardResponse.decoder.optional.ofText body with
    | .error fault => .error (.serialization fault)
    | .ok r => .ok (.response r)
  | .isPresent =>
    match Decoder.bool.ofText body with
    | .error fault => .error (.serialization fault)
    | .ok b => .ok (.present b)
  | .select _ => .ok .selected

/-- What the result of the call means. -/
def conclude (reader : String) (op : ReaderOperation) :
    Except CallError String → Except ReaderError ReaderAnswer
  | .error source => .error (.communication reader source)
  | .ok body => op.read reader body

theorem length_pad {n : Nat} {rs : List (Option CardResponse)} (h : rs.length ≤ n) :
    (pad n rs).length = n := by
  simp [pad]; omega

end ReaderOperation

end CardLink
