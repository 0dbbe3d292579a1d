import CardLink.Json.Record
import CardLink.Json.Writer

/-!
# Remote exceptions

The description of a failure that one node sends to another: a kind, a message and the texts of its
causes, outermost first.
-/

namespace CardLink

open Json

/-- A failure as it travels between nodes. -/
structure RemoteException where
  kind : String
  message : String
  stackTrace : List String
deriving DecidableEq, Repr

namespace RemoteException

/-- The key that tells an exception from any other body. -/
def marker : String := "stackTrace"

/-- The exception for a failure with these texts, its own first and then its causes. -/
def ofTexts (kind : String) (texts : List String) : RemoteException :=
  ⟨kind, texts.headD "", texts.tail⟩

/-- The text that is shown for an exception. -/
def describe (x : RemoteException) : String := x.kind ++ ": " ++ x.message

def toJson (x : RemoteException) : Json :=
  .object [("kind", .text x.kind), ("message", .text x.message),
    (marker, .list (x.stackTrace.map .text))]

def fields : List Field :=
  [.needed "kind" Decoder.text, .needed "message" Decoder.text,
   .free marker (Decoder.list Decoder.text)]

def decoder : Decoder RemoteException := fun src o => do
  let es ← Record.entries "RemoteException" fields src o
  let kind ← es.required src "kind" Decoder.text
  let message ← es.required src "message" Decoder.text
  let stackTrace ← es.withDefault src marker [] (Decoder.list Decoder.text)
  .ok ⟨kind, message, stackTrace⟩

/-- The body of an envelope that carries the exception. -/
def toBody (x : RemoteException) : String := Json.toText x.toJson

/-- The body is an object with the key `marker`. -/
def isMarked (body : String) : Bool :=
  match parse? body with
  | some v => (v.get? marker).isSome
  | none => false

/-- The exception in a body, if it is marked as one and reads as one. -/
def ofBody? (body : String) : Option RemoteException :=
  if isMarked body then (decoder.ofText body).toOption else none

end RemoteException

end CardLink
