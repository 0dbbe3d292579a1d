import CardLink.Card.Event
import CardLink.Card.Handshake
import CardLink.Config.Basic
import CardLink.Engine
import CardLink.Method
import CardLink.Slave.Card

/-!
# Simulated slaves

A slave has native readers, each with a card in it or none. It announces and withdraws them, sends an
event when a card is put in or taken out, and answers the requests of its master. A silent slave
answers nothing.
-/

namespace CardLink

open Json

/-- A reader of a slave. -/
structure NativeReader where
  /-- the session that the master opened for it -/
  sessionId : Option String
  card : Option SimulatedCard
  selection : Option DefaultSelection
deriving DecidableEq, Repr

/-- Why an action of a slave failed. -/
inductive SlaveError where
  | connecting (native : String) (source : CallError)
  | disconnecting (native : String) (source : CallError)
  /-- the response to an announcement does not read well -/
  | reading (fault : Fault)
  | unknownReader (native : String)
  | sendingEvent (source : TransportError)
deriving DecidableEq, Repr

/-- The text of a failure and of its causes. -/
def SlaveError.describe (e : SlaveError) : String :=
  let texts := match e with
    | .connecting name source => ("connecting " ++ name) :: source.message :: source.causes
    | .disconnecting name source => ("disconnecting " ++ name) :: source.message :: source.causes
    | .reading fault => [fault.message]
    | .unknownReader name => ["unknown native reader " ++ name]
    | .sendingEvent source => "sending reader event" :: source.message :: source.causes
  ": ".intercalate texts

/-- A slave node. -/
structure Slave where
  node : String
  master : String
  /-- for calls to the master -/
  engine : Engine
  readers : Table NativeReader
  /-- milliseconds between a request and its response -/
  delay : Nat
  silent : Bool
  /-- actions of the requests that came in -/
  seen : List String

namespace Slave

/-- How long a call to the master waits, in milliseconds. -/
def patience : Nat := 5000

/-- The name of the plugin in events of a slave. -/
def pluginName : String := "SimulatedPlugin"

def new (node master : String) : Slave :=
  ⟨node, master, .new patience Config.defaultMaxPending, .empty, 0, false, []⟩

def reader? (s : Slave) (native : String) : Option NativeReader := s.readers.get? native

def sessionId? (s : Slave) (native : String) : Option String :=
  (s.reader? native).bind (·.sessionId)

def selection? (s : Slave) (native : String) : Option DefaultSelection :=
  (s.reader? native).bind (·.selection)

/-- The route of what the slave sends about one of its readers. -/
def route (s : Slave) (native : String) : Route :=
  ⟨s.sessionId? native, native, "", s.node, s.master⟩

/-! ## Announcing and withdrawing readers -/

/-- Makes sure there is a reader of this name. -/
def prepare (native : String) (s : Slave) : Slave :=
  if s.readers.contains native then s
  else { s with readers := s.readers.insert native ⟨none, none, none⟩ }

/-- The body of an announcement. -/
def announcement (mode : TransmissionMode) : String := (ConnectRequest.mk mode .empty).toJson.toText

/-- Takes in the result of an announcement, and yields the id of the session. -/
def connected (native : String) (result : Except CallError String) (s : Slave) :
    Except SlaveError String × Slave :=
  match result with
  | .error source => (.error (.connecting native source), s)
  | .ok body =>
    match ConnectResponse.decoder.ofText body with
    | .error fault => (.error (.reading fault), s)
    | .ok response =>
      match s.reader? native with
      | none => (.ok response.sessionId, s)
      | some r =>
        (.ok response.sessionId,
          { s with
            readers := s.readers.insert native { r with sessionId := some response.sessionId } })

/-- Takes in the result of a withdrawal. -/
def disconnected (native : String) (result : Except CallError String) (s : Slave) :
    Except SlaveError Unit × Slave :=
  match result with
  | .error source => (.error (.disconnecting native source), s)
  | .ok _ => (.ok (), { s with readers := s.readers.erase native })

/-! ## Cards -/

/-- The envelope for an event of a reader. -/
def notice (s : Slave) (native : String) (event : ReaderEvent) : Envelope :=
  .notification Method.readerEvent.name event.toJson.toText (s.route native)

/-- Puts a card in a reader. The event to send carries the responses to the default selection. -/
def insertCard (native : String) (card : SimulatedCard) (s : Slave) :
    Except SlaveError (Envelope × Slave) :=
  match s.reader? native with
  | none => .error (.unknownReader native)
  | some r =>
    let responses := r.selection.map fun sel => sel.selectionRequests.map card.process
    let s := { s with readers := s.readers.insert native { r with card := some card } }
    .ok (s.notice native ⟨pluginName, native, .inserted, responses⟩, s)

/-- Takes the card out of a reader. -/
def removeCard (native : String) (s : Slave) : Except SlaveError (Envelope × Slave) :=
  match s.reader? native with
  | none => .error (.unknownReader native)
  | some r =>
    let s := { s with readers := s.readers.insert native { r with card := none } }
    .ok (s.notice native (.plain pluginName native .removed), s)

/-! ## Answering requests -/

/-- A failure without causes, as it travels to the master. -/
def failure (kind message : String) : RemoteException := ⟨kind, message, []⟩

/-- The outcome of a request on a reader: the body of the response and the reader afterwards. Some
methods are not served by a slave. -/
def serve (r : NativeReader) (method : Method) (body : String) :
    Except RemoteException (String × NativeReader) :=
  let badBody (fault : Fault) := failure "Serialization" fault.message
  match method with
  | .transmitSet =>
    match CardRequest.decoder.list.ofText body with
    | .error fault => .error (badBody fault)
    | .ok requests =>
      let responses := requests.map fun q => r.card.bind fun card => card.process q
      .ok ((CardResponse.listToJson responses).toText, r)
  | .readerTransmit =>
    match CardRequest.decoder.ofText body with
    | .error fault => .error (badBody fault)
    | .ok request =>
      let response := r.card.bind fun card => card.process request
      .ok ((Json.ofOption CardResponse.toJson response).toText, r)
  | .isSePresent => .ok ((Json.bool r.card.isSome).toText, r)
  | .defaultSelectionRequest =>
    match DefaultSelection.decoder.ofText body with
    | .error fault => .error (badBody fault)
    | .ok selection => .ok ("", { r with selection := some selection })
  | other => .error (failure "UnsupportedAction" (other.name ++ " is not served by a slave"))

/-- The response to a request. -/
def answer (e : Envelope) (s : Slave) : Envelope × Slave :=
  let name := e.route.nativeReader
  match Method.ofName? e.action with
  | none => (e.replyException (failure "UnsupportedAction" (Method.unknownText e.action)), s)
  | some method =>
    match s.reader? name with
    | none => (e.replyException (failure "ReaderNotFound" ("no native reader " ++ name)), s)
    | some r =>
      match serve r method e.body with
      | .error x => (e.replyException x, s)
      | .ok (body, r) => (e.reply body, { s with readers := s.readers.insert name r })

/-- Takes in an envelope; the response to send, if there is one, is returned. -/
def receive (e : Envelope) (s : Slave) : Option Envelope × Slave :=
  if ¬ e.isRequest then (none, { s with engine := (s.engine.accept e).2 })
  else
    let s := { s with seen := s.seen ++ [e.action] }
    if s.silent || e.isNotification then (none, s)
    else
      let (reply, s) := s.answer e
      (some reply, s)

end Slave

end CardLink
