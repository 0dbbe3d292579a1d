import CardLink.Network.Basic
import CardLink.Report.Failure

/-!
# Views of states as JSON

What a reader of a report sees of envelopes, counters, readers, nodes, observers and results.
-/

namespace CardLink

/-- A counter of 64 bits. -/
def Json.word (n : UInt64) : Json := .nat n.toNat

def Json.texts (ts : List String) : Json := .list (ts.map .text)

/-! ## Envelopes -/

/-- A wire text reads as this envelope. -/
def Envelope.isReadFrom (e : Envelope) (wire : String) : Bool :=
  match ofWire wire with
  | .ok e' => e' == e
  | .error _ => false

def Envelope.view (e : Envelope) : Json :=
  .object [("action", .text e.action), ("body", .text e.body), ("isRequest", .bool e.isRequest),
    ("sessionId", .ofOption .text e.route.sessionId),
    ("nativeReaderName", .text e.route.nativeReader),
    ("virtualReaderName", .text e.route.virtualReader),
    ("requesterNodeId", .text e.route.requester), ("targetNodeId", .text e.route.target),
    ("id", .ofOption .text e.id), ("isNotification", .bool e.isNotification),
    ("isEmptyResponse", .bool e.isEmptyResponse), ("containsException", .bool e.containsException),
    ("exceptionBody", .ofOption RemoteException.toJson e.exceptionBody?),
    ("exceptionText", .ofOption (fun x => .text x.describe) e.exceptionBody?),
    ("wire", .text e.toWire), ("roundTrip", .bool (e.isReadFrom e.toWire))]

/-- An envelope with the node it was sent to. -/
def sentView (p : String × Envelope) : Json := .object [("to", .text p.1), ("env", p.2.toJson)]

def ApduResponse.view (r : ApduResponse) : Json :=
  .object [("statusWord", .ofOption .nat r.statusWord?), ("data", Json.bytes r.data)]

/-! ## Counters and settings -/

def Metrics.view (m : Metrics) : Json :=
  .object [("envelopesSent", .word m.envelopesSent), ("envelopesReceived", .word m.envelopesReceived),
    ("bytesSent", .word m.bytesSent), ("bytesReceived", .word m.bytesReceived),
    ("sendFailures", .word m.sendFailures), ("callTimeouts", .word m.callTimeouts),
    ("callsCompleted", .word m.callsCompleted)]

def DispatchStats.view (s : DispatchStats) : Json :=
  .object [("received", .word s.received), ("dispatched", .word s.dispatched),
    ("responsesResolved", .word s.responsesResolved), ("dropped", .word s.dropped),
    ("unhandled", .word s.unhandled), ("decodeFailures", .word s.decodeFailures),
    ("handlerErrors", .word s.handlerErrors)]

/-- The members of the view of a configuration. -/
def Config.view (c : Config) : List (String × Json) :=
  [("config", c.toJson), ("rpcTimeoutMs", .nat c.rpcTimeoutMs),
   ("monitorPollMs", .nat c.monitorPollIntervalMs), ("isDefault", .bool (c == Config.default))]

/-! ## Readers and nodes -/

/-- The reader with this number, or `null`. -/
def Plugin.readerView (p : Plugin) (n : Nat) : Json :=
  .ofOption (fun (r : Reader) =>
    .object [("name", .text r.name), ("native", .text r.session.native),
      ("slave", .text r.session.slave), ("plugin", .text r.pluginName),
      ("session", .text r.session.id), ("master", .text r.session.master),
      ("mode", r.mode.toJson), ("options", Settings.toJson r.options),
      ("parameters", Settings.toJson r.parameters),
      ("selection", .ofOption DefaultSelection.toJson r.selection),
      ("observers", .nat (p.readerObservers.observers n).size),
      ("pending", .nat r.engine.pendingCount), ("timeoutMs", .nat r.engine.patience),
      ("monitoring", .bool (p.isMonitoring n)), ("closed", .bool r.closed)]) (p.reader? n)

def Node.view (n : Node) : Json :=
  .object [("nodeId", .text n.config.nodeId), ("plugin", .text n.plugin.name),
    ("rpcTimeoutMs", .nat n.plugin.patience), ("parameters", Settings.toJson n.plugin.parameters),
    ("config", .object n.config.view), ("samePlugin", .bool true)]

/-- What a slave knows of one of its readers. -/
def Slave.view (native : String) (s : Slave) : Json :=
  .object [("nodeId", .text s.node), ("seen", .texts s.seen),
    ("session", .ofOption .text (s.sessionId? native)),
    ("selection", .ofOption DefaultSelection.toJson (s.selection? native))]

/-! ## Events and results -/

def NodeEvent.view : NodeEvent → Json
  | .reader e => e.toJson
  | .plugin e => e.toJson

/-- A note, given the view of events. -/
def Note.view {ε : Type} (f : ε → Json) : Note ε → Json
  | .told name e => .list [.text name, f e]
  | .removed name success => .list [.text name, .text "remove", .bool success]
  | .returned name => .list [.text name, .text "renotify", .text "returned"]
  | .counted name n => .list [.text name, .text "probe", .nat n]

def ReaderAnswer.view : ReaderAnswer → Json
  | .responses rs => CardResponse.listToJson rs
  | .response r => .ofOption CardResponse.toJson r
  | .present b => .bool b
  | .selected => .null

/-- The result of an action that has nothing to say when it goes well. -/
def doneView {ε : Type} (f : ε → Json) : Except ε Unit → Json
  | .ok () => .text "ok"
  | .error e => f e

def Result.view : Result → Json
  | .text (.ok body) => .object [("ok", .text body)]
  | .text (.error e) => e.report
  | .answer (.ok a) => .object [("ok", a.view)]
  | .answer (.error e) => e.report
  | .connected (.ok session) => .object [("session", .text session)]
  | .connected (.error e) => e.report
  | .disconnected r => doneView SlaveError.report r
  | .sent es => .texts (es.map (·.body))

def deliveryView : Except DispatchError Delivery → Json
  | .ok .responseResolved => .text "ResponseResolved"
  | .ok .eventDelivered => .text "EventDelivered"
  | .ok (.readerConnected name) => .object [("ReaderConnected", .text name)]
  | .ok (.readerDisconnected name) => .object [("ReaderDisconnected", .text name)]
  | .error e => e.report

end CardLink
