import CardLink.Card.Event
import CardLink.Method
import CardLink.Node.Basic

/-!
# Dispatch of incoming envelopes

A response resolves the call that waits for it. A request announces a reader, withdraws one, or
carries an event of a reader or of the slave's plugin; all else is left unhandled. An announcement or
a withdrawal that has an id is answered, so its dispatch has two halves: `dispatch` does the work and
yields the reply, and `conclude` ends the dispatch once it is known whether the reply was sent.
Events from a slave name its own readers; they are renamed before observers see them.
-/

namespace CardLink

/-- What came of an envelope. -/
inductive Delivery where
  | responseResolved
  | eventDelivered
  | readerConnected (name : String)
  | readerDisconnected (name : String)
deriving DecidableEq, Repr

/-- What a handler did: its verdict, and the reply if there is one. -/
structure Handled where
  verdict : Except ReaderError Delivery
  reply : Option Envelope

/-- A reply on its way, and the verdict that counts once it was sent. -/
structure Reply where
  target : String
  envelope : Envelope
  verdict : Except ReaderError Delivery

/-- Where the dispatch of an envelope stands. -/
inductive Dispatch where
  | ended (result : Except DispatchError Delivery)
  | replying (reply : Reply)

namespace Plugin

/-! ## Handlers of requests -/

/-- An event of a reader, for the reader that is registered for it. -/
def handleReaderEvent (e : Envelope) (p : Plugin) : Handled × Plugin :=
  match ReaderEvent.decoder.ofText e.body with
  | .error fault => (⟨.error (.serialization fault), none⟩, p)
  | .ok event =>
    match p.findRemote e.route.nativeReader e.route.requester with
    | .error reason => (⟨.error reason, none⟩, p)
    | .ok n =>
      let name := ReaderName.make e.route.nativeReader e.route.requester
      (⟨.ok .eventDelivered, none⟩,
        p.raiseReader n { event with readerName := name, pluginName := p.name })

/-- An event of the slave's plugin. -/
def handlePluginEvent (e : Envelope) (p : Plugin) : Handled × Plugin :=
  match PluginEvent.decoder.ofText e.body with
  | .error fault => (⟨.error (.serialization fault), none⟩, p)
  | .ok event =>
    let names := event.readerNames.map fun name => ReaderName.make name e.route.requester
    (⟨.ok .eventDelivered, none⟩,
      p.raise { event with readerNames := names, pluginName := p.name })

/-- The reply to a request that failed, if it wants one. -/
def refusal (e : Envelope) (reason : ReaderError) : Handled :=
  ⟨.error reason, e.id.map fun _ => e.replyException reason.toRemote⟩

/-- The reply to an announcement: it carries the session of the new reader. -/
def welcome (e : Envelope) (session : Session) (id : String) : Envelope :=
  .response e.action (ConnectResponse.mk session.id).toJson.toText
    ⟨some session.id, e.route.nativeReader, ReaderName.make session.native session.slave,
      session.master, e.route.requester⟩ id

/-- Announces a reader. -/
def handleConnect (e : Envelope) (p : Plugin) : Handled × Plugin :=
  match ConnectRequest.ofBody e.body with
  | .error fault => (refusal e (.serialization fault), p)
  | .ok request =>
    match p.create e.route.nativeReader e.route.requester request.transmissionMode
        request.options with
    | .error reason => (refusal e reason, p)
    | .ok (session, p) =>
      (⟨.ok (.readerConnected (ReaderName.make session.native session.slave)),
        e.id.map (welcome e session)⟩, p)

/-- Withdraws a reader. -/
def handleDisconnect (e : Envelope) (p : Plugin) : Handled × Plugin :=
  match p.remove e.route.nativeReader e.route.requester with
  | .error reason => (refusal e reason, p)
  | .ok (_, p) =>
    let name := ReaderName.make e.route.nativeReader e.route.requester
    (⟨.ok (.readerDisconnected name), e.id.map fun id => .noResponse (some id)⟩, p)

/-- Handles a request; absent if nobody handles its action. -/
def handle (e : Envelope) (p : Plugin) : Option (Handled × Plugin) :=
  match Method.ofName? e.action with
  | some .readerEvent => some (p.handleReaderEvent e)
  | some .pluginEvent => some (p.handlePluginEvent e)
  | some .readerConnect => some (p.handleConnect e)
  | some .readerDisconnect => some (p.handleDisconnect e)
  | _ => none

end Plugin

namespace Node

/-! ## Dispatch -/

/-- Gives a response to the call that waits for it. -/
def resolve (e : Envelope) (n : Node) : Except DispatchError Delivery × Node :=
  match e.id with
  | none => (.error .missingId, { n with stats := n.stats.drop })
  | some id =>
    match n.plugin.owner? e.route.virtualReader id with
    | none => (.error (.unknownId id), { n with stats := n.stats.drop })
    | some r =>
      (.ok .responseResolved,
        { n with
          plugin := n.plugin.updateEngine r fun engine => (engine.accept e).2
          stats := n.stats.resolve })

/-- Ends the dispatch of a request. -/
def close (result : Except DispatchError Delivery) (n : Node) :
    Except DispatchError Delivery × Node :=
  match result with
  | .ok d => (.ok d, { n with stats := n.stats.dispatch })
  | .error e => (.error e, { n with stats := n.stats.failHandling })

/-- The result of a verdict by itself. -/
def result (verdict : Except ReaderError Delivery) : Except DispatchError Delivery :=
  match verdict with
  | .ok d => .ok d
  | .error e => .error (.handler e)

/-- Dispatches an envelope, as far as that goes before a reply is sent. -/
def dispatch (e : Envelope) (n : Node) : Dispatch × Node :=
  let n := { n with stats := n.stats.receive }
  if ¬ e.isRequest then
    let (r, n) := n.resolve e
    (.ended r, n)
  else
    match n.plugin.handle e with
    | none => (.ended (.error (.noHandler e.action)), { n with stats := n.stats.leaveUnhandled })
    | some (handled, p) =>
      let n := n.withPlugin p
      match handled.reply with
      | some reply => (.replying ⟨e.route.requester, reply, handled.verdict⟩, n)
      | none =>
        let (r, n) := n.close (result handled.verdict)
        (.ended r, n)

/-- Ends a dispatch after its reply was sent, or failed to be. A refusal stays a refusal, whether it
was sent or not. -/
def conclude (reply : Reply) (sent : Except TransportError Unit) (n : Node) :
    Except DispatchError Delivery × Node :=
  match reply.verdict, sent with
  | .ok _, .error reason => n.close (.error (.reply reason))
  | verdict, _ => n.close (result verdict)

/-- Dispatches a text. -/
def dispatchWire (wire : String) (n : Node) : Dispatch × Node :=
  let n := { n with metrics := n.metrics.recordReceive wire.utf8ByteSize }
  match Envelope.ofWire wire with
  | .ok e => n.dispatch e
  | .error fault =>
    (.ended (.error (.decode fault)), { n with stats := n.stats.receive.failDecoding })

end Node

end CardLink
