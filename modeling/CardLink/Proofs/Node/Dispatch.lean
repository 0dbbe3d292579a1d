import CardLink.Node.Dispatch
import CardLink.Proofs.Plugin.Traffic

/-!
# What becomes of an envelope

A request that announces or withdraws a reader is a handshake. It is refused, and then nothing
changes, or the reader of its pair is added or taken out. All other requests leave the registry, the
readers and the sessions alone.

* `Plugin.Refused`: why a handshake is refused.
* `Plugin.Handling`, `Plugin.handling`: the five things that may become of a request, each in full.
* `Plugin.handle_of_refused`: a reason to refuse a handshake is decisive.
* `Node.dispatch_of_response`, `dispatch_of_silent`, …: where the dispatch stands after that.
* `Node.plugin_dispatch_of_request`: what the dispatch of a request makes of the plugin.
-/

namespace CardLink

namespace Envelope

/-- The name of the reader of the pair that a request is about. -/
def readerName (e : Envelope) : String := ReaderName.make e.route.nativeReader e.route.requester

/-- A request to connect the reader of a pair. -/
def Connects (e : Envelope) : Prop :=
  e.isRequest = true ∧ Method.ofName? e.action = some .readerConnect

/-- A request to disconnect the reader of a pair. -/
def Disconnects (e : Envelope) : Prop :=
  e.isRequest = true ∧ Method.ofName? e.action = some .readerDisconnect

/-- A request that announces a reader or withdraws one. -/
def IsHandshake (e : Envelope) : Prop := e.Connects ∨ e.Disconnects

end Envelope

namespace Plugin

/-! ## 1. Handlers -/

/-- **Why a handshake is refused**: its body does not read, or the reader of its pair is registered
already, or not registered. -/
inductive Refused (p : Plugin) (e : Envelope) : ReaderError → Prop where
  | unreadable (fault : Json.Fault) (hm : Method.ofName? e.action = some .readerConnect)
      (hbody : ConnectRequest.ofBody e.body = .error fault) : Refused p e (.serialization fault)
  | taken (request : ConnectRequest) (k : Nat)
      (hm : Method.ofName? e.action = some .readerConnect)
      (hbody : ConnectRequest.ofBody e.body = .ok request)
      (hk : p.registry.get? e.readerName = some k) :
      Refused p e (.duplicateReader e.route.nativeReader e.route.requester)
  | missing (hm : Method.ofName? e.action = some .readerDisconnect)
      (hfree : p.registry.get? e.readerName = none) : Refused p e (.notFound e.readerName)

/-- The plugin after the reader of a pair was connected, and the observers were told. -/
def afterConnect (p : Plugin) (e : Envelope) (request : ConnectRequest) : Plugin :=
  (p.enroll e.route.nativeReader e.route.requester request.transmissionMode request.options).raise
    (.single p.name e.readerName .readerConnected)

/-- The plugin after the reader of a pair was disconnected, and the observers were told. -/
def afterDisconnect (p : Plugin) (e : Envelope) (k : Nat) : Plugin :=
  (p.unregister k e.readerName).raise (.single p.name e.readerName .readerDisconnected)

/-- **What becomes of a request.** -/
inductive Handling (p : Plugin) (e : Envelope) : Option (Handled × Plugin) → Prop where
  | unknown (hconnect : Method.ofName? e.action ≠ some .readerConnect)
      (hdisconnect : Method.ofName? e.action ≠ some .readerDisconnect) : Handling p e none
  | notice (verdict : Except ReaderError Delivery) (q : Plugin)
      (hm : Method.ofName? e.action = some .readerEvent ∨
        Method.ofName? e.action = some .pluginEvent)
      (hreaders : q.readers = p.readers) (hregistry : q.registry = p.registry)
      (hsessions : q.sessions = p.sessions) : Handling p e (some (⟨verdict, none⟩, q))
  | refused (reason : ReaderError) (h : Refused p e reason) :
      Handling p e (some (refusal e reason, p))
  | connected (request : ConnectRequest) (hm : Method.ofName? e.action = some .readerConnect)
      (hbody : ConnectRequest.ofBody e.body = .ok request)
      (hfree : p.registry.get? e.readerName = none) :
      Handling p e (some (⟨.ok (.readerConnected e.readerName),
        e.id.map (welcome e (p.nextSession e.route.nativeReader e.route.requester))⟩,
        p.afterConnect e request))
  | disconnected (k : Nat) (hm : Method.ofName? e.action = some .readerDisconnect)
      (hk : p.registry.get? e.readerName = some k) :
      Handling p e (some (⟨.ok (.readerDisconnected e.readerName),
        e.id.map fun id => .noResponse (some id)⟩, p.afterDisconnect e k))

section Handling

variable (p : Plugin) (e : Envelope)

theorem handling_connect (hm : Method.ofName? e.action = some .readerConnect) :
    Handling p e (some (p.handleConnect e)) := by
  unfold handleConnect
  cases hbody : ConnectRequest.ofBody e.body with
  | error fault => exact .refused _ (.unreadable fault hm hbody)
  | ok request =>
    rcases create_cases p e.route.nativeReader e.route.requester request.transmissionMode
        request.options with ⟨k, hk, heq⟩ | ⟨hfree, heq⟩
    · simp only [heq]
      exact .refused _ (.taken request k hm hbody hk)
    · simp only [heq]
      exact .connected request hm hbody hfree

theorem handling_disconnect (hm : Method.ofName? e.action = some .readerDisconnect) :
    Handling p e (some (p.handleDisconnect e)) := by
  unfold handleDisconnect
  rcases remove_cases p e.route.nativeReader e.route.requester with ⟨hfree, heq⟩ | ⟨k, hk, heq⟩
  · simp only [heq]
    exact .refused _ (.missing hm hfree)
  · simp only [heq]
    exact .disconnected k hm hk

theorem handling_readerEvent (hm : Method.ofName? e.action = some .readerEvent) :
    Handling p e (some (p.handleReaderEvent e)) := by
  unfold handleReaderEvent
  cases ReaderEvent.decoder.ofText e.body with
  | error fault => exact .notice _ p (.inl hm) rfl rfl rfl
  | ok event =>
    cases p.findRemote e.route.nativeReader e.route.requester with
    | error reason => exact .notice _ p (.inl hm) rfl rfl rfl
    | ok k => exact .notice _ _ (.inl hm) rfl rfl rfl

theorem handling_pluginEvent (hm : Method.ofName? e.action = some .pluginEvent) :
    Handling p e (some (p.handlePluginEvent e)) := by
  unfold handlePluginEvent
  cases PluginEvent.decoder.ofText e.body with
  | error fault => exact .notice _ p (.inr hm) rfl rfl rfl
  | ok event => exact .notice _ _ (.inr hm) rfl rfl rfl

theorem handling : Handling p e (p.handle e) := by
  unfold handle
  split
  · rename_i hm
    exact p.handling_readerEvent e hm
  · rename_i hm
    exact p.handling_pluginEvent e hm
  · rename_i hm
    exact p.handling_connect e hm
  · rename_i hm
    exact p.handling_disconnect e hm
  · rename_i hconnect hdisconnect
    exact .unknown hconnect hdisconnect

/-- What stands in the way of a handshake is what it is refused for. -/
theorem handle_of_refused {reason : ReaderError} (h : Refused p e reason) :
    p.handle e = some (refusal e reason, p) := by
  cases h with
  | unreadable fault hm hbody => simp only [handle, hm, handleConnect, hbody]
  | taken request k hm hbody hk =>
    rcases create_cases p e.route.nativeReader e.route.requester request.transmissionMode
        request.options with ⟨k', -, heq⟩ | ⟨hfree, -⟩
    · simp only [handle, hm, handleConnect, hbody, heq]
    · rw [Envelope.readerName, hfree] at hk
      cases hk
  | missing hm hfree =>
    rcases remove_cases p e.route.nativeReader e.route.requester with ⟨-, heq⟩ | ⟨k, hk, -⟩
    · simp only [handle, hm, handleDisconnect, heq]
      rfl
    · rw [Envelope.readerName, hk] at hfree
      cases hfree

end Handling

end Plugin

namespace Node

/-! ## 2. Where a dispatch stands -/

/-- The envelope was counted. -/
def received (n : Node) : Node := { n with stats := n.stats.receive }

section Dispatch

variable {n : Node} {e : Envelope} {p : Plugin} {verdict : Except ReaderError Delivery}
  {reply : Envelope}

theorem dispatch_of_response (he : e.isRequest = false) :
    n.dispatch e = (.ended (n.received.resolve e).1, (n.received.resolve e).2) := by
  simp [dispatch, he, received]

theorem dispatch_of_unknown (he : e.isRequest = true) (h : n.plugin.handle e = none) :
    n.dispatch e = (.ended (.error (.noHandler e.action)),
      { n with stats := n.stats.receive.leaveUnhandled }) := by
  simp [dispatch, he, h]

/-- A request that is not to be answered is over. -/
theorem dispatch_of_silent (he : e.isRequest = true)
    (h : n.plugin.handle e = some (⟨verdict, none⟩, p)) :
    n.dispatch e = (.ended ((n.received.withPlugin p).close (result verdict)).1,
      ((n.received.withPlugin p).close (result verdict)).2) := by
  simp [dispatch, he, h, received]

/-- A reply sets out. -/
theorem dispatch_of_replied (he : e.isRequest = true)
    (h : n.plugin.handle e = some (⟨verdict, some reply⟩, p)) :
    n.dispatch e =
      (.replying ⟨e.route.requester, reply, verdict⟩, n.received.withPlugin p) := by
  simp [dispatch, he, h, received]

@[simp] theorem plugin_close (r : Except DispatchError Delivery) (n : Node) :
    (n.close r).2.plugin = n.plugin := by
  cases r with
  | ok d => rfl
  | error reason => rfl

theorem close_fst (r : Except DispatchError Delivery) (n : Node) : (n.close r).1 = r := by
  cases r with
  | ok d => rfl
  | error reason => rfl

/-- The plugin after a request was dispatched: the one that the handler left. -/
theorem plugin_dispatch_of_request (he : e.isRequest = true) :
    (n.dispatch e).2.plugin = ((n.plugin.handle e).map (·.2)).getD n.plugin := by
  cases h : n.plugin.handle e with
  | none => rw [dispatch_of_unknown he h]; rfl
  | some handled =>
    obtain ⟨⟨verdict, reply⟩, p⟩ := handled
    cases reply with
    | none => rw [dispatch_of_silent he h, plugin_close]; rfl
    | some reply => rw [dispatch_of_replied he h]; rfl

end Dispatch

end Node

end CardLink
