import CardLink.Network.Action
import CardLink.Proofs.Envelope.Exception
import CardLink.Proofs.Node.Dispatch
import CardLink.Proofs.Plugin.Lifecycle

/-!
# Handshakes are answered

A handshake with an id is answered by one envelope, which goes to the requester under the same id.
It describes a failure if the handshake was refused; otherwise it tells the session of the new
reader, or is the empty acknowledgement. So whoever reads it off the wire knows whether the registry
changed. A handshake without id does the same to the registry, and nobody is answered. Nothing else
that comes in is answered, or changes the registry. Observers are told of a change before the answer
goes out; they only take note of it.

* `Plugin.Added`, `Plugin.TakenOut`: what a handshake does to the readers.
* `Ingress`, `Node.serve`: the dispatch of an envelope or a text from beginning to end.
* `Node.Answer`: what is answered to a handshake, and why; `Node.Answered`: how it travels.
* `Network.take_of_sent`, `Network.take_recorded`: the same dispatch over a link.
* **`Node.handshakes_answered`**: the answers, for every node and whatever comes in.
-/

namespace CardLink

namespace Plugin

/-! ## 1. What a handshake does to the readers -/

/-- **The reader of a pair was added**, for a session of its own. All others are as before. -/
structure Added (p q : Plugin) (e : Envelope) (k : Nat) (r : Reader) : Prop where
  free : p.registry.get? e.readerName = none
  registry : ∀ name, q.registry.get? name =
    if name = e.readerName then some k else p.registry.get? name
  reader : q.reader? k = some r
  session : r.session = p.nextSession e.route.nativeReader e.route.requester
  others : ∀ m r', p.reader? m = some r' → q.reader? m = some r'

/-- **The reader of a pair was taken out.** All other readers are registered as before, and every
reader keeps its session. -/
structure TakenOut (p q : Plugin) (e : Envelope) : Prop where
  taken : ∃ k, p.registry.get? e.readerName = some k
  registry : ∀ name, q.registry.get? name =
    if name = e.readerName then none else p.registry.get? name
  sessions : q.readers.map (·.session) = p.readers.map (·.session)

section Effects

variable {p q : Plugin} {e : Envelope} {k : Nat} {r : Reader}

theorem added_afterConnect (request : ConnectRequest)
    (hfree : p.registry.get? e.readerName = none) :
    Added p (p.afterConnect e request) e p.readers.length
      (p.newcomer e.route.nativeReader e.route.requester request.transmissionMode
        request.options) where
  free := hfree
  registry := get?_enroll p _ _ _ _
  reader := reader?_enroll_new p _ _ _ _
  session := rfl
  others := fun _ _ hr => reader?_enroll_old hr

theorem takenOut_afterDisconnect (hk : p.registry.get? e.readerName = some k) :
    TakenOut p (p.afterDisconnect e k) e where
  taken := ⟨k, hk⟩
  registry := get?_unregister p k e.readerName
  sessions := sessions_unregister p k e.readerName

theorem Added.registered (h : Added p q e k r) : q.registry.get? e.readerName = some k := by
  rw [h.registry, if_pos rfl]

theorem TakenOut.gone (h : TakenOut p q e) : q.registry.get? e.readerName = none := by
  rw [h.registry, if_pos rfl]

theorem Added.registry_ne (h : Added p q e k r) : q.registry ≠ p.registry := by
  intro heq
  have hregistered := h.registered
  rw [heq, h.free] at hregistered
  cases hregistered

theorem TakenOut.registry_ne (h : TakenOut p q e) : q.registry ≠ p.registry := by
  intro heq
  obtain ⟨k, hk⟩ := h.taken
  have hgone := h.gone
  rw [heq, hk] at hgone
  cases hgone

/-- Only handshakes are refused. -/
theorem Refused.isHandshake {reason : ReaderError} (he : e.isRequest = true)
    (h : Refused p e reason) : e.IsHandshake := by
  cases h with
  | unreadable fault hm _ => exact .inl ⟨he, hm⟩
  | taken request k hm _ _ => exact .inl ⟨he, hm⟩
  | missing hm _ => exact .inr ⟨he, hm⟩

theorem isRequest_of_isHandshake (h : e.IsHandshake) : e.isRequest = true := by
  rcases h with ⟨he, -⟩ | ⟨he, -⟩
  · exact he
  · exact he

/-- An id is wanted for the answer alone: what is done does not depend on it. -/
theorem handle_withId (p : Plugin) (e : Envelope) (id : Option String) :
    (p.handle { e with id := id }).map (fun h => (h.1.verdict, h.2)) =
      (p.handle e).map fun h => (h.1.verdict, h.2) := by
  unfold handle
  cases Method.ofName? e.action with
  | none => rfl
  | some m =>
    cases m with
    | readerConnect =>
      dsimp only [handleConnect]
      cases ConnectRequest.ofBody e.body with
      | error fault => rfl
      | ok request =>
        dsimp only
        cases p.create e.route.nativeReader e.route.requester request.transmissionMode
            request.options with
        | error reason => rfl
        | ok created => rfl
    | readerDisconnect =>
      dsimp only [handleDisconnect]
      cases p.remove e.route.nativeReader e.route.requester with
      | error reason => rfl
      | ok removed => rfl
    | _ => rfl

end Effects

end Plugin

/-! ## 2. A dispatch from beginning to end -/

/-- What comes in: an envelope, or a text that is read first. -/
inductive Ingress where
  | envelope (e : Envelope)
  | wire (s : String)

/-- The envelope that comes in, or why a text reads as none. -/
def Ingress.read : Ingress → Except EnvelopeError Envelope
  | .envelope e => .ok e
  | .wire s => Envelope.ofWire s

/-- What a dispatch gives to the sender, with the nodes it goes to. -/
def Dispatch.outgoing : Dispatch → List (String × Envelope)
  | .ended _ => []
  | .replying reply => [(reply.target, reply.envelope)]

/-- What a sender makes of an envelope for a node: it was sent, or why not. -/
abbrev Sender := String → Envelope → Except TransportError Unit

/-- A sender that sends what it is given. -/
def Sender.working : Sender := fun _ _ => .ok ()

/-- What came of a dispatch: what the sender was given, the result, and the node afterwards. -/
structure Served where
  sent : List (String × Envelope)
  result : Except DispatchError Delivery
  node : Node

namespace Node

/-- Dispatches what comes in, as far as that goes before a reply is sent. -/
def take (i : Ingress) (n : Node) : Dispatch × Node :=
  match i with
  | .envelope e => n.dispatch e
  | .wire s => n.dispatchWire s

/-- Ends a dispatch. The reply, if there is one, is left to the sender. -/
def finish (sender : Sender) (d : Dispatch) (n : Node) : Except DispatchError Delivery × Node :=
  match d with
  | .ended result => (result, n)
  | .replying reply => n.conclude reply (sender reply.target reply.envelope)

/-- **The dispatch of what comes in, to its end.** The sender is given the reply if there is one. -/
def serve (sender : Sender) (i : Ingress) (n : Node) : Served :=
  ⟨(n.take i).1.outgoing, ((n.take i).2.finish sender (n.take i).1).1,
    ((n.take i).2.finish sender (n.take i).1).2⟩

end Node

namespace Network

/-- Dispatches what comes in. -/
def take (i : Ingress) (n : Network) : Except DispatchError Delivery × Network :=
  match i with
  | .envelope e => n.dispatch e
  | .wire s => n.dispatchWire s

/-- Sends envelopes one after the other, up to the first that is not sent. -/
def sendEach : List (String × Envelope) → Network → Except TransportError Unit × Network
  | [], n => (.ok (), n)
  | (target, e) :: es, n =>
    match n.send target e with
    | (.error reason, n) => (.error reason, n)
    | (.ok (), n) => sendEach es n

end Network

namespace Node

open Plugin

section Serve

variable {n : Node} {e : Envelope} {i : Ingress} {sender : Sender}

theorem serve_eq {d : Dispatch} {m : Node} (h : n.take i = (d, m)) :
    n.serve sender i = ⟨d.outgoing, (m.finish sender d).1, (m.finish sender d).2⟩ := by
  unfold serve
  rw [h]

/-- What is dispatched is the envelope that comes in; reading it does not touch the plugin. -/
theorem take_of_read (h : i.read = .ok e) :
    ∃ m : Node, m.plugin = n.plugin ∧ n.take i = m.dispatch e := by
  cases i with
  | envelope e' =>
    obtain rfl := Except.ok.inj h
    exact ⟨n, rfl, rfl⟩
  | wire s =>
    have hread : Envelope.ofWire s = .ok e := h
    refine ⟨{ n with metrics := n.metrics.recordReceive s.utf8ByteSize }, rfl, ?_⟩
    simp only [take, dispatchWire, hread]

/-- A text that reads as no envelope is passed over. -/
theorem take_of_unread {fault : EnvelopeError} (h : i.read = .error fault) :
    ∃ m : Node, m.plugin = n.plugin ∧ n.take i = (.ended (.error (.decode fault)), m) := by
  cases i with
  | envelope e => cases h
  | wire s =>
    have hread : Envelope.ofWire s = .error fault := h
    refine ⟨⟨n.config, n.plugin, n.stats.receive.failDecoding,
      n.metrics.recordReceive s.utf8ByteSize⟩, rfl, ?_⟩
    simp only [take, dispatchWire, hread]

theorem conclude_sent (reply : Reply) (n : Node) :
    n.conclude reply (.ok ()) = n.close (result reply.verdict) := by
  unfold conclude
  cases reply.verdict with
  | ok d => rfl
  | error reason => rfl

theorem conclude_refused {reply : Reply} {reason : ReaderError}
    (hverdict : reply.verdict = .error reason) (sent : Except TransportError Unit) (n : Node) :
    (n.conclude reply sent).1 = .error (.handler reason) := by
  unfold conclude
  rw [hverdict]
  exact close_fst _ n

@[simp] theorem plugin_conclude (reply : Reply) (sent : Except TransportError Unit) (n : Node) :
    (n.conclude reply sent).2.plugin = n.plugin := by
  unfold conclude
  split
  · exact plugin_close _ n
  · exact plugin_close _ n

@[simp] theorem plugin_finish (sender : Sender) (d : Dispatch) (n : Node) :
    (n.finish sender d).2.plugin = n.plugin := by
  cases d with
  | ended result => rfl
  | replying reply => exact plugin_conclude reply _ n

/-- The plugin is what it is before anything is sent. -/
theorem plugin_serve (sender : Sender) (i : Ingress) (n : Node) :
    (n.serve sender i).node.plugin = (n.take i).2.plugin :=
  plugin_finish sender _ _

end Serve

/-! ## 3. The answer to a handshake -/

/-- **What is answered to a handshake, and why.** `p` and `q` are the plugin before and after it. -/
inductive Answer (p q : Plugin) (e : Envelope) (id : String) (reply : Envelope) :
    Except DispatchError Delivery → Prop where
  | refused (reason : ReaderError) (why : Refused p e reason) (unchanged : q = p)
      (failure : reply.exceptionBody? = some ⟨reason.kind, reason.message, reason.causes⟩) :
      Answer p q e id reply (.error (.handler reason))
  | connected (k : Nat) (r : Reader) (connects : e.Connects) (added : Added p q e k r)
      (name : reply.route.virtualReader = r.name)
      (session : reply.route.sessionId = some r.session.id)
      (body : ConnectResponse.decoder.ofText reply.body = .ok ⟨r.session.id⟩) :
      Answer p q e id reply (.ok (.readerConnected e.readerName))
  | disconnected (disconnects : e.Disconnects) (removed : TakenOut p q e)
      (acknowledgement : reply = .noResponse (some id)) :
      Answer p q e id reply (.ok (.readerDisconnected e.readerName))

/-- **A handshake was answered**, by a response that comes off the wire as it was sent. -/
structure Answered (p q : Plugin) (e : Envelope) (id : String) (reply : Envelope)
    (result : Except DispatchError Delivery) : Prop where
  isResponse : reply.isRequest = false
  sameId : reply.id = some id
  wire : Envelope.ofWire reply.toWire = .ok reply
  /-- whoever reads the answer knows whether the registry changed -/
  failure_iff : reply.containsException = true ↔ q.registry = p.registry
  answer : Answer p q e id reply result

section Answers

variable {p q : Plugin} {e : Envelope} {id : String}

theorem answered_refused {reason : ReaderError} (hid : e.id = some id)
    (why : Refused p e reason) :
    Answered p p e id (e.replyException reason.toRemote) (.error (.handler reason)) where
  isResponse := rfl
  sameId := hid
  wire := Envelope.ofWire_toWire _
  failure_iff := by
    show RemoteException.isMarked reason.toRemote.toBody = true ↔ _
    simp [RemoteException.isMarked_toBody]
  answer := .refused reason why rfl (RemoteException.ofBody?_toBody reason.toRemote)

theorem answered_connected {request : ConnectRequest} (he : e.Connects)
    (hfree : p.registry.get? e.readerName = none) :
    Answered p (p.afterConnect e request) e id
      (welcome e (p.nextSession e.route.nativeReader e.route.requester) id)
      (.ok (.readerConnected e.readerName)) where
  isResponse := rfl
  sameId := rfl
  wire := Envelope.ofWire_toWire _
  failure_iff := by
    have hunmarked : (welcome e (p.nextSession e.route.nativeReader e.route.requester)
        id).containsException = false := ConnectResponse.isMarked_toText _
    simp [hunmarked, (added_afterConnect request hfree).registry_ne]
  answer := .connected _ _ he (added_afterConnect request hfree) rfl rfl
    (ConnectResponse.ofText_toText _)

theorem answered_disconnected {k : Nat} (he : e.Disconnects)
    (hk : p.registry.get? e.readerName = some k) :
    Answered p (p.afterDisconnect e k) e id (.noResponse (some id))
      (.ok (.readerDisconnected e.readerName)) where
  isResponse := rfl
  sameId := rfl
  wire := Envelope.ofWire_toWire _
  failure_iff := by
    have hunmarked : (Envelope.noResponse (some id)).containsException = false :=
      RemoteException.isMarked_empty
    simp [hunmarked, (takenOut_afterDisconnect hk).registry_ne]
  answer := .disconnected he (takenOut_afterDisconnect hk) rfl

/-- **The handler of a handshake with an id has an answer.** -/
theorem handle_handshake (he : e.IsHandshake) (hid : e.id = some id) :
    ∃ verdict reply q, p.handle e = some (⟨verdict, some reply⟩, q) ∧
      Answered p q e id reply (result verdict) := by
  have hrequest := isRequest_of_isHandshake he
  have hhandling := p.handling e
  generalize hh : p.handle e = handled at hhandling
  cases hhandling with
  | unknown hconnect hdisconnect =>
    rcases he with ⟨-, hm⟩ | ⟨-, hm⟩
    · exact absurd hm hconnect
    · exact absurd hm hdisconnect
  | notice verdict q hm _ _ _ =>
    rcases he with ⟨-, hm'⟩ | ⟨-, hm'⟩
    · simp [hm'] at hm
    · simp [hm'] at hm
  | refused reason why =>
    refine ⟨.error reason, e.replyException reason.toRemote, p, ?_, answered_refused hid why⟩
    simp [refusal, hid]
  | connected request hm hbody hfree =>
    refine ⟨.ok (.readerConnected e.readerName), _, p.afterConnect e request, ?_,
      answered_connected ⟨hrequest, hm⟩ hfree⟩
    simp [hid]
  | disconnected k hm hk =>
    refine ⟨.ok (.readerDisconnected e.readerName), _, p.afterDisconnect e k, ?_,
      answered_disconnected ⟨hrequest, hm⟩ hk⟩
    simp [hid]

end Answers

/-! ## 4. Dispatches to their end -/

section Ends

variable {n : Node} {e : Envelope} {i : Ingress} {id : String} {p q : Plugin}
  {verdict : Except ReaderError Delivery}

/-- Whatever the sender makes of the reply, it is the dispatch of the envelope that comes in. -/
theorem serve_of_ingress (sender : Sender) (h : i.read = .ok e) :
    ∃ m : Node, m.plugin = n.plugin ∧ n.serve sender i = m.serve sender (.envelope e) := by
  obtain ⟨m, hm, htake⟩ := take_of_read (n := n) h
  refine ⟨m, hm, ?_⟩
  rw [serve_eq htake]
  rfl

theorem serve_of_read (h : i.read = .ok e) :
    ∃ m : Node, m.plugin = n.plugin ∧ n.serve .working i = m.serve .working (.envelope e) :=
  serve_of_ingress .working h

/-- The verdict and the plugin of the handler are those of the whole dispatch, whether somebody is
answered or not. -/
theorem serve_of_handled (he : e.isRequest = true)
    (h : (n.plugin.handle e).map (fun h => (h.1.verdict, h.2)) = some (verdict, q)) :
    (n.serve .working (.envelope e)).result = result verdict ∧
      (n.serve .working (.envelope e)).node.plugin = q := by
  obtain ⟨⟨⟨verdict', reply⟩, q'⟩, hhandle, heq⟩ := Option.map_eq_some_iff.1 h
  obtain ⟨rfl, rfl⟩ : verdict' = verdict ∧ q' = q := by simpa using heq
  cases reply with
  | none =>
    rw [serve_eq (i := .envelope e) (dispatch_of_silent he hhandle)]
    exact ⟨close_fst _ _, plugin_close _ _⟩
  | some reply =>
    rw [serve_eq (i := .envelope e) (dispatch_of_replied he hhandle)]
    refine ⟨?_, plugin_conclude _ _ _⟩
    show ((n.received.withPlugin q').conclude _ (.ok ())).1 = _
    rw [conclude_sent, close_fst]

/-- **A handshake with an id is answered, once.** -/
theorem serve_handshake (he : e.IsHandshake) (hid : e.id = some id) :
    ∃ reply, (n.serve .working (.envelope e)).sent = [(e.route.requester, reply)] ∧
      Answered n.plugin (n.serve .working (.envelope e)).node.plugin e id reply
        (n.serve .working (.envelope e)).result := by
  have hrequest := isRequest_of_isHandshake he
  obtain ⟨verdict, reply, q, hhandle, hanswered⟩ := handle_handshake he hid
  have hmap : (n.plugin.handle e).map (fun h => (h.1.verdict, h.2)) = some (verdict, q) := by
    rw [hhandle]
    rfl
  obtain ⟨hresult, hplugin⟩ := serve_of_handled hrequest hmap
  refine ⟨reply, ?_, by rw [hresult, hplugin]; exact hanswered⟩
  show (n.dispatch e).1.outgoing = _
  rw [dispatch_of_replied hrequest hhandle]
  rfl

/-- A handshake does without an id what it does with one. -/
theorem serve_withoutId {m : Node} (hm : m.plugin = n.plugin) (he : e.IsHandshake) (id : String) :
    (m.serve .working (.envelope e)).result =
        (n.serve .working (.envelope { e with id := some id })).result ∧
      (m.serve .working (.envelope e)).node.plugin =
        (n.serve .working (.envelope { e with id := some id })).node.plugin := by
  have he' : ({ e with id := some id } : Envelope).IsHandshake := he
  obtain ⟨verdict, reply, q, hhandle, -⟩ := handle_handshake (p := n.plugin) he' rfl
  have hmap : (n.plugin.handle { e with id := some id }).map (fun h => (h.1.verdict, h.2)) =
      some (verdict, q) := by
    rw [hhandle]
    rfl
  obtain ⟨hresult', hplugin'⟩ := serve_of_handled (isRequest_of_isHandshake he') hmap
  rw [handle_withId, ← hm] at hmap
  obtain ⟨hresult, hplugin⟩ := serve_of_handled (isRequest_of_isHandshake he) hmap
  exact ⟨hresult.trans hresult'.symm, hplugin.trans hplugin'.symm⟩

theorem outgoing_of_silent (he : e.isRequest = true)
    (h : n.plugin.handle e = some (⟨verdict, none⟩, q)) : (n.dispatch e).1.outgoing = [] := by
  rw [dispatch_of_silent he h]
  rfl

/-- **Nobody is answered** but who sent a handshake with an id. -/
theorem outgoing_dispatch (h : e.IsHandshake → e.id = none) :
    (n.dispatch e).1.outgoing = [] := by
  cases he : e.isRequest with
  | false =>
    rw [dispatch_of_response he]
    rfl
  | true =>
    have hhandling := n.plugin.handling e
    generalize hh : n.plugin.handle e = handled at hhandling
    cases hhandling with
    | unknown _ _ =>
      rw [dispatch_of_unknown he hh]
      rfl
    | notice verdict q _ _ _ _ => exact outgoing_of_silent he hh
    | refused reason why =>
      rw [refusal, h (why.isHandshake he)] at hh
      exact outgoing_of_silent he hh
    | connected request hm _ _ =>
      rw [h (.inl ⟨he, hm⟩)] at hh
      exact outgoing_of_silent he hh
    | disconnected k hm _ =>
      rw [h (.inr ⟨he, hm⟩)] at hh
      exact outgoing_of_silent he hh

theorem apart_resolve (n : Node) (e : Envelope) : Apart n.plugin (n.resolve e).2.plugin := by
  unfold resolve
  split
  · exact .of_readers rfl rfl rfl
  · split
    · exact .of_readers rfl rfl rfl
    · rename_i k _
      exact apart_updateEngine n.plugin k fun engine => (engine.accept e).2

/-- **Only handshakes create or remove readers.** -/
theorem apart_dispatch (h : ¬ e.IsHandshake) : Apart n.plugin (n.dispatch e).2.plugin := by
  cases he : e.isRequest with
  | false =>
    rw [dispatch_of_response he]
    exact apart_resolve n.received e
  | true =>
    rw [plugin_dispatch_of_request he]
    have hhandling := n.plugin.handling e
    generalize n.plugin.handle e = handled at hhandling
    cases hhandling with
    | unknown _ _ => exact .of_readers rfl rfl rfl
    | notice verdict q _ hreaders hregistry hsessions =>
      exact .of_readers hregistry hsessions hreaders
    | refused reason why => exact absurd (why.isHandshake he) h
    | connected request hm _ _ => exact absurd (.inl ⟨he, hm⟩) h
    | disconnected k hm _ => exact absurd (.inr ⟨he, hm⟩) h

theorem serve_other (h : ∀ e, i.read = .ok e → ¬ e.IsHandshake) :
    (n.serve .working i).sent = [] ∧ Apart n.plugin (n.serve .working i).node.plugin := by
  cases hread : i.read with
  | error fault =>
    obtain ⟨m, hm, htake⟩ := take_of_unread (n := n) hread
    rw [serve_eq htake, ← hm]
    exact ⟨rfl, .of_readers rfl rfl rfl⟩
  | ok e =>
    obtain ⟨m, hm, hserve⟩ := serve_of_read (n := n) hread
    rw [hserve, ← hm]
    refine ⟨outgoing_dispatch fun he => absurd he (h e hread), ?_⟩
    rw [plugin_serve]
    exact apart_dispatch (h e hread)

end Ends

end Node

/-! ## 5. Dispatches over a link -/

namespace Network

section Take

variable {n n' : Network} {i : Ingress} {target : String} {e : Envelope} {o : Outbox}

theorem take_eq (i : Ingress) (n : Network) :
    n.take i = { n with node := (n.node.take i).2 }.finishDispatch (n.node.take i).1 := by
  cases i with
  | envelope e => rfl
  | wire s => rfl

theorem sendEach_one (h : n.sendEach [(target, e)] = (.ok (), n')) :
    n.send target e = (.ok (), n') := by
  unfold sendEach at h
  cases hsend : n.send target e with
  | mk sent m =>
    rw [hsend] at h
    cases sent with
    | error reason => cases h
    | ok u => exact h

/-- **Over any link** the dispatch sends what `Node.serve` says, and after that it touches neither
the link nor the plugin. -/
theorem take_of_sent
    (h : { n with node := (n.node.take i).2 }.sendEach (n.node.serve .working i).sent =
      (.ok (), n')) :
    (n.take i).1 = (n.node.serve .working i).result ∧ (n.take i).2.link = n'.link ∧
      (n.take i).2.plugin = n'.plugin := by
  rw [take_eq]
  cases htake : n.node.take i with
  | mk d m =>
    rw [Node.serve_eq htake, htake] at h
    rw [Node.serve_eq htake]
    cases d with
    | ended result =>
      obtain rfl : { n with node := m } = n' := congrArg Prod.snd h
      exact ⟨rfl, rfl, rfl⟩
    | replying reply =>
      have hsend := sendEach_one h
      simp only [finishDispatch, hsend, Node.finish, Sender.working, Node.conclude_sent,
        Node.close_fst]
      exact ⟨trivial, trivial, Node.plugin_close _ _⟩

/-- An outbox that works and takes no time records what it is given. -/
theorem send_recorded (hlink : n.link = .outbox o) (hbegin : o.begin = .ok ())
    (hlatency : o.latency = 0) :
    n.send target e = (.ok (), { n with link := .outbox (o.record target e) }) := by
  unfold send beginSending
  simp [hlink, hbegin, hlatency]

/-- **Over an outbox** that works and takes no time, all that the dispatch does is what `Node.serve`
says. -/
theorem take_recorded (i : Ingress) (hlink : n.link = .outbox o) (hbegin : o.begin = .ok ())
    (hlatency : o.latency = 0) :
    n.take i = ((n.node.serve .working i).result,
      { n with
        node := (n.node.serve .working i).node
        link := .outbox { o with sent := o.sent ++ (n.node.serve .working i).sent } }) := by
  rw [take_eq]
  cases htake : n.node.take i with
  | mk d m =>
    rw [Node.serve_eq htake]
    cases d with
    | ended result =>
      show (result, { n with node := m }) = _
      simp [Node.finish, Dispatch.outgoing, ← hlink]
    | replying reply =>
      have hsend : send reply.target reply.envelope { n with node := m } =
          (.ok (), { n with node := m, link := .outbox (o.record reply.target reply.envelope) }) :=
        send_recorded hlink hbegin hlatency
      simp only [finishDispatch, hsend]
      rfl

end Take

end Network

/-! ## 6. The main statement -/

namespace Node

open Plugin

/-- **How handshakes are answered** by a node with a sender that sends what it is given. -/
structure Handshakes (n : Node) (i : Ingress) : Prop where
  /-- a handshake with an id is answered once, and the answer goes to who sent it -/
  answered : ∀ e id, i.read = .ok e → e.IsHandshake → e.id = some id →
    ∃ reply, (n.serve .working i).sent = [(e.route.requester, reply)] ∧
      Answered n.plugin (n.serve .working i).node.plugin e id reply (n.serve .working i).result
  /-- a handshake without id is not answered, and does what it would do with any id -/
  unanswered : ∀ e, i.read = .ok e → e.IsHandshake → e.id = none →
    (n.serve .working i).sent = [] ∧ ∀ id,
      (n.serve .working i).result =
          (n.serve .working (.envelope { e with id := some id })).result ∧
        (n.serve .working i).node.plugin =
          (n.serve .working (.envelope { e with id := some id })).node.plugin
  /-- whatever else comes in is not answered, and creates and removes nothing -/
  other : (∀ e, i.read = .ok e → ¬ e.IsHandshake) →
    (n.serve .working i).sent = [] ∧ Apart n.plugin (n.serve .working i).node.plugin
  /-- a link that sends all of this is given nothing else -/
  overLink : ∀ N N' : Network, N.node = n →
    { N with node := (n.take i).2 }.sendEach (n.serve .working i).sent = (.ok (), N') →
      (N.take i).1 = (n.serve .working i).result ∧ (N.take i).2.link = N'.link ∧
        (N.take i).2.plugin = N'.plugin
  /-- an outbox that takes no time records just this -/
  recorded : ∀ (N : Network) (o : Outbox), N.node = n → N.link = .outbox o →
    o.begin = .ok () → o.latency = 0 → N.take i = ((n.serve .working i).result,
      { N with
        node := (n.serve .working i).node
        link := .outbox { o with sent := o.sent ++ (n.serve .working i).sent } })

/-- **Handshakes are answered**, in every state of a node and whatever comes in: a handshake with an
id once, so that its sender knows what became of it, and nothing else at all. -/
theorem handshakes_answered (n : Node) (i : Ingress) : Handshakes n i where
  answered := by
    intro e id hread he hid
    obtain ⟨m, hm, hserve⟩ := serve_of_read (n := n) hread
    rw [hserve, ← hm]
    exact serve_handshake he hid
  unanswered := by
    intro e hread he hid
    obtain ⟨m, hm, hserve⟩ := serve_of_read (n := n) hread
    rw [hserve]
    exact ⟨outgoing_dispatch fun _ => hid, serve_withoutId hm he⟩
  other := serve_other
  overLink := by
    rintro N N' rfl h
    exact Network.take_of_sent h
  recorded := by
    rintro N o rfl hlink hbegin hlatency
    exact Network.take_recorded i hlink hbegin hlatency

/-- An announcement under the empty id is answered under the empty id. -/
example : ((ofConfig .default "M").serve .working (.envelope
    (.request "readerConnect" "" ⟨none, "R", "", "S", "M"⟩ ""))).sent.map
      (fun p => (p.1, p.2.id, p.2.route.virtualReader)) = [("S", some "", "remote-R-S")] := by
  decide +kernel

end Node

end CardLink
