import CardLink.Proofs.Node.Handshake

/-!
# A handshake outlives its reply

The registry changes, and the observers are told, before the reply to a handshake is sent, and
nothing is taken back if the reply cannot be sent. So it is of no use to a slave that hears nothing
to repeat its handshake: the same request is refused from then on, over any link.

* `Node.Refuses`: a request is refused, whatever becomes of the refusal.
* `Node.LeftBehind`: what is there after a handshake was carried out.
* **`Node.effect_outlives_reply`**: what a dispatch leaves behind whose reply could not be sent.
* `Network.repeated_in_vain`: a slave that connects while the link is down is locked out.

The state that is left behind is the one at the end of the dispatch. So two things are presupposed:
observers, when they are told of the change, create and remove no reader themselves; and while the
reply is being sent, nothing else changes the registry, neither another dispatch nor the application.

NOT here: what two dispatches make of the registry that overlap.
-/

namespace CardLink

namespace Node

open Plugin

/-! ## 1. Repeating a handshake -/

/-- **The request is refused for this reason** where the plugin is `q`: whatever becomes of the
refusal, this is the result, and the plugin stays as it is. -/
structure Refuses (q : Plugin) (e : Envelope) (reason : ReaderError) : Prop where
  served : ∀ (m : Node) (sender : Sender), m.plugin = q →
    (m.serve sender (.envelope e)).result = .error (.handler reason) ∧
      (m.serve sender (.envelope e)).node.plugin = q
  dispatched : ∀ N : Network, N.plugin = q → (N.dispatch e).1 = .error (.handler reason)

/-- **What a handshake leaves behind that was carried out**: its effect, and a plugin that refuses
the same request. -/
inductive LeftBehind (p q : Plugin) (e : Envelope) : Prop where
  | connected (k : Nat) (r : Reader) (connects : e.Connects) (added : Added p q e k r)
      (again : Refuses q e (.duplicateReader e.route.nativeReader e.route.requester)) :
      LeftBehind p q e
  | disconnected (disconnects : e.Disconnects) (removed : TakenOut p q e)
      (again : Refuses q e (.notFound e.readerName)) : LeftBehind p q e

section Refuses

variable {q : Plugin} {e : Envelope} {reason : ReaderError} {n : Node}

/-- The dispatch of a request that is refused, up to the refusal. -/
theorem dispatch_of_refused (he : e.isRequest = true) (h : Refused n.plugin e reason) :
    ((n.dispatch e).1 = .ended (.error (.handler reason)) ∨
      ∃ reply, (n.dispatch e).1 = .replying reply ∧ reply.verdict = .error reason) ∧
    (n.dispatch e).2.plugin = n.plugin := by
  have hh := handle_of_refused n.plugin e h
  refine ⟨?_, by rw [plugin_dispatch_of_request he, hh]; rfl⟩
  unfold refusal at hh
  cases hid : e.id with
  | none =>
    rw [hid] at hh
    rw [dispatch_of_silent he hh]
    exact .inl (congrArg Dispatch.ended (close_fst _ _))
  | some id =>
    rw [hid] at hh
    rw [dispatch_of_replied he hh]
    exact .inr ⟨_, rfl, rfl⟩

theorem refuses_of_refused (he : e.isRequest = true) (h : Refused q e reason) :
    Refuses q e reason where
  served := by
    rintro m sender rfl
    obtain ⟨hd, hplugin⟩ := dispatch_of_refused he h
    refine ⟨?_, (plugin_serve sender (.envelope e) m).trans hplugin⟩
    show ((m.dispatch e).2.finish sender (m.dispatch e).1).1 = _
    rcases hd with hd | ⟨reply, hd, hverdict⟩
    · rw [hd]
      rfl
    · rw [hd]
      exact conclude_refused hverdict _ _
  dispatched := by
    rintro N rfl
    obtain ⟨hd, -⟩ := dispatch_of_refused he h
    show (Network.finishDispatch (N.node.dispatch e).1 _).1 = _
    rcases hd with hd | ⟨reply, hd, hverdict⟩
    · rw [hd]
      rfl
    · rw [hd]
      exact conclude_refused hverdict _ _

end Refuses

/-! ## 2. Which dispatches fail in their reply -/

section Lost

variable {n : Node} {e : Envelope} {reply : Reply} {d : Delivery} {reason : TransportError}
  {sent : Except TransportError Unit} {sender : Sender}

/-- Only the sending of a reply ends a dispatch so. -/
theorem dispatch_ne_reply : (n.dispatch e).1 ≠ .ended (.error (.reply reason)) := by
  have hresult : ∀ verdict, result verdict ≠ .error (.reply reason) := by
    intro verdict heq
    cases verdict with
    | ok d => cases heq
    | error r => cases heq
  have hresolve : ∀ m : Node, (m.resolve e).1 ≠ .error (.reply reason) := by
    intro m heq
    unfold resolve at heq
    split at heq
    · cases heq
    · split at heq
      · cases heq
      · cases heq
  intro hd
  cases he : e.isRequest with
  | false =>
    rw [dispatch_of_response he] at hd
    exact hresolve _ (Dispatch.ended.inj hd)
  | true =>
    cases hh : n.plugin.handle e with
    | none =>
      rw [dispatch_of_unknown he hh] at hd
      cases hd
    | some handled =>
      obtain ⟨⟨verdict, reply⟩, p⟩ := handled
      cases reply with
      | none =>
        rw [dispatch_of_silent he hh] at hd
        exact hresult verdict ((close_fst _ _).symm.trans (Dispatch.ended.inj hd))
      | some reply =>
        rw [dispatch_of_replied he hh] at hd
        cases hd

/-- A reply that says that all went well goes out after the handshake was carried out. -/
theorem leftBehind_of_replying (hd : (n.dispatch e).1 = .replying reply)
    (hverdict : reply.verdict = .ok d) : LeftBehind n.plugin (n.dispatch e).2.plugin e := by
  cases he : e.isRequest with
  | false =>
    rw [dispatch_of_response he] at hd
    cases hd
  | true =>
    rw [plugin_dispatch_of_request he]
    have hhandling := n.plugin.handling e
    generalize hh : n.plugin.handle e = handled at hhandling
    cases hhandling with
    | unknown _ _ =>
      rw [dispatch_of_unknown he hh] at hd
      cases hd
    | notice verdict q _ _ _ _ =>
      rw [dispatch_of_silent he hh] at hd
      cases hd
    | refused r why =>
      rcases (dispatch_of_refused he why).1 with hended | ⟨reply', hreplying, hrefusal⟩
      · rw [hended] at hd
        cases hd
      · obtain rfl := Dispatch.replying.inj (hreplying.symm.trans hd)
        rw [hrefusal] at hverdict
        cases hverdict
    | connected request hm hbody hfree =>
      have hadded := added_afterConnect request hfree
      exact .connected _ _ ⟨he, hm⟩ hadded
        (refuses_of_refused he (.taken request _ hm hbody hadded.registered))
    | disconnected k hm hk =>
      have hremoved := takenOut_afterDisconnect hk
      exact .disconnected ⟨he, hm⟩ hremoved (refuses_of_refused he (.missing hm hremoved.gone))

/-- A dispatch ends so if all went well up to the reply, and the reply was not sent. -/
theorem verdict_of_conclude (h : (n.conclude reply sent).1 = .error (.reply reason)) :
    sent = .error reason ∧ ∃ d, reply.verdict = .ok d := by
  unfold conclude at h
  split at h
  · rename_i d r hverdict
    rw [close_fst] at h
    cases h
    exact ⟨rfl, d, hverdict⟩
  · rw [close_fst] at h
    cases hverdict : reply.verdict with
    | ok d =>
      rw [hverdict] at h
      cases h
    | error r =>
      rw [hverdict] at h
      cases h

theorem leftBehind_of_serve (h : (n.serve sender (.envelope e)).result = .error (.reply reason)) :
    LeftBehind n.plugin (n.serve sender (.envelope e)).node.plugin e := by
  rw [plugin_serve]
  have hfinish : ((n.dispatch e).2.finish sender (n.dispatch e).1).1 = .error (.reply reason) := h
  cases hd : (n.dispatch e).1 with
  | ended result =>
    rw [hd] at hfinish
    obtain rfl : result = .error (.reply reason) := hfinish
    exact absurd hd dispatch_ne_reply
  | replying reply =>
    rw [hd] at hfinish
    obtain ⟨-, d, hverdict⟩ := verdict_of_conclude hfinish
    exact leftBehind_of_replying hd hverdict

end Lost

end Node

/-! ## 3. Over a link -/

namespace Network

section Lost

variable {n : Network} {e : Envelope} {target : String} {reason : TransportError}

theorem node_beginSending (n : Network) (target : String) (e : Envelope) :
    (n.beginSending target e).2.node = n.node := by
  unfold beginSending
  split
  · rfl
  · split
    · rfl
    · split
      · rfl
      · rfl

/-- A sending that fails does so at once, and leaves the node alone. -/
theorem node_of_unsent (h : (n.send target e).1 = .error reason) :
    (n.send target e).2.node = n.node := by
  have hnode := node_beginSending n target e
  unfold send at h ⊢
  cases hbegin : n.beginSending target e with
  | mk r m =>
    rw [hbegin] at h hnode
    cases r with
    | error reason => exact hnode
    | ok due =>
      cases due with
      | none => cases h
      | some t => cases h

/-- If the reply is not sent, the plugin is left as the handler left it. -/
theorem plugin_of_unsent (h : (n.dispatch e).1 = .error (.reply reason)) :
    (n.dispatch e).2.plugin = (n.node.dispatch e).2.plugin := by
  change (finishDispatch (n.node.dispatch e).1 { n with node := (n.node.dispatch e).2 }).1 = _ at h
  show (finishDispatch (n.node.dispatch e).1
    { n with node := (n.node.dispatch e).2 }).2.plugin = _
  cases hd : (n.node.dispatch e).1 with
  | ended result => rfl
  | replying reply =>
    rw [hd] at h
    obtain ⟨hsent, -⟩ := Node.verdict_of_conclude h
    exact (Node.plugin_conclude reply _ _).trans (congrArg Node.plugin (node_of_unsent hsent))

end Lost

end Network

/-! ## 4. The main statement -/

namespace Node

/-- **A reply that could not be sent** left the plugin `q` behind. -/
structure ReplyLost (n : Node) (e : Envelope) (q : Plugin) : Prop where
  leftBehind : LeftBehind n.plugin q e
  /-- every link that fails to send the reply leaves just this behind -/
  overLink : ∀ (N : Network) (reason : TransportError), N.node = n →
    (N.dispatch e).1 = .error (.reply reason) → (N.dispatch e).2.plugin = q

/-- **The effect of a handshake outlives its reply**: if a dispatch ends because its reply could not
be sent, whatever the sender, then the handshake was carried out, and the same request is refused
when it comes again, as long as nothing else created or removed a reader since. -/
theorem effect_outlives_reply {n : Node} {e : Envelope} {sender : Sender} {reason : TransportError}
    (h : (n.serve sender (.envelope e)).result = .error (.reply reason)) :
    ReplyLost n e (n.serve sender (.envelope e)).node.plugin where
  leftBehind := leftBehind_of_serve h
  overLink := by
    rintro N reason' rfl hlost
    exact (Network.plugin_of_unsent hlost).trans (plugin_serve sender (.envelope e) N.node).symm

end Node

namespace Network

/-- A slave announces a reader and waits for the reply. -/
def announcing : Envelope := .request "readerConnect" "" ⟨none, "R1", "", "S1", "master"⟩ "c-1"

/-- A master whose link is down. -/
def cutOff : Network :=
  .new Identifier.call (.outbox { Outbox.new "master" 0 false with connected := false })
    (.ofConfig .default "master") .idle

/-- The link is up again after the reply was lost. -/
def mended : Network := (cutOff.dispatch announcing).2.setConnected true

end Network

theorem Node.effect_outlives_reply_cutOff :
    (Network.cutOff.node.serve (fun _ _ => .error .disconnected)
        (.envelope Network.announcing)).result = .error (.reply .disconnected) ∧
      Node.ReplyLost Network.cutOff.node Network.announcing Network.mended.plugin := by
  have hlost : (Network.cutOff.node.serve (fun _ _ => .error .disconnected)
      (.envelope Network.announcing)).result = .error (.reply .disconnected) := rfl
  exact ⟨hlost, Node.effect_outlives_reply hlost⟩

/-- **Nothing is taken back**: the reader of a slave that heard nothing is registered, and its next
attempt is refused although the link works again. -/
theorem Network.repeated_in_vain :
    Network.announcing.IsHandshake ∧
      (Network.cutOff.dispatch Network.announcing).1 = .error (.reply .disconnected) ∧
      Network.cutOff.plugin.registry.get? Network.announcing.readerName = none ∧
      Network.mended.plugin.registry.get? Network.announcing.readerName = some 0 ∧
      (Network.mended.dispatch Network.announcing).1 =
        .error (.handler (.duplicateReader "R1" "S1")) :=
  ⟨.inl ⟨rfl, rfl⟩, rfl, rfl, rfl, rfl⟩

end CardLink
