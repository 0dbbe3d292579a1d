import CardLink.Proofs.Node.Statistics

/-!
# A dispatch that fails leaves the node alone

A dispatch may fail at many points: in the text, in the action, in the id of a response, in the body of
a request, or because a reader is registered or is not. All of them come before anything is done. So
no reader, session, observer, call or parameter changes, and nobody is told of anything. What remains
of the envelope is that it was counted, and an exception for the slave if it waits for a reply.

* `Node.counted`, `Node.Harmless`: all that a dispatch leaves behind that failed.
* `Node.failed_cases`: a dispatch that fails is over at once, or sends a refusal.
* **`Node.failures_harmless`**: every dispatch that fails, in every state, unless it is its reply that
  was not sent.

NOT here: a handshake that was carried out and whose reply is lost (`effect_outlives_reply`).
-/

namespace CardLink.Node

open Plugin

/-- The node when it has counted what came in. -/
def counted (i : Ingress) (n : Node) : Node :=
  { n with stats := n.stats.receive, metrics := i.counted n.metrics }

/-- The node when it has counted how a dispatch ended. -/
def tallied (r : Returned) (n : Node) : Node := { n with stats := n.stats.count r }

/-- **A dispatch that failed left the node alone.** -/
structure Harmless (n : Node) (i : Ingress) (reason : DispatchError) (served : Served) : Prop where
  /-- only counters change; the plugin with its readers, their sessions, calls and observers, with
  what the observers noted, the number of sessions and the parameters is as it was -/
  node : served.node = (n.counted i).tallied (.error reason)
  /-- nothing was sent, or one refusal to the slave that waits for a reply -/
  sent : served.sent = [] ∨ ∃ e id refusal, i.read = .ok e ∧ e.id = some id ∧
    reason = .handler refusal ∧
      served.sent = [(e.route.requester, e.replyException refusal.toRemote)]
  exceptions : ∀ x ∈ served.sent, x.2.isRequest = false ∧ x.2.containsException = true
  /-- over any link the dispatch sends this and counts, and does nothing else -/
  overLink : ∀ N M : Network, N.node = n →
    M = ({ N with node := n.counted i }.sendEach served.sent).2 →
      N.take i = (.error reason, { M with node := M.node.tallied (.error reason) })

section Failure

variable {n : Node} {i : Ingress} {sender : Sender} {reason : DispatchError}

/-- **A dispatch that fails** is over at once, or it sends a refusal and is over then. -/
theorem failed_cases (h : (n.serve sender i).result = .error reason)
    (hreason : ∀ r, reason ≠ .reply r) :
    n.take i = (.ended (.error reason), (n.counted i).tallied (.error reason)) ∨
      ∃ e id refusal, i.read = .ok e ∧ e.id = some id ∧ reason = .handler refusal ∧
        n.take i = (.replying ⟨e.route.requester, e.replyException refusal.toRemote,
          .error refusal⟩, n.counted i) := by
  have htaken := n.taken i
  generalize htake : n.take i = d at htaken
  rw [serve_eq htake] at h
  cases htaken with
  | ended r p hp hr =>
    obtain rfl : r = .error reason := h
    obtain rfl := hp reason rfl
    exact .inl rfl
  | refusing e id refusal hread hid =>
    have hrefused : reason = .handler refusal := (Except.error.inj h).symm
    exact .inr ⟨e, id, refusal, hread, hid, hrefused, rfl⟩
  | agreeing reply d p hverdict hd =>
    -- a handshake that was carried out fails only in its reply
    have hconclude : (conclude reply (sender reply.target reply.envelope)
        ⟨n.config, p, n.stats.receive, i.counted n.metrics⟩).1 = .error reason := h
    unfold conclude at hconclude
    rw [hverdict] at hconclude
    cases hsent : sender reply.target reply.envelope with
    | ok u =>
      rw [hsent] at hconclude
      cases hconclude
    | error r =>
      rw [hsent] at hconclude
      exact absurd (Except.error.inj hconclude).symm (hreason r)

/-- A refusal is sent, and the dispatch is over, whatever became of it. -/
theorem conclude_refusal {refusal : ReaderError} (target : String) (e : Envelope)
    (sent : Except TransportError Unit) (m : Node) :
    m.conclude ⟨target, e, .error refusal⟩ sent =
      (.error (.handler refusal), m.tallied (.error (.handler refusal))) := rfl

theorem sendEach_single (N : Network) (target : String) (e : Envelope) :
    (N.sendEach [(target, e)]).2 = (N.send target e).2 := by
  unfold Network.sendEach
  cases N.send target e with
  | mk r M =>
    cases r with
    | ok u => rfl
    | error reason => rfl

/-- **A dispatch that fails leaves the node alone**, in every state and whatever came in: it is
counted, and refused if somebody waits for a reply. -/
theorem failures_harmless (h : (n.serve sender i).result = .error reason)
    (hreason : ∀ r, reason ≠ .reply r) : Harmless n i reason (n.serve sender i) := by
  rcases failed_cases h hreason with htake | ⟨e, id, refusal, hread, hid, rfl, htake⟩
  · rw [serve_eq htake]
    refine ⟨rfl, .inl rfl, fun x hx => absurd hx List.not_mem_nil, ?_⟩
    rintro N M rfl rfl
    rw [Network.take_eq, htake]
    rfl
  · rw [serve_eq htake]
    refine ⟨rfl, .inr ⟨e, id, refusal, hread, hid, rfl, rfl⟩, ?_, ?_⟩
    · intro x hx
      rw [List.mem_singleton.1 hx]
      exact ⟨rfl, RemoteException.isMarked_toBody refusal.toRemote⟩
    · rintro N M rfl rfl
      have hsent := sendEach_single { N with node := N.node.counted i } e.route.requester
        (e.replyException refusal.toRemote)
      rw [Network.take_eq, htake]
      show Network.finishDispatch (.replying _) { N with node := N.node.counted i } = _
      unfold Network.finishDispatch
      simp only [Dispatch.outgoing, conclude_refusal, hsent]

end Failure

/-- A reader of `S` is connected, and a call of the application waits on it. -/
def engaged : Node :=
  let n := ((ofConfig .default "M").dispatch
    (.notification "readerConnect" "" ⟨none, "R", "", "S", "M"⟩)).2
  n.withPlugin (n.plugin.updateEngine 0 fun e => (e.start "q" "transmitSet" 1000 0).2)

/-- A second announcement of the same reader is refused, and the call waits on. -/
theorem failures_harmless_duplicate :
    (engaged.serve .working (.envelope
        (.request "readerConnect" "" ⟨none, "R", "", "S", "M"⟩ "c-2"))).result =
          .error (.handler (.duplicateReader "R" "S")) ∧
      (∀ r, DispatchError.handler (.duplicateReader "R" "S") ≠ .reply r) ∧
      Harmless engaged (.envelope (.request "readerConnect" "" ⟨none, "R", "", "S", "M"⟩ "c-2"))
        (.handler (.duplicateReader "R" "S")) (engaged.serve .working (.envelope
          (.request "readerConnect" "" ⟨none, "R", "", "S", "M"⟩ "c-2"))) ∧
      engaged.plugin.isPendingAt "q" 0 = true := by
  have hresult : (engaged.serve .working (.envelope
      (.request "readerConnect" "" ⟨none, "R", "", "S", "M"⟩ "c-2"))).result =
        .error (.handler (.duplicateReader "R" "S")) := by
    rfl
  have hreason : ∀ r, DispatchError.handler (.duplicateReader "R" "S") ≠ .reply r := by
    intro r heq
    cases heq
  exact ⟨hresult, hreason, failures_harmless hresult hreason, rfl⟩

end CardLink.Node
