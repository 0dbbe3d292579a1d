import CardLink.Proofs.Node.Handshake
import CardLink.Proofs.Trace

/-!
# Every dispatch is counted once

A dispatch is counted when it begins, and once more when it ends, as its result says. Dispatches may
overlap, since the dispatch of a handshake waits while its reply is sent. So at any moment what was
received is what was dispatched, resolved or dropped and what is still in progress; all counters
have 64 bits and wrap around.

* `Node.Taken`, `Node.taken`: what becomes of whatever comes in, up to the sending of a reply.
* `DispatchStats.count`: what a result adds to the counters.
* `Intake.Step`: dispatches begin and end in any order, and other things happen meanwhile.
* `DispatchStats.tally`: the counters after so many results; `stats_of_trace`: they are these.
* **`Intake.statistics_conserved`**: the balance, after every run.

NOT here: dispatches that are cancelled while their reply is sent.
-/

namespace CardLink

/-- What a dispatch returned. -/
abbrev Returned := Except DispatchError Delivery

namespace DispatchStats

/-- What the result of a dispatch adds. -/
def count (r : Returned) (s : DispatchStats) : DispatchStats :=
  match r with
  | .ok .responseResolved => s.resolve
  | .ok _ => s.dispatch
  | .error (.noHandler _) => s.leaveUnhandled
  | .error (.decode _) => s.failDecoding
  | .error .missingId => s.drop
  | .error (.unknownId _) => s.drop
  | .error (.handler _) => s.failHandling
  | .error (.reply _) => s.failHandling

end DispatchStats

/-- What was received is counted if it is text. -/
def Ingress.counted (i : Ingress) (m : Metrics) : Metrics :=
  match i with
  | .envelope _ => m
  | .wire s => m.recordReceive s.utf8ByteSize

namespace Node

open Plugin

/-! ## 1. What becomes of what comes in -/

/-- **What becomes of whatever comes in**, up to the sending of a reply: the dispatch is over, and if
it failed the plugin is as it was; or it goes on with a refusal, and the plugin is as it was; or it
goes on with the reply to a handshake that was carried out. -/
inductive Taken (n : Node) (i : Ingress) : Dispatch × Node → Prop where
  | ended (r : Returned) (p : Plugin) (hp : ∀ reason, r = .error reason → p = n.plugin)
      (hr : ∀ reason, r ≠ .error (.reply reason)) :
      Taken n i (.ended r, ⟨n.config, p, n.stats.receive.count r, i.counted n.metrics⟩)
  | refusing (e : Envelope) (id : String) (reason : ReaderError) (hread : i.read = .ok e)
      (hid : e.id = some id) :
      Taken n i
        (.replying ⟨e.route.requester, e.replyException reason.toRemote, .error reason⟩,
          ⟨n.config, n.plugin, n.stats.receive, i.counted n.metrics⟩)
  | agreeing (reply : Reply) (d : Delivery) (p : Plugin) (hverdict : reply.verdict = .ok d)
      (hd : d ≠ .responseResolved) :
      Taken n i (.replying reply, ⟨n.config, p, n.stats.receive, i.counted n.metrics⟩)

/-- **What a handler made of a request**: it failed and did nothing, or it was carried out. Only
responses end calls. -/
inductive Verdict (p : Plugin) (e : Envelope) : Handled × Plugin → Prop where
  | failed (reason : ReaderError) : Verdict p e (⟨.error reason, none⟩, p)
  | refused (reason : ReaderError) : Verdict p e (refusal e reason, p)
  | done (d : Delivery) (reply : Option Envelope) (q : Plugin) (hd : d ≠ .responseResolved) :
      Verdict p e (⟨.ok d, reply⟩, q)

section Taken

variable {n : Node} {e : Envelope} {i : Ingress} {p : Plugin} {h : Handled × Plugin}

theorem verdict_of_handle (hh : p.handle e = some h) : Verdict p e h := by
  unfold handle at hh
  split at hh
  · obtain rfl := Option.some.inj hh
    unfold handleReaderEvent
    cases ReaderEvent.decoder.ofText e.body with
    | error fault => exact .failed _
    | ok event =>
      cases p.findRemote e.route.nativeReader e.route.requester with
      | error reason => exact .failed _
      | ok k => exact .done _ _ _ (by simp)
  · obtain rfl := Option.some.inj hh
    unfold handlePluginEvent
    cases PluginEvent.decoder.ofText e.body with
    | error fault => exact .failed _
    | ok event => exact .done _ _ _ (by simp)
  · obtain rfl := Option.some.inj hh
    unfold handleConnect
    cases ConnectRequest.ofBody e.body with
    | error fault => exact .refused _
    | ok request =>
      simp only
      cases p.create e.route.nativeReader e.route.requester request.transmissionMode
          request.options with
      | error reason => exact .refused _
      | ok created => exact .done _ _ _ (by simp)
  · obtain rfl := Option.some.inj hh
    unfold handleDisconnect
    cases p.remove e.route.nativeReader e.route.requester with
    | error reason => exact .refused _
    | ok removed => exact .done _ _ _ (by simp)
  · cases hh

/-- A result that a handler may end with is counted as one. -/
theorem close_eq {r : Returned} (n : Node)
    (hr : (∃ d, r = .ok d ∧ d ≠ .responseResolved) ∨ (∃ reason, r = .error (.handler reason)) ∨
      ∃ reason, r = .error (.reply reason)) :
    n.close r = (r, { n with stats := n.stats.count r }) := by
  rcases hr with ⟨d, rfl, hd⟩ | ⟨reason, rfl⟩ | ⟨reason, rfl⟩
  · cases d with
    | responseResolved => exact absurd rfl hd
    | _ => rfl
  · rfl
  · rfl

theorem taken_response (he : e.isRequest = false) : Taken n (.envelope e) (n.dispatch e) := by
  rw [dispatch_of_response he]
  unfold resolve
  cases e.id with
  | none => exact .ended _ _ (fun _ _ => rfl) (by simp)
  | some id =>
    simp only
    cases n.received.plugin.owner? e.route.virtualReader id with
    | none => exact .ended _ _ (fun _ _ => rfl) (by simp)
    | some k => exact .ended (.ok .responseResolved) _ (by simp) (by simp)

theorem taken_request (he : e.isRequest = true) : Taken n (.envelope e) (n.dispatch e) := by
  cases hh : n.plugin.handle e with
  | none =>
    rw [dispatch_of_unknown he hh]
    exact .ended (.error (.noHandler e.action)) _ (fun _ _ => rfl) (by simp)
  | some h =>
    cases verdict_of_handle hh with
    | failed reason =>
      rw [dispatch_of_silent he hh]
      exact .ended (.error (.handler reason)) _ (fun _ _ => rfl) (by simp)
    | refused reason =>
      cases hid : e.id with
      | none =>
        have hsilent : n.plugin.handle e = some (⟨.error reason, none⟩, n.plugin) := by
          rw [hh, refusal, hid]
          rfl
        rw [dispatch_of_silent he hsilent]
        exact .ended (.error (.handler reason)) _ (fun _ _ => rfl) (by simp)
      | some id =>
        have hreplied : n.plugin.handle e =
            some (⟨.error reason, some (e.replyException reason.toRemote)⟩, n.plugin) := by
          rw [hh, refusal, hid]
          rfl
        rw [dispatch_of_replied he hreplied]
        exact .refusing e id reason rfl hid
    | done d reply q hd =>
      cases reply with
      | none =>
        rw [dispatch_of_silent he hh, result, close_eq _ (.inl ⟨d, rfl, hd⟩)]
        exact .ended (.ok d) _ (by simp) (by simp)
      | some reply =>
        rw [dispatch_of_replied he hh]
        exact .agreeing _ d _ rfl hd

theorem taken_envelope (n : Node) (e : Envelope) : Taken n (.envelope e) (n.dispatch e) := by
  cases he : e.isRequest with
  | false => exact taken_response he
  | true => exact taken_request he

/-- **Whatever comes in is taken so.** -/
theorem taken (n : Node) (i : Ingress) : Taken n i (n.take i) := by
  cases i with
  | envelope e => exact taken_envelope n e
  | wire s =>
    cases hread : Envelope.ofWire s with
    | error fault =>
      simp only [take, dispatchWire, hread]
      exact .ended (.error (.decode fault)) _ (fun _ _ => rfl) (by simp)
    | ok e =>
      simp only [take, dispatchWire, hread]
      generalize hm : ({ n with metrics := n.metrics.recordReceive s.utf8ByteSize } : Node) = m
      have htaken := taken_envelope m e
      generalize m.dispatch e = d at htaken
      subst hm
      cases htaken with
      | ended r p hp hr => exact .ended r p hp hr
      | refusing e' id reason hread' hid =>
        obtain rfl := Except.ok.inj hread'
        exact .refusing e id reason hread hid
      | agreeing reply d p hverdict hd => exact .agreeing reply d p hverdict hd

/-- The end of a dispatch whose reply was given to the sender. -/
theorem conclude_eq {reply : Reply} (hreply : reply.verdict ≠ .ok .responseResolved)
    (sent : Except TransportError Unit) (n : Node) :
    (n.conclude reply sent).2 =
      { n with stats := n.stats.count (n.conclude reply sent).1 } := by
  unfold conclude
  split
  · exact congrArg Prod.snd (close_eq n (.inr (.inr ⟨_, rfl⟩)))
  · cases hverdict : reply.verdict with
    | ok d =>
      have hd : d ≠ .responseResolved := by
        rintro rfl
        exact hreply hverdict
      rw [result, close_eq n (.inl ⟨d, rfl, hd⟩)]
    | error reason => rfl

end Taken

end Node

/-! ## 2. Dispatches in progress -/

/-- A node, and the replies that its dispatches in progress wait for the sending of. -/
structure Intake where
  node : Node
  waiting : List Reply

namespace Intake

/-- What happens at a node. -/
inductive Event where
  /-- something came in; its dispatch ended at once, or goes on -/
  | taken (i : Ingress) (d : Dispatch)
  /-- the reply was sent, or not, and its dispatch ended -/
  | concluded (reply : Reply) (r : Returned)
  | other

/-- The result of the dispatch that ended. -/
def Event.result? : Event → Option Returned
  | .taken _ (.ended r) => some r
  | .concluded _ r => some r
  | _ => none

/-- What was returned so far. -/
def returned (evs : List Event) : List Returned := evs.filterMap Event.result?

/-- The reply that a dispatch waits for the sending of. -/
def replies : Dispatch → List Reply
  | .ended _ => []
  | .replying reply => [reply]

/-- **One step at a node.** Replies are sent in any order, and whatever else happens leaves the
counters alone. -/
inductive Step (s : Intake) : Event → Intake → Prop where
  | take (i : Ingress) :
      Step s (.taken i (s.node.take i).1)
        ⟨(s.node.take i).2, s.waiting ++ replies (s.node.take i).1⟩
  | conclude (before after : List Reply) (reply : Reply) (sent : Except TransportError Unit)
      (h : s.waiting = before ++ reply :: after) :
      Step s (.concluded reply (s.node.conclude reply sent).1)
        ⟨(s.node.conclude reply sent).2, before ++ after⟩
  | other (n : Node) (h : n.stats = s.node.stats) : Step s .other ⟨n, s.waiting⟩

/-- The counters were just reset, and nothing is in progress. -/
def fresh (n : Node) : Intake := ⟨{ n with stats := .zero }, []⟩

end Intake

/-! ## 3. Results by kind -/

namespace Returned

/-- An event was delivered, or a reader connected or disconnected. -/
def isDispatched : Returned → Bool
  | .ok .eventDelivered => true
  | .ok (.readerConnected _) => true
  | .ok (.readerDisconnected _) => true
  | _ => false

def isResolved : Returned → Bool
  | .ok .responseResolved => true
  | _ => false

def isUnhandled : Returned → Bool
  | .error (.noHandler _) => true
  | _ => false

def isUndecoded : Returned → Bool
  | .error (.decode _) => true
  | _ => false

/-- The handler failed, or the sending of its reply. -/
def isHandlerError : Returned → Bool
  | .error (.handler _) => true
  | .error (.reply _) => true
  | _ => false

/-- A response that nobody waits for. -/
def isStray : Returned → Bool
  | .error .missingId => true
  | .error (.unknownId _) => true
  | _ => false

def isDropped : Returned → Bool
  | .error _ => true
  | .ok _ => false

end Returned

namespace DispatchStats

open Returned

/-- The counters after these results, with so many dispatches in progress. -/
def tally (rs : List Returned) (waiting : Nat) : DispatchStats where
  received := .ofNat (rs.length + waiting)
  dispatched := .ofNat (rs.countP isDispatched)
  responsesResolved := .ofNat (rs.countP isResolved)
  dropped := .ofNat (rs.countP isDropped)
  unhandled := .ofNat (rs.countP isUnhandled)
  decodeFailures := .ofNat (rs.countP isUndecoded)
  handlerErrors := .ofNat (rs.countP isHandlerError)

section Tally

variable (rs : List Returned) (k : Nat)

/-- A dispatch begins. -/
theorem receive_tally : (tally rs k).receive = tally rs (k + 1) := by
  have hreceived : UInt64.ofNat (rs.length + k) + 1 = .ofNat (rs.length + (k + 1)) :=
    (UInt64.ofNat_add (rs.length + k) 1).symm
  rw [receive, tally, hreceived]
  rfl

/-- One result more. -/
theorem countP_concat {f : Returned → Bool} (r : Returned) :
    UInt64.ofNat ((rs ++ [r]).countP f) =
      if f r then .ofNat (rs.countP f) + 1 else .ofNat (rs.countP f) := by
  rw [List.countP_append, List.countP_singleton]
  split
  · exact UInt64.ofNat_add _ _
  · rfl

/-- **A dispatch ends**: each counter has what the result adds. -/
theorem count_tally (r : Returned) : (tally rs (k + 1)).count r = tally (rs ++ [r]) k := by
  have hlength : (rs ++ [r]).length + k = rs.length + (k + 1) := by
    rw [List.length_append, List.length_singleton]
    omega
  unfold tally
  simp only [countP_concat, hlength]
  match r with
  | .ok .responseResolved => rfl
  | .ok .eventDelivered => rfl
  | .ok (.readerConnected _) => rfl
  | .ok (.readerDisconnected _) => rfl
  | .error (.noHandler _) => rfl
  | .error (.decode _) => rfl
  | .error .missingId => rfl
  | .error (.unknownId _) => rfl
  | .error (.handler _) => rfl
  | .error (.reply _) => rfl

/-- Every result is of one kind. -/
theorem length_eq_kinds :
    rs.length = rs.countP isDispatched + rs.countP isResolved + rs.countP isDropped := by
  induction rs with
  | nil => rfl
  | cons r rs ih =>
    have hone : 1 = (if isDispatched r then 1 else 0) + (if isResolved r then 1 else 0) +
        (if isDropped r then 1 else 0) := by
      rcases r with e | d
      · rfl
      · cases d <;> rfl
    simp only [List.countP_cons, List.length_cons]
    omega

/-- What is dropped is dropped for one reason. -/
theorem dropped_eq_reasons :
    rs.countP isDropped = rs.countP isUnhandled + rs.countP isUndecoded +
      rs.countP isHandlerError + rs.countP isStray := by
  induction rs with
  | nil => rfl
  | cons r rs ih =>
    have hone : (if isDropped r then 1 else 0) = (if isUnhandled r then 1 else 0) +
        (if isUndecoded r then 1 else 0) + (if isHandlerError r then 1 else 0) +
        (if isStray r then 1 else 0) := by
      rcases r with e | d
      · cases e <;> rfl
      · rfl
    simp only [List.countP_cons]
    omega

end Tally

end DispatchStats

/-! ## 4. The balance -/

namespace Intake

open DispatchStats Returned

/-- **The counters balance.** -/
structure Balanced (s : Intake) (rs : List Returned) : Prop where
  received : s.node.stats.received = s.node.stats.dispatched + s.node.stats.responsesResolved +
    s.node.stats.dropped + .ofNat s.waiting.length
  dropped : s.node.stats.dropped = s.node.stats.unhandled + s.node.stats.decodeFailures +
    s.node.stats.handlerErrors + .ofNat (rs.countP isStray)
  dispatched : s.node.stats.dispatched = .ofNat (rs.countP isDispatched)
  responsesResolved : s.node.stats.responsesResolved = .ofNat (rs.countP isResolved)
  unhandled : s.node.stats.unhandled = .ofNat (rs.countP isUnhandled)
  decodeFailures : s.node.stats.decodeFailures = .ofNat (rs.countP isUndecoded)
  handlerErrors : s.node.stats.handlerErrors = .ofNat (rs.countP isHandlerError)

section Runs

variable {n : Node} {s t : Intake} {evs : List Event} {ev : Event}

/-- The counters are what was returned says, and no dispatch in progress is one of a response. -/
structure Counts (evs : List Event) (s : Intake) : Prop where
  stats : s.node.stats = tally (returned evs) s.waiting.length
  verdicts : ∀ reply ∈ s.waiting, reply.verdict ≠ .ok .responseResolved

theorem returned_concat (evs : List Event) (ev : Event) :
    returned (evs ++ [ev]) = returned evs ++ ev.result?.toList := by
  unfold returned
  rw [List.filterMap_append]
  cases hr : ev.result? with
  | none => simp [hr]
  | some r => simp [hr]

theorem Counts.take (h : Counts evs s) (i : Ingress) :
    Counts (evs ++ [.taken i (s.node.take i).1])
      ⟨(s.node.take i).2, s.waiting ++ replies (s.node.take i).1⟩ := by
  have htaken := s.node.taken i
  generalize s.node.take i = d at htaken
  cases htaken with
  | ended r p hp hr =>
    refine ⟨?_, fun reply hreply => h.verdicts reply (by simpa [replies] using hreply)⟩
    rw [returned_concat]
    show (s.node.stats.receive).count r = tally (returned evs ++ [r]) (s.waiting ++ []).length
    rw [h.stats, receive_tally, count_tally, List.append_nil]
  | refusing e id reason hread hid =>
    refine ⟨?_, fun reply hreply => ?_⟩
    · rw [returned_concat]
      show s.node.stats.receive = tally (returned evs ++ []) (s.waiting ++ [_]).length
      rw [h.stats, receive_tally, List.append_nil, List.length_append]
      rfl
    · rcases List.mem_append.1 hreply with hreply | hreply
      · exact h.verdicts reply hreply
      · rw [List.mem_singleton.1 hreply]
        simp
  | agreeing reply d p hverdict hd =>
    refine ⟨?_, fun reply' hreply => ?_⟩
    · rw [returned_concat]
      show s.node.stats.receive = tally (returned evs ++ []) (s.waiting ++ [reply]).length
      rw [h.stats, receive_tally, List.append_nil, List.length_append]
      rfl
    · rcases List.mem_append.1 hreply with hreply | hreply
      · exact h.verdicts reply' hreply
      · rw [List.mem_singleton.1 hreply, hverdict]
        simpa using hd

theorem Counts.conclude (h : Counts evs s) {before after : List Reply} {reply : Reply}
    (hwaiting : s.waiting = before ++ reply :: after) (sent : Except TransportError Unit) :
    Counts (evs ++ [.concluded reply (s.node.conclude reply sent).1])
      ⟨(s.node.conclude reply sent).2, before ++ after⟩ := by
  have hlength : s.waiting.length = (before ++ after).length + 1 := by
    rw [hwaiting, List.length_append, List.length_append, List.length_cons]
    omega
  have hverdict := h.verdicts reply (by simp [hwaiting])
  refine ⟨?_, fun reply' hreply => h.verdicts reply' ?_⟩
  · rw [returned_concat, Node.conclude_eq hverdict]
    show s.node.stats.count _ = tally (returned evs ++ [_]) _
    rw [h.stats, hlength, count_tally]
  · rw [hwaiting]
    rcases List.mem_append.1 hreply with hreply | hreply
    · exact List.mem_append_left _ hreply
    · exact List.mem_append_right _ (List.mem_cons_of_mem _ hreply)

theorem counts_step (h : Counts evs s) (hs : Step s ev t) : Counts (evs ++ [ev]) t := by
  cases hs with
  | take i => exact h.take i
  | conclude before after reply sent hwaiting => exact h.conclude hwaiting sent
  | other m hm =>
    refine ⟨?_, h.verdicts⟩
    rw [returned_concat]
    show m.stats = tally (returned evs ++ []) s.waiting.length
    rw [hm, h.stats, List.append_nil]

/-- **After every run the counters are what was returned says.** -/
theorem counts_of_trace (h : Trace Step (fresh n) evs s) : Counts evs s :=
  h.invariant (I := Counts) ⟨rfl, fun _ hreply => absurd hreply List.not_mem_nil⟩
    fun _ _ _ _ _ hI hs => counts_step hI hs

/-- **The statistics are conserved**: since the last reset, however dispatches overlapped, each was
counted once when it began and once, as its result says, when it ended. -/
theorem statistics_conserved (h : Trace Step (fresh n) evs s) : Balanced s (returned evs) := by
  have hstats := (counts_of_trace h).stats
  refine ⟨?_, ?_, by rw [hstats]; rfl, by rw [hstats]; rfl, by rw [hstats]; rfl,
    by rw [hstats]; rfl, by rw [hstats]; rfl⟩
  · rw [hstats]
    simp only [tally, ← UInt64.ofNat_add]
    rw [length_eq_kinds]
  · rw [hstats]
    simp only [tally, ← UInt64.ofNat_add]
    rw [dropped_eq_reasons]

end Runs

/-- A slave announces a reader and waits for the reply. -/
def greeting : Ingress :=
  .envelope (.request "readerConnect" "" ⟨none, "R", "", "S", "M"⟩ "c-1")

/-- A response that nobody waits for. -/
def straggler : Ingress := .envelope (.response "transmitSet" "[]" ⟨none, "", "", "S", "M"⟩ "ghost")

/-- The node while the reply to the first announcement is sent, and a text and a response came in. -/
def crowded : Intake :=
  let n := ((fresh (.ofConfig .default "M")).node.take greeting).2
  let n := (n.take (.wire "oops")).2
  ⟨(n.take straggler).2, replies ((fresh (.ofConfig .default "M")).node.take greeting).1⟩

/-- Two dispatches are over while the first is in progress. -/
theorem statistics_conserved_crowded :
    ∃ evs, Trace Step (fresh (.ofConfig .default "M")) evs crowded ∧
      Balanced crowded (returned evs) ∧ (returned evs).length = 2 ∧
      crowded.node.stats = ⟨3, 0, 0, 2, 0, 1, 0⟩ := by
  have h₁ := Trace.start.snoc _ _ _ _ (Step.take (s := fresh (.ofConfig .default "M")) greeting)
  have h₂ := h₁.snoc _ _ _ _ (.take (.wire "oops"))
  have h₃ := h₂.snoc _ _ _ _ (.take straggler)
  exact ⟨_, h₃, statistics_conserved h₃, rfl, by decide +kernel⟩

end Intake

end CardLink
