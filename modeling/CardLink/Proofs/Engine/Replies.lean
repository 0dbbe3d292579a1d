import CardLink.Proofs.Engine.Correlation
import CardLink.Proofs.Envelope.Exception
import CardLink.Proofs.Node.Dispatch

/-!
# A call returns what was replied

Answers and failures travel in the same place, the body of a response, and only the body tells them
apart. What the callee replies is what the caller gets: a failure as the same failure, an answer
unchanged.

* `RemoteException.Marked`: a body that is taken for a failure.
* `Envelope.result_of_unmarked`, `result_of_decoded`, `result_of_undecoded`: the result of a response
  by its body.
* `Slave.answerBody_of_serve`, `Plugin.answerBody_of_handle`: what both sides write when all went well.
* `Engine.SentOut.step`: a request that was sent is never taken back.
* `Engine.Resolves`: a response makes a call return a result, whatever else happens.
* **`Engine.replies_faithful`**: the main statement, for every pending request.

NOT here: the way of a response through a node to the engine of its reader; see
`CardLink.Proofs.Node.Routing`.
-/

namespace CardLink

open Json

/-! ## 1. Bodies that are taken for failures -/

namespace RemoteException

/-- **The body is an object with the key that marks a failure**, at the outermost level. -/
def Marked (body : String) : Prop :=
  ∃ ms v, parse? body = some (.object ms) ∧ ms.lookup marker = some v

theorem isMarked_iff {body : String} : isMarked body = true ↔ Marked body := by
  constructor
  · intro h
    unfold isMarked at h
    cases hparse : parse? body with
    | none => simp [hparse] at h
    | some w =>
      simp only [hparse] at h
      cases w with
      | object ms =>
        obtain ⟨v, hv⟩ := Option.isSome_iff_exists.1 h
        exact ⟨ms, v, hparse, hv⟩
      | _ => cases h
  · intro h
    obtain ⟨ms, v, hparse, hv⟩ := h
    unfold isMarked
    rw [hparse]
    show (ms.lookup marker).isSome = true
    rw [hv]
    rfl

theorem not_marked {body : String} (h : isMarked body = false) : ¬ Marked body := by
  rw [← isMarked_iff, h]
  exact Bool.false_ne_true

end RemoteException

/-! ## 2. The result of a response -/

namespace Envelope

open RemoteException (Marked isMarked isMarked_iff isMarked_toBody)

variable {e : Envelope} {x : RemoteException}

/-- A body without the mark is the result as it stands. -/
theorem result_of_unmarked (h : ¬ Marked e.body) : e.result = .ok e.body := by
  have hplain : e.containsException = false := by
    rw [← Bool.not_eq_true]
    exact fun hmarked => h (isMarked_iff.1 hmarked)
  unfold result
  rw [hplain]
  rfl

/-- A body with the mark that reads as a failure is this failure. -/
theorem result_of_decoded (h : Marked e.body) (hx : RemoteException.decoder.ofText e.body = .ok x) :
    e.result = .error (.remote x) := by
  have hmarked : isMarked e.body = true := isMarked_iff.2 h
  unfold result containsException exceptionBody? RemoteException.ofBody?
  rw [hmarked, hx]
  rfl

/-- A body with the mark that does not read as a failure is reported as it stands. -/
theorem result_of_undecoded {fault : Fault} (h : Marked e.body)
    (hx : RemoteException.decoder.ofText e.body = .error fault) :
    e.result = .error (.remote ⟨"Unknown", e.body, []⟩) := by
  have hmarked : isMarked e.body = true := isMarked_iff.2 h
  unfold result containsException exceptionBody? RemoteException.ofBody?
  rw [hmarked, hx]
  rfl

theorem result_replyException (r : Envelope) (x : RemoteException) :
    (r.replyException x).result = .error (.remote x) :=
  result_of_decoded (isMarked_iff.1 (isMarked_toBody x)) (RemoteException.reads.ofText x x.exact)

end Envelope

/-! ## 3. What is written when all went well -/

/-- **A slave that serves a request writes an answer.** -/
theorem Slave.answerBody_of_serve {r r' : NativeReader} {method : Method} {body answer : String}
    (h : Slave.serve r method body = .ok (answer, r')) : AnswerBody answer := by
  unfold Slave.serve at h
  cases method with
  | transmitSet =>
    simp only at h
    split at h
    · cases h
    · cases h
      exact .responses _
  | readerTransmit =>
    simp only at h
    split at h
    · cases h
    · cases h
      exact .response _
  | isSePresent =>
    cases h
    exact .present _
  | defaultSelectionRequest =>
    simp only at h
    split at h
    · cases h
    · cases h
      exact .empty
  | _ => cases h

/-- **A master that handled a request well replies with an answer**, if it replies. -/
theorem Plugin.answerBody_of_handle {p q : Plugin} {e reply : Envelope} {d : Delivery}
    (h : p.handle e = some (⟨.ok d, some reply⟩, q)) : AnswerBody reply.body := by
  have hcases := p.handling e
  rw [h] at hcases
  generalize hreply : some reply = sent at hcases
  cases hcases with
  | notice => cases hreply
  | connected =>
    obtain ⟨id, -, rfl⟩ := Option.map_eq_some_iff.1 hreply.symm
    exact .session _
  | disconnected =>
    obtain ⟨id, -, rfl⟩ := Option.map_eq_some_iff.1 hreply.symm
    exact .empty

/-! ## 4. A call with its response -/

namespace Network

variable {n : Network} {caller : Caller} {t : Ticket} {e : Engine}

theorem engine?_updateEngine (f : Engine → Engine) (he : n.engine? caller = some e) :
    (n.updateEngine caller f).engine? caller = some (f e) := by
  cases caller with
  | client =>
    obtain rfl := Option.some.inj he
    rfl
  | reader k => exact Plugin.engine?_updateEngine_self he f
  | slave j =>
    obtain ⟨s, hs, rfl⟩ := Option.map_eq_some_iff.1 he
    show ((n.slaves.modify j _)[j]?).map (·.engine) = _
    have hs' : n.slaves[j]? = some s := hs
    simp [hs']

theorem engine?_endSending (target : String) (request : Envelope) :
    (n.endSending target request).engine? caller = n.engine? caller := by
  unfold endSending updateOutbox
  cases n.link <;> rfl

/-- A call that waits and has its response is over. -/
theorem pollWaiting_of_delivered {c : Call} {deadline : Nat} {response : Envelope}
    (he : n.engine? t.caller = some e) (hc : e.call? t.key = some c)
    (hp : c.phase = .waiting deadline) (hm : c.mailbox = .delivered response) :
    (n.pollWaiting t).1 = .over response.result := by
  have hending : c.ending? n.now = some (.answered response (n.now - c.started)) := by
    simp [Call.ending?, hp, hm]
  have hcall : (n.engine? t.caller).bind (·.call? t.key) = some c := by
    rw [he]
    exact hc
  simp only [pollWaiting, hcall, hending]
  rfl

end Network

namespace Engine

variable {e e' : Engine} {ev : Event} {evs : List Event} {key : Nat} {id : String}
  {r response : Envelope} {result : Except CallError String} {c d : Call}

/-! ### A request that was sent -/

/-- The request of the call with this key was sent, or the call is over. -/
structure SentOut (e : Engine) (key : Nat) : Prop where
  used : key < e.nextKey
  phase : ∀ c ∈ e.calls, c.key = key → c.phase ≠ .sending

theorem phase_bereft (owner : Option Nat) (d : Call) : (bereft owner d).phase = d.phase := by
  unfold bereft
  split
  · rfl
  · rfl

theorem SentOut.withdrawing (h : SentOut e key) (c : Call) : SentOut (e.withdrawing c) key where
  used := h.used
  phase d hd hk := by
    obtain ⟨d', hd', -, rfl⟩ := mem_withdrawing.1 hd
    rw [key_bereft] at hk
    rw [phase_bereft]
    exact h.phase d' hd' hk

/-- **A request that was sent is never taken back.** -/
theorem SentOut.step (ho : SentOut e key) (h : Sound e) (hs : Step e ev e') : SentOut e' key := by
  cases hs with
  | start id action patience now =>
    rcases start_cases e id action patience now with ⟨-, heq⟩ | ⟨-, -, heq⟩ | ⟨-, -, heq⟩
    · rw [heq]; exact ho
    · rw [heq]; exact ho
    · rw [heq]
      refine ⟨Nat.lt_succ_of_lt ho.used, fun c hc hk => ?_⟩
      exact ho.phase c (mem_of_admitting hc (hk ▸ ho.used)) hk
  | sent c now _ _ =>
    exact ⟨ho.used, forall_updateCall ho.phase (fun _ => rfl) fun _ _ _ => CallPhase.noConfusion⟩
  | unsent c _ hc _ => rw [h.release_of_mem hc]; exact ho.withdrawing c
  | receive r =>
    rcases accept_cases e r with ⟨id, key', -, -, heq⟩ | ⟨-, heq⟩
    · rw [heq]
      exact ⟨ho.used, forall_updateCall ho.phase (fun _ => rfl) fun _ _ hp => hp⟩
    · rw [heq]; exact ho
  | finish c _ _ hc _ => rw [h.release_of_mem hc]; exact ho.withdrawing c
  | drop c hc => rw [h.release_of_mem hc]; exact ho.withdrawing c

theorem SentOut.trace (ho : SentOut e key) (h : Sound e) (ht : Trace Step e evs e') :
    Sound e' ∧ SentOut e' key :=
  ht.invariant (I := fun _ e' => Sound e' ∧ SentOut e' key) ⟨h, ho⟩
    fun _ _ _ _ _ hI hs => ⟨sound_step hI.1 hs, hI.2.step hI.1 hs⟩

/-- A call that is looked at while it waits has been sent. -/
theorem ending?_ne_unsent {now : Nat} {reason : TransportError} :
    c.ending? now ≠ some (.unsent reason) := by
  intro h
  unfold Call.ending? at h
  cases hp : c.phase with
  | sending => simp [hp] at h
  | waiting deadline =>
    cases hm : c.mailbox with
    | empty =>
      simp only [hp, hm] at h
      split at h
      · cases h
      · cases h
    | delivered r => simp [hp, hm] at h
    | abandoned => simp [hp, hm] at h

/-- The sending of it does not fail any more. -/
theorem SentOut.not_unsent (ho : SentOut e key) (h : Sound e) (ht : Trace Step e evs e')
    {reason : TransportError} (hk : c.key = key) : .ended c (.unsent reason) ∉ evs := by
  intro hmem
  obtain ⟨before, after, rfl⟩ := List.append_of_mem hmem
  obtain ⟨t, t', hbefore, hs, -⟩ := ht.split rfl
  have hout := (ho.trace h hbefore).2
  cases hs with
  | unsent _ _ hc hp => exact hout.phase c hc hk hp
  | finish _ now _ _ hending => exact ending?_ne_unsent hending

/-! ### The response -/

/-- By this time the request of the call was sent. -/
def IsSent (t : Ticket) (now : Nat) (c : Call) : Prop :=
  match t.sendingUntil with
  | some due => due ≤ now
  | none => c.phase ≠ .sending

/-- **A call that has its response returns the result of it** when it is looked at, once its request
was sent. -/
theorem poll_of_delivered {n : Network} {t : Ticket} (h : Sound e)
    (he : n.engine? t.caller = some e) (hc : c ∈ e.calls) (hk : t.key = c.key)
    (hm : c.mailbox = .delivered response) (hsent : IsSent t n.now c) :
    (n.poll t).1 = .over response.result := by
  unfold IsSent at hsent
  unfold Network.poll
  cases hdue : t.sendingUntil with
  | none =>
    rw [hdue] at hsent
    cases hp : c.phase with
    | sending => exact absurd hp hsent
    | waiting deadline =>
      exact Network.pollWaiting_of_delivered he (hk ▸ h.call?_eq hc) hp hm
  | some due =>
    rw [hdue] at hsent
    simp only [if_pos hsent]
    have hmem : { c with phase := .waiting (n.now + c.patience) } ∈ (e.sent t.key n.now).calls :=
      mem_updateCall.2 ⟨c, hc, if_pos hk.symm⟩
    have hcall : (e.sent t.key n.now).call? t.key =
        some { c with phase := .waiting (n.now + c.patience) } :=
      (congrArg _ hk).trans ((h.sent t.key n.now).call?_eq hmem)
    have hengine : (n.requestSent t).engine? t.caller = some (e.sent t.key n.now) := by
      unfold Network.requestSent
      rw [Network.engine?_updateEngine _ (Network.engine?_endSending _ _ ▸ he)]
    exact Network.pollWaiting_of_delivered (t := { t with sendingUntil := none }) hengine
      hcall rfl hm

/-- **The response makes the call with this key return this result**, whatever happens to the engine
afterwards. -/
structure Resolves (e : Engine) (key : Nat) (response : Envelope)
    (result : Except CallError String) : Prop where
  taken : (e.accept response).1 = true
  /-- when the call comes to its end, it is with this result, unless its request could not be sent -/
  ended : ∀ after e', Trace Step (e.accept response).2 after e' →
    ∀ c ending, .ended c ending ∈ after → c.key = key →
      ending.result c = result ∨ ∃ reason, ending = .unsent reason
  /-- and it is with this result in any case if its request was sent before the response came -/
  sentBefore : SentOut e key → ∀ after e', Trace Step (e.accept response).2 after e' →
    ∀ c ending, .ended c ending ∈ after → c.key = key → ending.result c = result
  /-- until then it is under way, and it ends when it is looked at after its request was sent -/
  returns : ∀ after e', Trace Step (e.accept response).2 after e' →
    (∃ ev ∈ after, ev.Ends key) ∨
    ∃ c ∈ e'.calls, c.key = key ∧ ∀ (n : Network) (t : Ticket), n.engine? t.caller = some e' →
      t.key = key → IsSent t n.now c → (n.poll t).1 = .over result

/-- **A response with the id of a pending request decides its call.** -/
theorem Sound.resolves (h : Sound e) (hid : response.id = some id)
    (hp : e.pending.get? id = some key) : Resolves e key response response.result := by
  have hacc : e.accept response = (true, e.delivering id key response) := by
    rcases accept_cases e response with ⟨id', key', hid', hp', heq⟩ | ⟨hnone, -⟩
    · obtain rfl : id = id' := Option.some.inj (hid.symm.trans hid')
      obtain rfl : key = key' := Option.some.inj (hp.symm.trans hp')
      exact heq
    · rw [hnone id hid] at hp
      cases hp
  have hended : ∀ after e', Trace Step (e.accept response).2 after e' →
      ∀ c ending, .ended c ending ∈ after → c.key = key →
        ending.result c = response.result ∨ ∃ reason, ending = .unsent reason := by
    intro after e' ht c ending hmem hk
    rw [hacc] at ht
    rcases (h.settled hp ht).1 c ending hmem hk with ⟨elapsed, rfl⟩ | hunsent
    · exact .inl rfl
    · exact .inr hunsent
  refine ⟨by rw [hacc], hended, fun hout after e' ht c ending hmem hk => ?_, fun after e' ht => ?_⟩
  · rcases hended after e' ht c ending hmem hk with hresult | ⟨reason, rfl⟩
    · exact hresult
    · have hsound := sound_step h (.receive response)
      exact absurd hmem ((hout.step h (.receive response)).not_unsent hsound ht hk)
  · rw [hacc] at ht
    have hsound : Sound e' := (h.delivering hp response).trace ht
    rcases (h.settled hp ht).2 with hover | ⟨c, hc, rfl, hm⟩
    · exact .inl hover
    · exact .inr ⟨c, hc, rfl, fun n t he hkey hsent => poll_of_delivered hsound he hc hkey hm hsent⟩

/-! ## 5. What was replied is what is returned -/

/-- What is sent arrives as a response that makes the call return this result. -/
def Yields (e : Engine) (key : Nat) (sent : Envelope) (result : Except CallError String) : Prop :=
  ∃ response, Envelope.ofWire sent.toWire = .ok response ∧ Resolves e key response result

/-- **The replies to a pending request are told apart** by the call with this key. -/
structure Faithful (e : Engine) (key : Nat) (r : Envelope) : Prop where
  /-- a failure is returned as it was: its kind, its message and its causes -/
  failure : ∀ x, Yields e key (r.replyException x) (.error (.remote x))
  /-- a body that is no object with the mark is returned unchanged -/
  plain : ∀ body, ¬ RemoteException.Marked body → Yields e key (r.reply body) (.ok body)
  /-- a body with the mark is a failure, the one that it describes -/
  decoded : ∀ body x, RemoteException.Marked body →
    RemoteException.decoder.ofText body = .ok x →
      Yields e key (r.reply body) (.error (.remote x))
  /-- or, if it describes none, a failure with the body as its message -/
  undecoded : ∀ body fault, RemoteException.Marked body →
    RemoteException.decoder.ofText body = .error fault →
      Yields e key (r.reply body) (.error (.remote ⟨"Unknown", body, []⟩))
  /-- no answer has the mark -/
  unmarked : ∀ body, AnswerBody body → ¬ RemoteException.Marked body
  /-- what a slave writes when it serves a request is an answer -/
  served : ∀ reader method body answer reader',
    Slave.serve reader method body = .ok (answer, reader') → AnswerBody answer
  /-- what a master replies when it handled a request well is an answer -/
  handled : ∀ (p q : Plugin) (e reply : Envelope) (d : Delivery),
    p.handle e = some (⟨.ok d, some reply⟩, q) → AnswerBody reply.body

/-- **A call returns what was replied to its request**, in every state that an engine may come to. -/
theorem replies_faithful {patience limit : Nat} {evs : List Event}
    (h : Trace Step (new patience limit) evs e) (hid : r.id = some id)
    (hp : e.pending.get? id = some key) : Faithful e key r := by
  have hsound : Sound e := (sound_new patience limit).trace h
  have hyields : ∀ sent : Envelope, sent.id = r.id → Yields e key sent sent.result := by
    intro sent hsent
    exact ⟨sent, sent.ofWire_toWire, hsound.resolves (hsent.trans hid) hp⟩
  refine ⟨fun x => ?_, fun body hbody => ?_, fun body x hbody hx => ?_, fun body fault hbody hx => ?_,
    fun body hbody => RemoteException.not_marked hbody.isMarked,
    fun _ _ _ _ _ hserve => Slave.answerBody_of_serve hserve,
    fun _ _ _ _ _ hhandle => Plugin.answerBody_of_handle hhandle⟩
  · rw [← r.result_replyException x]
    exact hyields (r.replyException x) rfl
  · have hresult : (r.reply body).result = .ok body := Envelope.result_of_unmarked hbody
    rw [← hresult]
    exact hyields (r.reply body) rfl
  · have hresult : (r.reply body).result = .error (.remote x) :=
      Envelope.result_of_decoded hbody hx
    rw [← hresult]
    exact hyields (r.reply body) rfl
  · have hresult : (r.reply body).result = .error (.remote ⟨"Unknown", body, []⟩) :=
      Envelope.result_of_undecoded hbody hx
    rw [← hresult]
    exact hyields (r.reply body) rfl

/-- A request that was sent under the id `a`. -/
def openRequest : Envelope := .request "ping" "" .blank "a"

/-- A failure whose message is itself the body of a failure. -/
def nestedFailure : RemoteException :=
  ⟨"Io", "\x7b\"stackTrace\":[]\x7d", ["caused by \"stackTrace\""]⟩

/-- A call waits, its request sent; the failure it is told about comes back with all its texts. -/
theorem replies_faithful_nested :
    ∃ e, Trace Step (new 50 1) [.started "a" (.ok 0), .sent 0] e ∧ SentOut e 0 ∧
      Faithful e 0 openRequest ∧
      Yields e 0 (openRequest.replyException nestedFailure) (.error (.remote nestedFailure)) := by
  have h₁ : Trace Step (new 50 1) [.started "a" (.ok 0)] _ :=
    .snoc [] _ _ _ .start (.start "a" "ping" 50 0)
  have h₂ : Trace Step (new 50 1) [.started "a" (.ok 0), .sent 0] _ := .snoc _ _ _ _ h₁
    (.sent ⟨0, "a", "ping", 50, 0, .sending, .empty⟩ 10 (List.mem_singleton_self _) rfl)
  have hfaithful : Faithful _ 0 openRequest := replies_faithful h₂ rfl (by decide)
  refine ⟨_, h₂, ⟨by decide, fun c hc _ => ?_⟩, hfaithful, hfaithful.failure nestedFailure⟩
  rw [List.mem_singleton.1 hc]
  exact CallPhase.noConfusion

end Engine

end CardLink
