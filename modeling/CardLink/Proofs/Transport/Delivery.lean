import CardLink.Proofs.Transport.Run

/-!
# A hub delivers in order

In every run of a hub the receiver of an attachment is handed the envelopes that were accepted for
its node while the attachment was the current one: in the order in which they were accepted, each of
them once, and equal to what was sent. A text that reads as no envelope is passed over, and those
before and behind it are handed over all the same. A node that is attached anew gets a queue of its
own, and the receiver of the old one still works off what was accepted for it.

* `Hub.Conveys`: what is handed over, what waits, and what the counters say.
* **`Hub.conveys_in_order`**: after every run.

NOT here: receivers that are stopped by force, and whether what waits when a node is detached should
be handed over.
-/

namespace CardLink

namespace Hub

/-- **A hub conveys what it accepts**, after a run with these events. -/
structure Conveys (evs : List Event) (h : Hub) : Prop where
  /-- what was accepted has been handed over or waits, in order; malformed texts are left out -/
  inOrder : ∀ k,
    (accepted k evs).filterMap Load.content? = handed k evs ++ (h.queue k).filterMap readable?
  /-- a receiver that goes on as long as there are texts is handed all the rest -/
  complete : ∀ k,
    (accepted k evs).filterMap Load.content? = handed k evs ++ (h.receive k h.queued).1
  /-- the counters of texts differ by the number of texts that wait -/
  texts : h.metrics.envelopesSent = h.metrics.envelopesReceived + UInt64.ofNat h.queued
  /-- the counters of bytes differ by the size of these texts -/
  bytes : h.metrics.bytesSent = h.metrics.bytesReceived + UInt64.ofNat h.queuedBytes
  /-- what is sent to a node that is attached is accepted, for its current attachment -/
  known : ∀ target k, current? target evs = some k →
    (∀ e, (h.send target e).1 = .ok () ∧
      (h.send target e).2.queue k = h.queue k ++ [e.toWire]) ∧
    ∀ wire, ∃ h', h.deliver target wire = .ok h' ∧ h'.queue k = h.queue k ++ [wire]
  /-- and to a node that is not attached nothing is sent, which is counted as a failure -/
  unknown : ∀ target, current? target evs = none →
    (∀ e, h.send target e = (.error (.unknownNode target),
      { h with metrics := { h.metrics with sendFailures := h.metrics.sendFailures + 1 } })) ∧
    ∀ wire, h.deliver target wire = .error (.unknownNode target)

section Delivery

variable {evs : List Event} {h : Hub} {k : Nat} {family : String}

theorem Carries.inOrder (hc : Carries evs h) (k : Nat) :
    (accepted k evs).filterMap Load.content? = handed k evs ++ (h.queue k).filterMap readable? := by
  rw [← readable_wires, hc.queues, List.filterMap_append]
  rfl

theorem received (h : Hub) (k : Nat) :
    (h.receive k h.queued).1 = (h.queue k).filterMap readable? := by
  obtain ⟨later, -, -, htaken, hhanded⟩ := receive_trace h k h.queued
  rw [← hhanded, handed, htaken, List.take_of_length_le (queue_le_queued h k)]

theorem Carries.known (hc : Carries evs h) {target : String} (hk : current? target evs = some k)
    (wire : String) :
    ∃ h', h.deliver target wire = .ok h' ∧ h'.queue k = h.queue k ++ [wire] := by
  rcases hc.deliver_cases target wire with ⟨hnone, -⟩ | ⟨k', a, hk', ha, hdeliver⟩
  · rw [hk] at hnone
    cases hnone
  · obtain rfl : k = k' := Option.some.inj (hk.symm.trans hk')
    refine ⟨_, hdeliver, ?_⟩
    rw [queue_requeue ha, if_pos rfl]

theorem Carries.unknown (hc : Carries evs h) {target : String} (hk : current? target evs = none)
    (wire : String) : h.deliver target wire = .error (.unknownNode target) := by
  rcases hc.deliver_cases target wire with ⟨-, hdeliver⟩ | ⟨k, a, hk', -⟩
  · exact hdeliver
  · rw [hk] at hk'
    cases hk'

/-- **A hub delivers in order, without loss or duplication, and its counters balance.** Whatever is
attached, replaced, sent, injected and taken, in any order. -/
theorem conveys_in_order (h : Hub) (htrace : Trace Step (new family) evs h) : Conveys evs h := by
  have hc := carries_of_trace htrace
  refine ⟨hc.inOrder, fun k => ?_, hc.texts, hc.bytes, fun target k hk => ⟨fun e => ?_, ?_⟩,
    fun target hk => ⟨fun e => ?_, hc.unknown hk⟩⟩
  · rw [received]
    exact hc.inOrder k
  · obtain ⟨h', hdeliver, hqueue⟩ := hc.known hk e.toWire
    rw [send, hdeliver]
    exact ⟨rfl, hqueue⟩
  · exact hc.known hk
  · rw [send, hc.unknown hk]
    rfl

end Delivery

/-! ## A queue beside another one of the same node -/

/-- A note of a slave to its master. -/
def note (body : String) : Envelope := .notification "readerEvent" body .blank

/-- A node is attached anew while a note and a malformed text wait for it; then the newer queue is
worked off before the older one, and a note sets out for a node that nobody knows. -/
def replacement : List Event :=
  [.attached "M", .sent "M" (note "1") (.ok ()), .injected "M" "?" (.ok ()),
   .attached "M", .sent "M" (note "2") (.ok ()),
   .took 1 (note "2").toWire, .took 0 (note "1").toWire, .took 0 "?",
   .sent "S" (note "3") (.error (.unknownNode "S"))]

theorem conveys_in_order_replacement :
    ∃ h, Trace Step (new defaultFamily) replacement h ∧ Conveys replacement h := by
  have h₁ : Trace Step (new defaultFamily) [.attached "M"] _ := .snoc [] _ _ _ .start (.attach "M")
  have h₂ := Trace.snoc _ _ _ _ h₁ (.send "M" (note "1"))
  have h₃ := Trace.snoc _ _ _ _ h₂ (.inject "M" "?")
  have h₄ := Trace.snoc _ _ _ _ h₃ (.attach "M")
  have h₅ := Trace.snoc _ _ _ _ h₄ (.send "M" (note "2"))
  have h₆ := Trace.snoc _ _ _ _ h₅ (.take 1 (note "2").toWire _ rfl)
  have h₇ := Trace.snoc _ _ _ _ h₆ (.take 0 (note "1").toWire _ rfl)
  have h₈ := Trace.snoc _ _ _ _ h₇ (.take 0 "?" _ rfl)
  have h₉ : Trace Step (new defaultFamily) replacement _ :=
    Trace.snoc _ _ _ _ h₈ (.send "S" (note "3"))
  exact ⟨_, h₉, conveys_in_order _ h₉⟩

end Hub

end CardLink
