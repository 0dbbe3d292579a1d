import CardLink.Proofs.Envelope.Wire
import CardLink.Proofs.Trace
import CardLink.Transport.Hub

/-!
# What goes through a hub

Nodes are attached to a hub, under one id again and again, and detached; any number of senders send
to them and texts are injected, and in between the receivers take texts out of their queues, each at
its own pace. A text is meant for the attachment that is current when it is accepted, and it stays
in the queue of this attachment until the receiver takes it, whatever becomes of the node meanwhile.

* `Hub.deliver_cases`, `Hub.take_eq`: what the operations do.
* `Hub.Step`: one step of a hub; `Hub.current?`, `Hub.accepted`, `Hub.handed`: what a run tells of
  an attachment.
* `Hub.Carries`: texts that were accepted are taken or wait, and the counters say how many wait.
* **`Hub.carries_of_trace`**: after every run.
* `Hub.receive_trace`: a receiver that goes on takes all that waits for it.

NOT here: receivers that are stopped by force.
-/

namespace CardLink

namespace Hub

/-! ## 1. The operations -/

theorem attachment?_update (h : Hub) (k m : Nat) (f : Attachment → Attachment) :
    (h.update k f).attachment? m = (h.attachment? m).map fun a => if k = m then f a else a := by
  show (h.attachments.modify k f)[m]? = (h.attachments[m]?).map _
  rw [List.getElem?_modify]
  cases h.attachments[m]? with
  | none => rfl
  | some a => by_cases hkm : k = m <;> simp [hkm]

/-- The texts that the receiver of an attachment has not taken yet. -/
def queue (h : Hub) (k : Nat) : List String := ((h.attachment? k).map (·.queue)).getD []

/-- The bytes of all texts that wait. -/
def queuedBytes (h : Hub) : Nat :=
  Number.total (h.attachments.map fun a => Number.total (a.queue.map (·.utf8ByteSize)))

/-- The hub with one queue changed, and other counts. -/
def requeue (h : Hub) (k : Nat) (f : List String → List String) (metrics : Metrics) : Hub :=
  { h.update k (fun a => { a with queue := f a.queue }) with metrics := metrics }

section Operations

variable {h h' : Hub} {a : Attachment} {k m : Nat} {node wire : String}

theorem queue_of_attachment (ha : h.attachment? k = some a) : h.queue k = a.queue := by
  unfold queue
  rw [ha]
  rfl

/-- **A text comes into the queue of the node's attachment**, or the node has none. -/
theorem deliver_cases (hthere : ∀ k, h.current.get? node = some k →
      ∃ a, h.attachment? k = some a ∧ a.aborted = false) :
    (h.current.get? node = none ∧ h.deliver node wire = .error (.unknownNode node)) ∨
    (∃ k a, h.current.get? node = some k ∧ h.attachment? k = some a ∧
      h.deliver node wire =
        .ok (h.requeue k (· ++ [wire]) (h.metrics.recordSend wire.utf8ByteSize))) := by
  unfold deliver
  cases hk : h.current.get? node with
  | none => exact .inl ⟨rfl, rfl⟩
  | some k =>
    obtain ⟨a, ha, hopen⟩ := hthere k hk
    exact .inr ⟨k, a, rfl, ha, by simp only [ha, hopen]; rfl⟩

/-- **The first text of a queue is taken.** -/
theorem take_eq (htake : h.take k = some (wire, h')) :
    ∃ a, h.attachment? k = some a ∧ a.queue = wire :: a.queue.tail ∧
      h' = { h.update k (fun a => { a with queue := a.queue.tail }) with
        metrics := h.metrics.recordReceive wire.utf8ByteSize } := by
  unfold Hub.take at htake
  split at htake
  · rename_i ha
    cases htake
    exact ⟨_, ha, rfl, rfl⟩
  · cases htake

/-- A receiver can go on while a text waits. -/
theorem take_of_queue {rest : List String} (hqueue : h.queue k = wire :: rest) :
    h.take k =
      some (wire, h.requeue k List.tail (h.metrics.recordReceive wire.utf8ByteSize)) := by
  unfold queue at hqueue
  unfold Hub.take
  cases ha : h.attachment? k with
  | none => simp [ha] at hqueue
  | some a =>
    obtain ⟨node, texts, aborted⟩ := a
    obtain rfl : texts = wire :: rest := by simpa [ha] using hqueue
    rfl

/-- Only the one queue is another one. -/
theorem queue_requeue (ha : h.attachment? k = some a) (f : List String → List String)
    (metrics : Metrics) (m : Nat) :
    (h.requeue k f metrics).queue m = if k = m then f (h.queue m) else h.queue m := by
  have hm : (h.requeue k f metrics).attachment? m = _ := attachment?_update h k m _
  unfold queue
  rw [hm]
  by_cases hkm : k = m
  · subst hkm
    rw [if_pos rfl, ha]
    simp
  · simp [hkm]

end Operations

/-! ### Sums over the attachments -/

section Sums

variable {h : Hub} {a : Attachment} {k : Nat}

theorem total_modify {α : Type} (w : α → Nat) (g : α → α) {l : List α} {k : Nat} {x : α}
    (hx : l[k]? = some x) :
    Number.total ((l.modify k g).map w) + w x = Number.total (l.map w) + w (g x) := by
  have hset : (l.modify k g).map w = (l.map w).set k (w (g x)) := by
    rw [← List.map_set]
    refine congrArg _ (List.ext_getElem? fun j => ?_)
    rw [List.getElem?_modify, List.getElem?_set]
    by_cases hkj : k = j
    · have hlt : k < l.length := (List.getElem?_eq_some_iff.1 hx).1
      rw [← hkj, hx, if_pos rfl, if_pos hlt]
      exact congrArg some (if_pos rfl)
    · simp [hkj]
  rw [hset]
  exact Number.total_set (by rw [List.getElem?_map, hx]; rfl) _

/-- One text more waits. -/
theorem queued_enqueue (ha : h.attachment? k = some a) (wire : String) (metrics : Metrics) :
    (h.requeue k (· ++ [wire]) metrics).queued = h.queued + 1 ∧
      (h.requeue k (· ++ [wire]) metrics).queuedBytes = h.queuedBytes + wire.utf8ByteSize := by
  let grow : Attachment → Attachment := fun a => { a with queue := a.queue ++ [wire] }
  have hcount := total_modify (fun a : Attachment => a.queue.length) grow ha
  have hbytes := total_modify
    (fun a : Attachment => Number.total (a.queue.map (·.utf8ByteSize))) grow ha
  have hlength : (grow a).queue.length = a.queue.length + 1 := List.length_append
  have hsize : Number.total ((grow a).queue.map (·.utf8ByteSize)) =
      Number.total (a.queue.map (·.utf8ByteSize)) + wire.utf8ByteSize := by
    show Number.total ((a.queue ++ [wire]).map _) = _
    rw [List.map_append, Number.total_append]
    rfl
  constructor
  · show Number.total ((h.attachments.modify k grow).map _) = Number.total _ + 1
    omega
  · show Number.total ((h.attachments.modify k grow).map _) = Number.total _ + _
    omega

/-- One text less waits. -/
theorem queued_dequeue (ha : h.attachment? k = some a) {wire : String} {rest : List String}
    (hqueue : a.queue = wire :: rest) (metrics : Metrics) :
    h.queued = (h.requeue k List.tail metrics).queued + 1 ∧
      h.queuedBytes = (h.requeue k List.tail metrics).queuedBytes + wire.utf8ByteSize := by
  let shrink : Attachment → Attachment := fun a => { a with queue := a.queue.tail }
  have hcount := total_modify (fun a : Attachment => a.queue.length) shrink ha
  have hbytes := total_modify
    (fun a : Attachment => Number.total (a.queue.map (·.utf8ByteSize))) shrink ha
  have hlength : a.queue.length = (shrink a).queue.length + 1 := by
    show a.queue.length = a.queue.tail.length + 1
    rw [hqueue]
    rfl
  have hsize : Number.total (a.queue.map (·.utf8ByteSize)) =
      Number.total ((shrink a).queue.map (·.utf8ByteSize)) + wire.utf8ByteSize := by
    show _ = Number.total (a.queue.tail.map _) + _
    rw [hqueue]
    exact Nat.add_comm _ _
  constructor
  · show Number.total _ = Number.total ((h.attachments.modify k shrink).map _) + 1
    omega
  · show Number.total _ = Number.total ((h.attachments.modify k shrink).map _) + _
    omega

end Sums

/-! ## 2. Steps -/

/-- What is done to a hub, and how it ended. -/
inductive Event where
  | attached (node : String)
  | detached (node : String)
  | sent (target : String) (e : Envelope) (result : Except TransportError Unit)
  | injected (node wire : String) (result : Except TransportError Unit)
  /-- the receiver of an attachment took a text -/
  | took (k : Nat) (wire : String)

/-- What an operation leaves behind: one that fails leaves the hub as it was. -/
def after (h : Hub) : Except TransportError Hub → Hub
  | .ok h' => h'
  | .error _ => h

/-- **One step of a hub.** -/
inductive Step (h : Hub) : Event → Hub → Prop where
  | attach (node : String) : Step h (.attached node) (h.attach node)
  | detach (node : String) : Step h (.detached node) (h.detach node)
  | send (target : String) (e : Envelope) :
      Step h (.sent target e (h.send target e).1) (h.send target e).2
  | inject (node wire : String) :
      Step h (.injected node wire ((h.deliver node wire).map fun _ => ()))
        (h.after (h.deliver node wire))
  | take (k : Nat) (wire : String) (h' : Hub) (htake : h.take k = some (wire, h')) :
      Step h (.took k wire) h'

/-! ## 3. What a run tells -/

/-- What was put into a queue: an envelope of a sender, or a text as it is. -/
inductive Load where
  | envelope (e : Envelope)
  | text (wire : String)

namespace Load

/-- The form in which it waits. -/
def wire : Load → String
  | .envelope e => e.toWire
  | .text wire => wire

/-- The envelope that the receiver is handed; a malformed text has none. -/
def content? : Load → Option Envelope
  | .envelope e => some e
  | .text wire => (Envelope.ofWire wire).toOption

end Load

/-- The number of attachments so far, and the one that is current for a node. -/
def place (node : String) : Nat × Option Nat → Event → Nat × Option Nat
  | (n, c), .attached name => (n + 1, if name = node then some n else c)
  | (n, c), .detached name => (n, if name = node then none else c)
  | s, _ => s

/-- The number of attachments so far, and the one that is current for a node, after these events. -/
def placed (node : String) (evs : List Event) : Nat × Option Nat := evs.foldl (place node) (0, none)

/-- **The attachment that texts for a node go to**: the last one under its id, unless the node was
detached since. -/
def current? (node : String) (evs : List Event) : Option Nat := (placed node evs).2

/-- What an event puts into the queue of an attachment, if it does. -/
def load? (k : Nat) (before : List Event) : Event → Option Load
  | .sent target e (.ok ()) => if current? target before = some k then some (.envelope e) else none
  | .injected node wire (.ok ()) =>
    if current? node before = some k then some (.text wire) else none
  | _ => none

/-- What was accepted for an attachment in the later of two parts of a run. -/
def acceptedIn (k : Nat) (before : List Event) : List Event → List Load
  | [] => []
  | ev :: rest => (load? k before ev).toList ++ acceptedIn k (before ++ [ev]) rest

/-- **What was accepted for a node while this attachment was its current one**, in order. -/
def accepted (k : Nat) (evs : List Event) : List Load := acceptedIn k [] evs

/-- The texts that the receiver of an attachment took, in order. -/
def taken (k : Nat) (evs : List Event) : List String :=
  evs.filterMap fun
    | .took j wire => if j = k then some wire else none
    | _ => none

/-- The envelope in a text, if it is well-formed. -/
def readable? (wire : String) : Option Envelope := (Envelope.ofWire wire).toOption

/-- **The envelopes that the receiver of an attachment was handed**, in order. -/
def handed (k : Nat) (evs : List Event) : List Envelope := (taken k evs).filterMap readable?

section History

variable {k : Nat} {node wire : String} {before evs evs' : List Event} {ev : Event}

/-- **What is handed over is what was sent**: an envelope reads back as it was. -/
theorem Load.readable?_wire (l : Load) : readable? l.wire = l.content? := by
  cases l with
  | envelope e =>
    show (Envelope.ofWire e.toWire).toOption = some e
    rw [Envelope.ofWire_toWire]
    rfl
  | text wire => rfl

theorem readable_wires (ls : List Load) :
    (ls.map Load.wire).filterMap readable? = ls.filterMap Load.content? := by
  rw [List.filterMap_map]
  exact congrArg (List.filterMap · ls) (funext Load.readable?_wire)

theorem placed_concat : placed node (evs ++ [ev]) = place node (placed node evs) ev := by
  unfold placed
  rw [List.foldl_append]
  rfl

theorem acceptedIn_append : acceptedIn k before (evs ++ evs') =
    acceptedIn k before evs ++ acceptedIn k (before ++ evs) evs' := by
  induction evs generalizing before with
  | nil => rw [List.append_nil]; rfl
  | cons ev evs ih =>
    show _ ++ acceptedIn k (before ++ [ev]) (evs ++ evs') = _
    rw [ih, ← List.append_assoc, List.append_assoc before]
    rfl

theorem accepted_append : accepted k (evs ++ evs') = accepted k evs ++ acceptedIn k evs evs' :=
  acceptedIn_append

theorem accepted_concat : accepted k (evs ++ [ev]) = accepted k evs ++ (load? k evs ev).toList := by
  rw [accepted_append]
  exact congrArg _ (List.append_nil _)

theorem taken_append : taken k (evs ++ evs') = taken k evs ++ taken k evs' :=
  List.filterMap_append

theorem taken_concat_of_ne (hne : ∀ wire, ev ≠ .took k wire) :
    taken k (evs ++ [ev]) = taken k evs := by
  rw [taken_append]
  refine (congrArg _ ?_).trans (List.append_nil _)
  cases ev with
  | took j wire =>
    have hjk : j ≠ k := fun hjk => hne wire (by rw [hjk])
    simp [taken, hjk]
  | _ => rfl

theorem handed_append : handed k (evs ++ evs') = handed k evs ++ handed k evs' := by
  unfold handed
  rw [taken_append, List.filterMap_append]

end History

/-! ## 4. The invariant -/

/-- **The hub carries what it accepted**: of each attachment it was taken or waits, in order; and
the counters differ by what waits. -/
structure Carries (evs : List Event) (h : Hub) : Prop where
  placed : ∀ node, placed node evs = (h.attachments.length, h.current.get? node)
  there : ∀ node k, h.current.get? node = some k →
    ∃ a, h.attachment? k = some a ∧ a.aborted = false
  queues : ∀ k, (accepted k evs).map Load.wire = taken k evs ++ h.queue k
  texts : h.metrics.envelopesSent = h.metrics.envelopesReceived + UInt64.ofNat h.queued
  bytes : h.metrics.bytesSent = h.metrics.bytesReceived + UInt64.ofNat h.queuedBytes

section Carries

variable {evs : List Event} {ev : Event} {h h' : Hub} {a : Attachment} {k : Nat}
  {node wire family : String}

theorem carries_new (family : String) : Carries [] (new family) where
  placed node := rfl
  there node k hk := by cases hk
  queues k := rfl
  texts := rfl
  bytes := rfl

theorem Carries.current (hc : Carries evs h) (node : String) :
    current? node evs = h.current.get? node :=
  congrArg Prod.snd (hc.placed node)

/-- Texts for a node are accepted while it is attached, and only then. -/
theorem Carries.deliver_cases (hc : Carries evs h) (node wire : String) :
    (current? node evs = none ∧ h.deliver node wire = .error (.unknownNode node)) ∨
    (∃ k a, current? node evs = some k ∧ h.attachment? k = some a ∧
      h.deliver node wire =
        .ok (h.requeue k (· ++ [wire]) (h.metrics.recordSend wire.utf8ByteSize))) := by
  rw [hc.current]
  exact Hub.deliver_cases (hc.there node)

/-- An event that changes nothing but counts of failures. -/
theorem Carries.idle (hc : Carries evs h) (hplace : ∀ node s, place node s ev = s)
    (hload : ∀ k, load? k evs ev = none) (htook : ∀ k wire, ev ≠ .took k wire) {failures : UInt64} :
    Carries (evs ++ [ev]) { h with metrics := { h.metrics with sendFailures := failures } } where
  placed node := by rw [placed_concat, hplace, hc.placed]
  there := hc.there
  queues k := by
    rw [accepted_concat, hload, taken_concat_of_ne (htook k)]
    exact (congrArg _ (List.append_nil _)).trans (hc.queues k)
  texts := hc.texts
  bytes := hc.bytes

/-- Attachments that there are keep their queues when one is added. -/
theorem queue_attach (h : Hub) (node : String) (k : Nat) : (h.attach node).queue k = h.queue k := by
  show ((h.attachments ++ [⟨node, [], false⟩])[k]?.map _).getD [] =
    ((h.attachments[k]?).map _).getD []
  by_cases hlt : k < h.attachments.length
  · rw [List.getElem?_append_left hlt]
  · rw [List.getElem?_append_right (Nat.le_of_not_lt hlt),
      List.getElem?_eq_none (Nat.le_of_not_lt hlt)]
    cases k - h.attachments.length with
    | zero => rfl
    | succ j => rfl

theorem Carries.attach (hc : Carries evs h) (node : String) :
    Carries (evs ++ [.attached node]) (h.attach node) where
  placed name := by
    rw [placed_concat, hc.placed]
    show (_, _) = ((h.attachments ++ [_]).length, (h.current.insert node _).get? name)
    rw [List.length_append, Table.get?_insert]
    by_cases hname : node = name
    · simp [hname]
    · simp [hname, Ne.symm hname]
  there name k hk := by
    have hk' : (h.current.insert node h.attachments.length).get? name = some k := hk
    rw [Table.get?_insert] at hk'
    split at hk'
    · obtain rfl := Option.some.inj hk'
      exact ⟨⟨node, [], false⟩, List.getElem?_concat_length, rfl⟩
    · obtain ⟨a, ha, hopen⟩ := hc.there name k hk'
      refine ⟨a, ?_, hopen⟩
      show (h.attachments ++ [_])[k]? = some a
      rw [List.getElem?_append_left (List.getElem?_eq_some_iff.1 ha).1]
      exact ha
  queues k := by
    rw [accepted_concat, taken_concat_of_ne fun _ => Event.noConfusion, queue_attach]
    exact (congrArg _ (List.append_nil _)).trans (hc.queues k)
  texts := by
    have hqueued : (h.attach node).queued = h.queued := by
      show Number.total ((h.attachments ++ [_]).map _) = _
      rw [List.map_append, Number.total_append]
      rfl
    rw [hqueued]
    exact hc.texts
  bytes := by
    have hqueued : (h.attach node).queuedBytes = h.queuedBytes := by
      show Number.total ((h.attachments ++ [_]).map _) = _
      rw [List.map_append, Number.total_append]
      rfl
    rw [hqueued]
    exact hc.bytes

/-- A node that is detached leaves its queues behind as they are. -/
theorem Carries.detach (hc : Carries evs h) (node : String) :
    Carries (evs ++ [.detached node]) (h.detach node) where
  placed name := by
    rw [placed_concat, hc.placed]
    show (_, _) = (h.attachments.length, (h.current.erase node).get? name)
    rw [Table.get?_erase]
    by_cases hname : node = name
    · simp [hname]
    · simp [hname, Ne.symm hname]
  there name k hk := by
    have hk' : (h.current.erase node).get? name = some k := hk
    rw [Table.get?_erase] at hk'
    split at hk'
    · cases hk'
    · exact hc.there name k hk'
  queues k := by
    rw [accepted_concat, taken_concat_of_ne fun _ => Event.noConfusion]
    exact (congrArg _ (List.append_nil _)).trans (hc.queues k)
  texts := hc.texts
  bytes := hc.bytes

theorem Carries.there_requeue (hc : Carries evs h) (f : List String → List String)
    (metrics : Metrics) {name : String} {m : Nat} (hm : h.current.get? name = some m) :
    ∃ a, (h.requeue k f metrics).attachment? m = some a ∧ a.aborted = false := by
  obtain ⟨a, ha, hopen⟩ := hc.there name m hm
  have hupdated : (h.requeue k f metrics).attachment? m = _ := attachment?_update h k m _
  rw [ha] at hupdated
  refine ⟨_, hupdated, ?_⟩
  split
  · exact hopen
  · exact hopen

/-- **A text is accepted**, and waits behind those that came before. -/
theorem Carries.enqueue (hc : Carries evs h) (load : Load) (ha : h.attachment? k = some a)
    (hplace : ∀ node s, place node s ev = s)
    (hload : ∀ m, load? m evs ev = if k = m then some load else none)
    (htook : ∀ m wire, ev ≠ .took m wire) :
    Carries (evs ++ [ev]) (h.requeue k (· ++ [load.wire])
      (h.metrics.recordSend load.wire.utf8ByteSize)) where
  placed node := by
    rw [placed_concat, hplace, hc.placed]
    exact congrArg (·, _) (List.length_modify ..).symm
  there name m hm := hc.there_requeue _ _ hm
  queues m := by
    rw [accepted_concat, hload, taken_concat_of_ne (htook m), queue_requeue ha]
    by_cases hkm : k = m
    · simp [hkm, hc.queues m]
    · simpa [hkm] using hc.queues m
  texts := by
    rw [(queued_enqueue ha _ _).1, UInt64.ofNat_add]
    show h.metrics.envelopesSent + 1 = h.metrics.envelopesReceived + _
    rw [hc.texts, UInt64.add_assoc]
    rfl
  bytes := by
    rw [(queued_enqueue ha _ _).2, UInt64.ofNat_add]
    show h.metrics.bytesSent + _ = h.metrics.bytesReceived + _
    rw [hc.bytes, UInt64.add_assoc]

/-- **The first text that waits is taken.** -/
theorem Carries.dequeue (hc : Carries evs h) (htake : h.take k = some (wire, h')) :
    Carries (evs ++ [.took k wire]) h' := by
  obtain ⟨a, ha, hqueue, rfl⟩ := take_eq htake
  have htaken : ∀ m, taken m (evs ++ [.took k wire]) =
      if k = m then taken m evs ++ [wire] else taken m evs := by
    intro m
    rw [taken_append]
    by_cases hkm : k = m <;> simp [taken, hkm]
  obtain ⟨hcount, hbytes⟩ :=
    queued_dequeue ha hqueue (h.metrics.recordReceive wire.utf8ByteSize)
  change Carries _ (h.requeue k List.tail (h.metrics.recordReceive wire.utf8ByteSize))
  constructor
  · intro node
    rw [placed_concat, hc.placed]
    exact congrArg (·, _) (List.length_modify ..).symm
  · intro name m hm
    exact hc.there_requeue _ _ hm
  · intro m
    rw [accepted_concat, htaken, queue_requeue ha]
    refine (congrArg _ (List.append_nil _)).trans ((hc.queues m).trans ?_)
    by_cases hkm : k = m
    · subst hkm
      rw [if_pos rfl, if_pos rfl, queue_of_attachment ha, List.append_assoc, hqueue]
      rfl
    · rw [if_neg hkm, if_neg hkm]
  · show h.metrics.envelopesSent = h.metrics.envelopesReceived + 1 + _
    rw [hc.texts, hcount, UInt64.ofNat_add, UInt64.add_assoc, UInt64.add_comm 1]
    rfl
  · show h.metrics.bytesSent = h.metrics.bytesReceived + _ + _
    rw [hc.bytes, hbytes, UInt64.ofNat_add, UInt64.add_assoc, UInt64.add_comm (UInt64.ofNat _)]

/-- **One step keeps the invariant.** -/
theorem carries_step (hc : Carries evs h) (hs : Step h ev h') : Carries (evs ++ [ev]) h' := by
  cases hs with
  | attach node => exact hc.attach node
  | detach node => exact hc.detach node
  | send target e =>
    rcases hc.deliver_cases target e.toWire with ⟨-, heq⟩ | ⟨k, a, hk, ha, heq⟩
    · have hsend : h.send target e = (.error (.unknownNode target),
          { h with metrics := h.metrics.recordSendFailure }) := by rw [send, heq]
      rw [hsend]
      exact hc.idle (fun _ _ => rfl) (fun _ => rfl) fun _ _ => Event.noConfusion
    · have hsend : h.send target e = (.ok (), h.requeue k (· ++ [e.toWire])
          (h.metrics.recordSend e.toWire.utf8ByteSize)) := by rw [send, heq]
      rw [hsend]
      refine hc.enqueue (.envelope e) ha (fun _ _ => rfl) (fun m => ?_)
        fun _ _ => Event.noConfusion
      rw [load?, hk]
      simp
  | inject node wire =>
    rcases hc.deliver_cases node wire with ⟨-, heq⟩ | ⟨k, a, hk, ha, heq⟩
    · rw [heq]
      exact hc.idle (fun _ _ => rfl) (fun _ => rfl) fun _ _ => Event.noConfusion
    · rw [heq]
      refine hc.enqueue (.text wire) ha (fun _ _ => rfl) (fun m => ?_)
        fun _ _ => Event.noConfusion
      show (if current? node evs = some m then some (Load.text wire) else none) = _
      rw [hk]
      simp
  | take k wire h' htake => exact hc.dequeue htake

/-- **After every run.** -/
theorem carries_of_trace (h : Trace Step (new family) evs h') : Carries evs h' :=
  h.invariant (carries_new family) fun _ _ _ _ _ hc hs => carries_step hc hs

/-! ## 5. Queues that are worked off -/

theorem take_of_empty (hqueue : h.queue k = []) : h.take k = none := by
  cases htake : h.take k with
  | none => rfl
  | some got =>
    obtain ⟨wire, h'⟩ := got
    obtain ⟨a, ha, hfirst, -⟩ := take_eq htake
    rw [queue_of_attachment ha, hfirst] at hqueue
    cases hqueue

theorem queue_le_queued (h : Hub) (k : Nat) : (h.queue k).length ≤ h.queued := by
  cases ha : h.attachment? k with
  | none =>
    rw [queue, ha]
    exact Nat.zero_le _
  | some a =>
    have hwithout : _ + a.queue.length = h.queued + 0 :=
      total_modify (fun a : Attachment => a.queue.length) (fun a => { a with queue := [] }) ha
    rw [queue_of_attachment ha]
    omega

/-- A text that reads as no envelope is passed over. -/
theorem receive_succ (htake : h.take k = some (wire, h')) (n : Nat) :
    h.receive k (n + 1) =
      ((readable? wire).toList ++ (h'.receive k n).1, (h'.receive k n).2) := by
  rw [receive, htake, readable?]
  dsimp only
  cases Envelope.ofWire wire with
  | ok e => rfl
  | error fault => rfl

/-- **A receiver takes the texts that wait for it**, one after the other, and is handed those that
are well-formed. -/
theorem receive_trace (h : Hub) (k n : Nat) :
    ∃ later, Trace Step h later (h.receive k n).2 ∧ (∀ ev ∈ later, ∃ wire, ev = .took k wire) ∧
      taken k later = (h.queue k).take n ∧ handed k later = (h.receive k n).1 := by
  have hnothing : (∀ ev ∈ ([] : List Event), ∃ wire, ev = .took k wire) :=
    fun _ hev => absurd hev List.not_mem_nil
  induction n generalizing h with
  | zero => exact ⟨[], .start, hnothing, rfl, rfl⟩
  | succ n ih =>
    cases hqueue : h.queue k with
    | nil =>
      refine ⟨[], ?_, hnothing, rfl, ?_⟩
      · rw [receive, take_of_empty hqueue]
        exact .start
      · rw [receive, take_of_empty hqueue]
        rfl
    | cons wire rest =>
      have htake := take_of_queue hqueue
      obtain ⟨a, ha, -, -⟩ := take_eq htake
      have hrest : (h.requeue k List.tail (h.metrics.recordReceive wire.utf8ByteSize)).queue k =
          rest := by
        rw [queue_requeue ha, if_pos rfl, hqueue]
        rfl
      obtain ⟨later, htrace, honly, htaken, hhanded⟩ :=
        ih (h.requeue k List.tail (h.metrics.recordReceive wire.utf8ByteSize))
      have hfirst : Trace Step h [.took k wire] _ := .snoc [] _ _ _ .start (.take k wire _ htake)
      have hone : taken k [.took k wire] = [wire] := by simp [taken]
      refine ⟨[.took k wire] ++ later, ?_, fun ev hev => ?_, ?_, ?_⟩
      · rw [receive_succ htake]
        exact hfirst.append htrace
      · rcases List.mem_append.1 hev with hev | hev
        · exact ⟨wire, List.mem_singleton.1 hev⟩
        · exact honly ev hev
      · rw [taken_append, htaken, hrest, hone]
        rfl
      · rw [handed_append, hhanded, receive_succ htake, handed, hone]
        cases hread : readable? wire <;> simp [hread]

end Carries

end Hub

end CardLink
