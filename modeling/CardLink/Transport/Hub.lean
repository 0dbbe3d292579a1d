import CardLink.Error
import CardLink.Metrics
import CardLink.Number.Power
import CardLink.Table

/-!
# A hub that connects nodes

Envelopes travel through a hub as text. A node is attached under its id and gets a queue; texts for
the node go to the end of the queue, and its receiver takes them from the front. Attaching a node
again makes a new queue, and detaching a node only ends the delivery to it: a queue that was left
behind is still emptied by its receiver, which then comes to its end.

Attachments are counted from zero in the order of attaching.
-/

namespace CardLink

/-- One queue of a hub. -/
structure Attachment where
  node : String
  /-- texts that were accepted and not yet taken -/
  queue : List String
  /-- the receiver was stopped by force -/
  aborted : Bool
deriving DecidableEq, Repr

/-- Attachments, and which of them is the current one of a node. -/
structure Hub where
  attachments : List Attachment
  current : Table Nat
  metrics : Metrics

namespace Hub

/-- What the names of the metrics of a hub begin with when nothing else is said. -/
def defaultFamily : String := "loopback"

def new (family : String) : Hub := ⟨[], .empty, .new family⟩

/-- Attaches a node, in place of what was attached under its id before. -/
def attach (node : String) (h : Hub) : Hub :=
  { h with
    attachments := h.attachments ++ [⟨node, [], false⟩]
    current := h.current.insert node h.attachments.length }

def detach (node : String) (h : Hub) : Hub := { h with current := h.current.erase node }

def attachment? (h : Hub) (k : Nat) : Option Attachment := h.attachments[k]?

/-- Changes one attachment. -/
def update (h : Hub) (k : Nat) (f : Attachment → Attachment) : Hub :=
  { h with attachments := h.attachments.modify k f }

/-- Stops the receiver of an attachment. What it had not taken is lost. -/
def abort (k : Nat) (h : Hub) : Hub := h.update k fun a => { a with queue := [], aborted := true }

/-- Puts a text into the queue of a node. -/
def deliver (node wire : String) (h : Hub) : Except TransportError Hub :=
  match h.current.get? node with
  | none => .error (.unknownNode node)
  | some k =>
    match h.attachment? k with
    | none => .error (.unknownNode node)
    | some a =>
      if a.aborted then .error .disconnected
      else
        .ok { h.update k (fun a => { a with queue := a.queue ++ [wire] }) with
          metrics := h.metrics.recordSend wire.utf8ByteSize }

/-- Sends an envelope to a node. -/
def send (target : String) (e : Envelope) (h : Hub) : Except TransportError Unit × Hub :=
  match h.deliver target e.toWire with
  | .ok h => (.ok (), h)
  | .error reason => (.error reason, { h with metrics := h.metrics.recordSendFailure })

/-- Takes the first text out of a queue. -/
def take (k : Nat) (h : Hub) : Option (String × Hub) :=
  match h.attachment? k with
  | some ⟨_, wire :: _, _⟩ =>
    some (wire, { h.update k (fun a => { a with queue := a.queue.tail }) with
      metrics := h.metrics.recordReceive wire.utf8ByteSize })
  | _ => none

/-- The attachment is the one that its node's texts go to. -/
def isCurrent (h : Hub) (k : Nat) : Bool :=
  match h.attachment? k with
  | none => false
  | some a => h.current.get? a.node == some k

/-- The receiver of an attachment has nothing more to do. -/
def isFinished (h : Hub) (k : Nat) : Bool :=
  match h.attachment? k with
  | none => true
  | some a => a.aborted || (a.queue.isEmpty && !h.isCurrent k)

/-- The number of texts that wait in queues. -/
def queued (h : Hub) : Nat := Number.total (h.attachments.map (·.queue.length))

/-! ## Emptying queues -/

/-- Takes up to `n` texts out of a queue. A text that reads as no envelope is passed over. -/
def receive (k : Nat) : Nat → Hub → List Envelope × Hub
  | 0, h => ([], h)
  | n + 1, h =>
    match h.take k with
    | none => ([], h)
    | some (wire, h) =>
      let (es, h) := receive k n h
      match Envelope.ofWire wire with
      | .ok e => (e :: es, h)
      | .error _ => (es, h)

/-- Takes all texts out of all queues; every envelope comes with the number of its attachment. -/
def receiveAll (h : Hub) : List (Nat × Envelope) × Hub :=
  (List.range h.attachments.length).foldl (fun (got, h) k =>
    let (es, h) := h.receive k h.queued
    (got ++ es.map (k, ·), h)) ([], h)

end Hub

end CardLink
