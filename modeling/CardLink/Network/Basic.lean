import CardLink.Agenda
import CardLink.Node.Dispatch
import CardLink.Slave.Basic
import CardLink.Transport.Hub
import CardLink.Transport.Outbox

/-!
# A network in virtual time

A network is what a test of a node needs around it: the node itself, slaves, a bare engine for calls
without a reader, the link that carries envelopes, and the tasks in progress. The link is either an
outbox, which only records, or a hub, which delivers.

This module holds the parts and the access to them; `Network.Call` runs calls, `Network.Run` all
tasks.
-/

namespace CardLink

/-- What carries envelopes. -/
inductive Link where
  | outbox (o : Outbox)
  | hub (h : Hub)

/-- Whose engine a call runs on. -/
inductive Caller where
  /-- the bare engine -/
  | client
  /-- the virtual reader with this number -/
  | reader (n : Nat)
  /-- the slave with this number -/
  | slave (n : Nat)
deriving DecidableEq, Repr

/-- What the result of a call is for. -/
inductive Purpose where
  | text
  | operation (op : ReaderOperation)
  | connect (native : String)
  | disconnect (native : String)
deriving DecidableEq, Repr

/-- A call under way. -/
structure Ticket where
  caller : Caller
  key : Nat
  target : String
  request : Envelope
  /-- when the sending of the request will be over -/
  sendingUntil : Option Nat
deriving DecidableEq, Repr

/-- Who takes the texts of an attachment. -/
inductive Receiver where
  | master
  | slave (n : Nat)
deriving DecidableEq, Repr

/-- What a task does. -/
inductive Job where
  | call (ticket : Ticket) (purpose : Purpose)
  /-- runs the monitor with this number -/
  | monitor (m : Nat) (poll : Option Ticket)
  /-- takes texts out of a queue of the hub -/
  | pump (k : Nat) (receiver : Receiver)
  /-- sends the response of a slave, after so many milliseconds -/
  | respond (delay : Nat) (target : String) (response : Envelope)
  /-- waits until so many envelopes were recorded -/
  | wait (count : Nat)
deriving DecidableEq, Repr

/-- What a task came to. -/
inductive Result where
  | text (r : Except CallError String)
  | answer (r : Except ReaderError ReaderAnswer)
  | connected (r : Except SlaveError String)
  | disconnected (r : Except SlaveError Unit)
  | sent (es : List Envelope)

/-- An engine for calls without a reader. -/
structure Client where
  engine : Engine
  metrics : Option Metrics

/-- An engine that admits no call. -/
def Client.idle : Client := ⟨.new 0 0, none⟩

/-- All parts of a test. -/
structure Network where
  agenda : Agenda Job
  link : Link
  node : Node
  slaves : List Slave
  client : Client
  /-- readers that the application holds on to, by the name it gave them -/
  kept : Table Nat
  /-- the source of the ids that are made up for calls -/
  callIds : Nat → String
  /-- number of ids that were made up for calls -/
  freshIds : Nat
  /-- the results of tasks that ended, by task -/
  results : List (Nat × Result)

namespace Network

/-- A network with nothing under way; ids for calls will be drawn from this source. -/
def new (callIds : Nat → String) (link : Link) (node : Node) (client : Client) : Network :=
  ⟨.empty, link, node, [], client, .empty, callIds, 0, []⟩

def now (n : Network) : Nat := n.agenda.now

def mapAgenda (f : Agenda Job → Agenda Job) (n : Network) : Network :=
  { n with agenda := f n.agenda }

def withPlugin (n : Network) (p : Plugin) : Network := { n with node := n.node.withPlugin p }

def plugin (n : Network) : Plugin := n.node.plugin

def slave? (n : Network) (j : Nat) : Option Slave := n.slaves[j]?

def updateSlave (n : Network) (j : Nat) (f : Slave → Slave) : Network :=
  { n with slaves := n.slaves.modify j f }

/-- Starts a task. -/
def spawn (job : Job) (n : Network) : Nat × Network :=
  let (id, agenda) := n.agenda.spawn job
  (id, { n with agenda := agenda })

/-- Ends a task. -/
def endTask (id : Nat) (n : Network) : Network := n.mapAgenda (·.remove id)

/-- Ends a task with a result. -/
def complete (id : Nat) (r : Result) (n : Network) : Network :=
  { n.endTask id with results := n.results ++ [(id, r)] }

/-! ## Engines -/

def engine? (n : Network) : Caller → Option Engine
  | .client => some n.client.engine
  | .reader r => (n.plugin.reader? r).map (·.engine)
  | .slave j => (n.slave? j).map (·.engine)

def updateEngine (n : Network) (caller : Caller) (f : Engine → Engine) : Network :=
  match caller with
  | .client => { n with client := { n.client with engine := f n.client.engine } }
  | .reader r => n.withPlugin (n.plugin.updateEngine r f)
  | .slave j => n.updateSlave j fun s => { s with engine := f s.engine }

/-- Changes the metrics that the calls of a caller are counted in. -/
def updateMetrics (n : Network) (caller : Caller) (f : Metrics → Metrics) : Network :=
  match caller with
  | .client => { n with client := { n.client with metrics := n.client.metrics.map f } }
  | .reader _ => { n with node := { n.node with metrics := f n.node.metrics } }
  | .slave _ => n

/-! ## The link -/

/-- The outbox, if the link is one. -/
def outbox? (n : Network) : Option Outbox :=
  match n.link with
  | .outbox o => some o
  | .hub _ => none

/-- The hub, if the link is one. -/
def hub? (n : Network) : Option Hub :=
  match n.link with
  | .outbox _ => none
  | .hub h => some h

def updateOutbox (n : Network) (f : Outbox → Outbox) : Network :=
  match n.link with
  | .outbox o => { n with link := .outbox (f o) }
  | .hub _ => n

def updateHub (n : Network) (f : Hub → Hub) : Network :=
  match n.link with
  | .outbox _ => n
  | .hub h => { n with link := .hub (f h) }

/-- Envelopes that were recorded so far, with the nodes they went to. -/
def sent (n : Network) : List (String × Envelope) :=
  match n.outbox? with
  | some o => o.sent
  | none => []

/-- Begins to send an envelope. Yields the time at which the sending is over if it takes time. -/
def beginSending (target : String) (e : Envelope) (n : Network) :
    Except TransportError (Option Nat) × Network :=
  match n.link with
  | .hub h =>
    let (r, h) := h.send target e
    (r.map fun _ => none, { n with link := .hub h })
  | .outbox o =>
    match o.begin with
    | .error reason => (.error reason, n)
    | .ok () =>
      if o.latency = 0 then (.ok none, { n with link := .outbox (o.record target e) })
      else (.ok (some (n.now + o.latency)), n)

/-- Ends a sending that took time. -/
def endSending (target : String) (e : Envelope) (n : Network) : Network :=
  n.updateOutbox (·.record target e)

end Network

end CardLink
