import CardLink.Network.Action
import CardLink.Proofs.Virtual.Local

/-!
# Readers on a desk

The model of a master and a slave: local readers on a desk, without network, master or slave. What is
done to the pair is done to the desk, one deed after the other; each has its outcome before the next
begins.

* `Deed`, `Network.perform`: what is done, and its outcome on a network with one slave.
* `Hearing`: the observers and what they noted; the desk has some, and so has a plugin.
* `Desk.act`: a deed on the desk. There is none for a reader that was not announced, for a second
  announcement, and for a slave that takes longer than calls wait.

NOT here: detached nodes, monitors, a silent slave, readers that are withdrawn.
-/

namespace CardLink

/-! ## 1. Deeds -/

/-- The observers of a node, and what they noted. -/
structure Hearing where
  readerObservers : Audience ReaderEvent
  pluginObservers : Audience PluginEvent
  notes : List (Note NodeEvent)

def Plugin.hearing (p : Plugin) : Hearing := ⟨p.readerObservers, p.pluginObservers, p.notes⟩

def Plugin.withHearing (p : Plugin) (h : Hearing) : Plugin :=
  { p with
    readerObservers := h.readerObservers
    pluginObservers := h.pluginObservers
    notes := h.notes }

/-- What is done to a master and its slave. -/
inductive Deed where
  /-- the slave announces a reader -/
  | connect (native : String) (mode : TransmissionMode)
  | insert (native : String) (card : SimulatedCard)
  | remove (native : String)
  /-- the application uses the virtual reader of a native one -/
  | operate (native : String) (op : ReaderOperation)
  /-- so many milliseconds go by -/
  | pass (ms : Nat)
  /-- from now on the slave takes so many milliseconds for a response -/
  | pace (ms : Nat)
  /-- the application changes its observers, or collects their notes -/
  | attend (change : Hearing → Hearing)

/-- What comes of a deed. -/
inductive Deed.Outcome where
  /-- the result of a task, if it came to its end -/
  | ended (r : Option Result)
  | sent (r : Except SlaveError Unit)
  | done

namespace Network

/-- The end of a task. -/
def outcome (t : Nat × Network) : Deed.Outcome × Network :=
  let n := t.2.await t.1
  (.ended (n.result? t.1), n)

theorem outcome_of_await {task : Nat × Network} {id : Nat} {n : Network} {a : Result}
    (hid : task.1 = id) (hawait : task.2.await id = n) (hresult : n.result? id = some a) :
    outcome task = (.ended (some a), n) := by
  simp only [outcome, hid, hawait, hresult]

/-- An operation on the virtual reader of a native reader of a slave. -/
def operate (native slave : String) (op : ReaderOperation) (n : Network) :
    Deed.Outcome × Network :=
  match n.plugin.findRemote native slave with
  | .error reason => (.ended (some (.answer (.error reason))), n)
  | .ok r =>
    match n.plugin.reader? r with
    | none => (.ended none, n)
    | some reader => outcome (n.launchOperation r reader op)

/-- A deed on a network with one slave. -/
def perform (deed : Deed) (n : Network) : Deed.Outcome × Network :=
  match deed with
  | .connect native mode => outcome (n.connect 0 native mode)
  | .insert native card =>
    let (r, n) := n.changeCard 0 (·.insertCard native card)
    (.sent r, n)
  | .remove native =>
    let (r, n) := n.changeCard 0 (·.removeCard native)
    (.sent r, n)
  | .operate native op =>
    match n.slave? 0 with
    | none => (.ended none, n)
    | some s => n.operate native s.node op
  | .pass ms => (.done, n.runUntil (n.now + ms))
  | .pace ms => (.done, n.updateSlave 0 fun s => { s with delay := ms })
  | .attend change => (.done, n.withPlugin (n.plugin.withHearing (change n.plugin.hearing)))

/-- Deeds, one after the other. -/
def performAll : List Deed → Network → List Deed.Outcome × Network
  | [], n => ([], n)
  | deed :: deeds, n =>
    let (o, n) := n.perform deed
    let (os, n) := performAll deeds n
    (o :: os, n)

end Network

/-! ## 2. Observers -/

namespace Hearing

/-- The observers of a reader are told. -/
def tell (h : Hearing) (x : Nat × ReaderEvent) : Hearing :=
  let (_, a) := h.readerObservers.notify Audience.registrations x.1 x.2
  { h with
    readerObservers := a.rested
    notes := h.notes ++ a.notes.map (Note.map .reader) }

/-- The observers of the plugin are told; a probe counts `readers`. -/
def announce (readers : Nat) (e : PluginEvent) (h : Hearing) : Hearing :=
  let (_, a) := h.pluginObservers.notify (fun _ _ => readers) 0 e
  { h with
    pluginObservers := a.rested
    notes := h.notes ++ a.notes.map (Note.map .plugin) }

/-- One more reader can be observed. -/
def extend (h : Hearing) : Hearing := { h with readerObservers := h.readerObservers.addSubject }

end Hearing

section Hearing

variable (p : Plugin)

theorem Plugin.hearing_raiseReader (r : Nat) (e : ReaderEvent) :
    (p.raiseReader r e).hearing = p.hearing.tell (r, e) := rfl

theorem Plugin.hearing_raise (e : PluginEvent) :
    (p.raise e).hearing = p.hearing.announce p.registry.size e := rfl

theorem Plugin.hearing_withHearing (h : Hearing) : (p.withHearing h).hearing = h := rfl

end Hearing

/-! ## 3. The desk -/

/-- Local readers, each with the number that its observers know it by. -/
structure Desk where
  /-- the name of the plugin in events -/
  plugin : String
  /-- the node in the names of the readers -/
  station : String
  /-- how long an operation may take, in milliseconds -/
  patience : Nat
  /-- how many readers were announced -/
  count : Nat
  readers : Table (Nat × LocalReader)
  /-- events that the observers will be told of next -/
  pending : List (Nat × ReaderEvent)
  hearing : Hearing

namespace Desk

/-- The desk for a configuration and a slave. -/
def new (config : Config) (slave : String) : Desk :=
  ⟨config.pluginName, slave, config.rpcTimeoutMs, 0, .empty, [], ⟨.ofSubjects 0, .ofSubjects 1, []⟩⟩

/-- The observers are told of all that is pending. -/
def flush (d : Desk) : Desk :=
  { d with
    hearing := d.pending.foldl Hearing.tell d.hearing
    pending := [] }

/-- The name of the virtual reader of a native one. -/
def name (d : Desk) (native : String) : String := ReaderName.make native d.station

/-- A reader is put on the desk. -/
def enroll (d : Desk) (native : String) : Desk :=
  { d with
    count := d.count + 1
    readers := d.readers.insert native (d.count, .empty)
    hearing := d.hearing.extend.announce (d.count + 1)
      (.single d.plugin (d.name native) .readerConnected) }

def put (d : Desk) (native : String) (r : Nat) (l : LocalReader) : Desk :=
  { d with readers := d.readers.insert native (r, l) }

def raise (d : Desk) (r : Nat) (e : ReaderEvent) : Desk :=
  { d with pending := d.pending ++ [(r, e)] }

/-- A deed on the desk. -/
def act (d : Desk) : Deed → Option (Deed.Outcome × Desk)
  | .connect native _ =>
    match d.readers.get? native with
    | some _ => none
    | none =>
      some (.ended (some (.connected (.ok (Identifier.session (d.count + 1))))),
        d.flush.enroll native)
  | .insert native card =>
    (d.readers.get? native).map fun (r, l) =>
      (.sent (.ok ()), (d.put native r { l with card := some card }).raise r
        ⟨d.plugin, d.name native, .inserted, l.reaction card⟩)
  | .remove native =>
    (d.readers.get? native).map fun (r, l) =>
      (.sent (.ok ()), (d.put native r { l with card := none }).raise r
        (.plain d.plugin (d.name native) .removed))
  | .operate native op =>
    (d.readers.get? native).map fun (r, l) =>
      (.ended (some (.answer (.ok (l.answer op)))), d.flush.put native r (l.after op))
  | .pass _ => some (.done, d.flush)
  | .pace ms => if ms < d.patience then some (.done, d) else none
  | .attend change => some (.done, { d with hearing := change d.hearing })

/-- Deeds on the desk, one after the other. -/
def actAll : List Deed → Desk → Option (List Deed.Outcome × Desk)
  | [], d => some ([], d)
  | deed :: deeds, d => do
    let (o, d) ← d.act deed
    let (os, d) ← actAll deeds d
    some (o :: os, d)

end Desk

end CardLink
