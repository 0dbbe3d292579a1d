import CardLink.Config.Basic
import CardLink.Observer.Audience
import CardLink.Reader.Basic
import CardLink.Reader.Monitor

/-!
# The registry of virtual readers

A plugin holds one virtual reader for each pair of a native reader and a slave that announced it. It
creates the reader, removes it, and tells its observers of both. Readers have numbers, in the order
of their creation, and keep them after their removal, since an application may still hold a removed
reader; the registry leads from names to the numbers of the readers that are registered now.

The observers of a reader are the registrations at the subject with the number of the reader.
-/

namespace CardLink

/-- What observers on a node are told of. -/
inductive NodeEvent where
  | reader (e : ReaderEvent)
  | plugin (e : PluginEvent)
deriving DecidableEq, Repr

/-- The virtual readers of a master node. -/
structure Plugin where
  name : String
  /-- the id of the local node -/
  address : String
  /-- how long calls of readers wait, in milliseconds -/
  patience : Nat
  /-- how many calls of one reader may be under way -/
  limit : Nat
  sessions : SessionFactory
  /-- every reader that was created, by number -/
  readers : List Reader
  /-- the numbers of the readers that are registered, by name -/
  registry : Table Nat
  /-- every presence monitor that was started, by number -/
  monitors : List Monitor
  parameters : Settings
  readerObservers : Audience ReaderEvent
  pluginObservers : Audience PluginEvent
  /-- what observers did since it was last asked -/
  notes : List (Note NodeEvent)

namespace Plugin

/-- No readers so far; the ids of their sessions will be drawn from this source. -/
def new (ids : Nat → String) (name address : String) (patience limit : Nat) : Plugin :=
  ⟨name, address, patience, limit, .drawing ids, [], .empty, [], .empty, .ofSubjects 0,
    .ofSubjects 1, []⟩

/-! ## Looking up readers -/

/-- The number of the registered reader of this name. -/
def find (p : Plugin) (name : String) : Except ReaderError Nat :=
  match p.registry.get? name with
  | some n => .ok n
  | none => .error (.notFound name)

/-- The number of the reader registered for a native reader of a slave. -/
def findRemote (p : Plugin) (native slave : String) : Except ReaderError Nat :=
  p.find (ReaderName.make native slave)

def reader? (p : Plugin) (n : Nat) : Option Reader := p.readers[n]?

def updateReader (p : Plugin) (n : Nat) (f : Reader → Reader) : Plugin :=
  { p with readers := p.readers.modify n f }

/-- Changes the engine of a reader. -/
def updateEngine (p : Plugin) (n : Nat) (f : Engine → Engine) : Plugin :=
  p.updateReader n fun r => { r with engine := f r.engine }

/-- A call with this id is pending at the reader with number `n`. -/
def isPendingAt (p : Plugin) (id : String) (n : Nat) : Bool :=
  match p.reader? n with
  | some r => r.engine.isPending id
  | none => false

/-- The first reader in the order of names at which a call with this id is pending. -/
def findPending? (p : Plugin) (id : String) : Option Nat :=
  p.registry.values.find? (p.isPendingAt id)

/-- The reader that a response belongs to: the one that it names, if that waits for it. -/
def owner? (p : Plugin) (name id : String) : Option Nat :=
  match p.registry.get? name with
  | some n => if p.isPendingAt id n then some n else p.findPending? id
  | none => p.findPending? id

/-! ## Telling observers -/

/-- Tells the observers of a reader. -/
def raiseReader (n : Nat) (e : ReaderEvent) (p : Plugin) : Plugin :=
  let (_, a) := p.readerObservers.notify Audience.registrations n e
  { p with
    readerObservers := a.rested
    notes := p.notes ++ a.notes.map (Note.map .reader) }

/-- Tells the observers of the plugin; a probe counts the readers that are registered. -/
def raise (e : PluginEvent) (p : Plugin) : Plugin :=
  let (_, a) := p.pluginObservers.notify (fun _ _ => p.registry.size) 0 e
  { p with
    pluginObservers := a.rested
    notes := p.notes ++ a.notes.map (Note.map .plugin) }

/-- Passes an event on to the reader that it names. -/
def forward (e : ReaderEvent) (p : Plugin) : Except ReaderError Plugin :=
  match p.find e.readerName with
  | .error reason => .error reason
  | .ok n => .ok (p.raiseReader n e)

/-! ## Creating and removing readers -/

/-- Registers a reader for a new session before anybody is told. -/
def register (session : Session) (mode : TransmissionMode) (options : Settings) (p : Plugin) :
    Plugin :=
  let r := Reader.new p.name session (.new p.patience p.limit) mode options
  { p with
    readers := p.readers ++ [r]
    registry := p.registry.insert r.name p.readers.length
    readerObservers := p.readerObservers.addSubject }

/-- Creates the reader for a pair, tells the observers, and yields the session of the reader. A pair
can be registered only once at a time. -/
def create (native slave : String) (mode : TransmissionMode) (options : Settings) (p : Plugin) :
    Except ReaderError (Session × Plugin) :=
  let name := ReaderName.make native slave
  if p.registry.contains name then .error (.duplicateReader native slave)
  else
    let (session, sessions) := p.sessions.create native slave p.address
    .ok (session,
      ({ p with sessions := sessions }.register session mode options).raise
        (.single p.name name .readerConnected))

/-- Stops the monitor of a reader, and says whether it had one. -/
def stopMonitor (n : Nat) (p : Plugin) : Bool × Plugin :=
  match (p.reader? n).bind (·.monitor) with
  | none => (false, p)
  | some m =>
    (true, { p.updateReader n (fun r => { r with monitor := none }) with
      monitors := p.monitors.modify m Monitor.stop })

/-- Closes a reader: its monitor stops for good. -/
def close (n : Nat) (p : Plugin) : Plugin :=
  (p.updateReader n (fun r => { r with closed := true })).stopMonitor n |>.2

/-- Takes a reader out of the registry before anybody is told. -/
def unregister (n : Nat) (name : String) (p : Plugin) : Plugin :=
  let p := p.close n
  { p with
    readerObservers := p.readerObservers.clear n
    registry := p.registry.erase name }

/-- Removes the reader of a pair and tells the observers; its number is returned. -/
def remove (native slave : String) (p : Plugin) : Except ReaderError (Nat × Plugin) :=
  let name := ReaderName.make native slave
  match p.find name with
  | .error reason => .error reason
  | .ok n =>
    .ok (n, (p.unregister n name).raise (.single p.name name .readerDisconnected))

/-- Removes the reader of a pair because the application on this node wants it. -/
def disconnect (native slave : String) (p : Plugin) : Except ReaderError Plugin :=
  (p.remove native slave).map (·.2)

/-! ## Presence monitors -/

def monitor? (p : Plugin) (m : Nat) : Option Monitor := p.monitors[m]?

def updateMonitor (p : Plugin) (m : Nat) (f : Monitor → Monitor) : Plugin :=
  { p with monitors := p.monitors.modify m f }

/-- A reader has a monitor that was not stopped and has not come to its end. -/
def isMonitoring (p : Plugin) (n : Nat) : Bool :=
  match (p.reader? n).bind (·.monitor) with
  | none => false
  | some m =>
    match p.monitor? m with
    | none => false
    | some monitor => monitor.isRunning

/-- Adds a monitor of a reader, which takes the next number. -/
def addMonitor (n period now : Nat) (p : Plugin) : Plugin :=
  { p with monitors := p.monitors ++ [Monitor.new n period now] }

/-- Starts the monitor of a reader and says whether it did: a closed reader gets none, and a reader
has only one at a time. -/
def startMonitor (n period now : Nat) (p : Plugin) : Bool × Plugin :=
  match p.reader? n with
  | none => (false, p)
  | some r =>
    if r.closed || p.isMonitoring n then (false, p)
    else
      (true, (p.addMonitor n period now).updateReader n fun r =>
        { r with monitor := some p.monitors.length })

/-- What a poll that ended means for a monitor: an answer may raise an event, unless the monitor was
stopped meanwhile. -/
def polled (m : Nat) (answer : Option Bool) (p : Plugin) : Plugin :=
  match p.monitor? m with
  | none => p
  | some monitor =>
    match answer with
    | none => p.updateMonitor m Monitor.rest
    | some present =>
      if monitor.stopped then p.updateMonitor m Monitor.finish
      else
        let (change, monitor') := monitor.observe present
        let p := p.updateMonitor m fun _ => monitor'.rest
        match change, p.reader? monitor.reader with
        | some type, some r =>
          p.raiseReader monitor.reader (.plain r.pluginName r.name type)
        | _, _ => p

end Plugin

end CardLink
