import CardLink.Network.Run

/-!
# What is done to a network from outside

Actions of the application at the master and of a test. `launch` and its relatives start a task and
yield its id; the other actions are over when they return, and let time pass if they need it.
-/

namespace CardLink.Network

/-! ## Tasks -/

/-- A task that ends as it starts. -/
def report (r : Result) (n : Network) : Nat × Network :=
  let id := n.agenda.nextId
  (id, { n with agenda := { n.agenda with nextId := id + 1 }, results := n.results ++ [(id, r)] })

/-- Starts a call as a task. -/
def launch (caller : Caller) (action body : String) (route : Route) (id : Option String)
    (patience : Nat) (purpose : Purpose) (n : Network) : Nat × Network :=
  match n.start caller action body route id patience with
  | (.ok t, n) => n.spawn (.call t purpose)
  | (.error reason, n) =>
    let (r, n) := n.conclude purpose caller (.error reason)
    n.report r

/-- Starts an operation on a reader as a task. -/
def launchOperation (r : Nat) (reader : Reader) (op : ReaderOperation) (n : Network) :
    Nat × Network :=
  match op.immediate? with
  | some answer => n.report (.answer (.ok answer))
  | none =>
    n.launch (.reader r) op.method.name op.body reader.route none reader.engine.patience
      (.operation op)

/-- Gives up a task. Says whether it was under way. -/
def cancel (id : Nat) (n : Network) : Bool × Network :=
  match n.agenda.task? id with
  | none => (false, n)
  | some t =>
    match t.job with
    | .call ticket _ => (true, (n.abandon ticket).endTask id)
    | _ => (true, n.endTask id)

/-- Forgets the results of tasks. -/
def clearResults (n : Network) : Network := { n with results := [] }

/-! ## Sending -/

/-- Sends an envelope and waits until it is sent. What falls due at the very time at which the
sending is over happens after it. -/
def send (target : String) (e : Envelope) (n : Network) : Except TransportError Unit × Network :=
  match n.beginSending target e with
  | (.error reason, n) => (.error reason, n)
  | (.ok none, n) => (.ok (), n)
  | (.ok (some due), n) =>
    let n := (n.runUntil (due - 1)).mapAgenda (·.moveTo due)
    (.ok (), n.endSending target e)

/-- Puts a text into the queue of a node. -/
def inject (node wire : String) (n : Network) : Except TransportError Unit × Network :=
  match n.hub? with
  | none => (.error .disconnected, n)
  | some h =>
    match h.deliver node wire with
    | .ok h => (.ok (), n.updateHub fun _ => h)
    | .error reason => (.error reason, n)

/-- Connects or disconnects the outbox. -/
def setConnected (up : Bool) (n : Network) : Network :=
  n.updateOutbox fun o => { o with connected := up }

/-! ## The master -/

/-- Ends a dispatch, after its reply was sent if there is one. -/
def finishDispatch (d : Dispatch) (n : Network) : Except DispatchError Delivery × Network :=
  match d with
  | .ended result => (result, n)
  | .replying reply =>
    let (sent, n) := n.send reply.target reply.envelope
    let (result, node) := n.node.conclude reply sent
    (result, { n with node := node })

/-- Dispatches an envelope. -/
def dispatch (e : Envelope) (n : Network) : Except DispatchError Delivery × Network :=
  let (d, node) := n.node.dispatch e
  { n with node := node }.finishDispatch d

/-- Dispatches a text. -/
def dispatchWire (wire : String) (n : Network) : Except DispatchError Delivery × Network :=
  let (d, node) := n.node.dispatchWire wire
  { n with node := node }.finishDispatch d

/-- Holds on to a reader under a name. -/
def keep (name : String) (r : Nat) (n : Network) : Network :=
  { n with kept := n.kept.insert name r }

/-- Lets go of a reader, and says whether one was held on to under this name. -/
def forget (name : String) (n : Network) : Bool × Network :=
  (n.kept.contains name, { n with kept := n.kept.erase name })

/-- The number of the reader that a name means: one that was kept, or one that is registered. -/
def findReader (name : String) (n : Network) : Except ReaderError Nat :=
  match n.kept.get? name with
  | some r => .ok r
  | none => n.plugin.find name

/-- Adds a monitor of a reader apart from the one that the reader starts itself. Its number is
returned. -/
def addMonitor (r period : Nat) (n : Network) : Nat × Network :=
  let m := n.plugin.monitors.length
  let n := n.withPlugin (n.plugin.addMonitor r period n.now)
  (m, (n.spawn (.monitor m none)).2)

/-- Starts the task of the monitor that was added last, if one was. -/
def runMonitor (started : Bool) (n : Network) : Network :=
  if started then (n.spawn (.monitor (n.plugin.monitors.length - 1) none)).2 else n

/-- Starts the monitor of a reader. -/
def startMonitor (r period : Nat) (n : Network) : Bool × Network :=
  let (started, p) := n.plugin.startMonitor r period n.now
  (started, (n.withPlugin p).runMonitor started)

/-- Starts the monitor of a reader at the configured interval. -/
def startConfiguredMonitor (name : String) (n : Network) : Except ReaderError (Bool × Network) :=
  match n.node.startMonitor name n.now with
  | .error e => .error e
  | .ok (started, node) => .ok (started, { n with node := node }.runMonitor started)

/-! ## Slaves -/

/-- Attaches a node to the hub. -/
def attach (node : String) (receiver : Receiver) (n : Network) : Network :=
  match n.hub? with
  | none => n
  | some h =>
    ((n.updateHub fun h => h.attach node).spawn (.pump h.attachments.length receiver)).2

/-- Adds a slave. -/
def addSlave (node : String) (n : Network) : Network :=
  { n with slaves := n.slaves ++ [Slave.new node n.node.config.nodeId] }.attach node
    (.slave n.slaves.length)

/-- A slave announces one of its readers. -/
def connect (j : Nat) (native : String) (mode : TransmissionMode) (n : Network) : Nat × Network :=
  let n := n.updateSlave j (·.prepare native)
  match n.slave? j with
  | none => n.report (.connected (.error (.unknownReader native)))
  | some s =>
    n.launch (.slave j) Method.readerConnect.name (Slave.announcement mode) (s.route native) none
      Slave.patience (.connect native)

/-- A slave withdraws one of its readers. -/
def disconnect (j : Nat) (native : String) (n : Network) : Nat × Network :=
  match n.slave? j with
  | none => n.report (.disconnected (.error (.unknownReader native)))
  | some s =>
    n.launch (.slave j) Method.readerDisconnect.name "" (s.route native) none Slave.patience
      (.disconnect native)

/-- A slave changes what is in a reader and sends the event. -/
def changeCard (j : Nat) (change : Slave → Except SlaveError (Envelope × Slave)) (n : Network) :
    Except SlaveError Unit × Network :=
  match n.slave? j with
  | none => (.ok (), n)
  | some s =>
    match change s with
    | .error reason => (.error reason, n)
    | .ok (notice, s) =>
      match (n.updateSlave j fun _ => s).send s.master notice with
      | (.ok (), n) => (.ok (), n)
      | (.error reason, n) => (.error (.sendingEvent reason), n)

/-! ## Setting up -/

/-- A master on an outbox. -/
def station (config : Config) (o : Outbox) : Except ConfigError Network :=
  match Node.new config o.node with
  | .error e => .error e
  | .ok node => .ok (.new Identifier.call (.outbox o) node .idle)

/-- A bare engine on an outbox. -/
def bench (o : Outbox) (client : Client) : Network :=
  .new Identifier.call (.outbox o) (.ofConfig .default o.node) client

/-- A master and one slave on a hub. -/
def pair (config : Config) (slave : String) : Except ConfigError Network :=
  match Node.new config config.nodeId with
  | .error e => .error e
  | .ok node =>
    .ok ((Network.new Identifier.call (.hub (.new Hub.defaultFamily)) node .idle).attach
      config.nodeId .master |>.addSlave slave)

end CardLink.Network
