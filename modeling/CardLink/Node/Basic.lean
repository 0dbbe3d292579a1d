import CardLink.Metrics
import CardLink.Plugin

/-!
# The master node

A node is its configuration, its plugin, and counters of what came in. It is built from a
configuration that keeps the rules and the id under which its sender is known.
-/

namespace CardLink

/-- What became of the envelopes that came in; counters of 64 bits, which wrap around. -/
structure DispatchStats where
  received : UInt64
  /-- requests and notifications that were handled well -/
  dispatched : UInt64
  /-- responses that a call waited for -/
  responsesResolved : UInt64
  /-- dropped for any reason -/
  dropped : UInt64
  /-- nobody handles the action -/
  unhandled : UInt64
  /-- the text reads as no envelope -/
  decodeFailures : UInt64
  /-- the handler failed -/
  handlerErrors : UInt64
deriving DecidableEq, Repr

namespace DispatchStats

def zero : DispatchStats := ⟨0, 0, 0, 0, 0, 0, 0⟩

def receive (s : DispatchStats) : DispatchStats := { s with received := s.received + 1 }

def dispatch (s : DispatchStats) : DispatchStats := { s with dispatched := s.dispatched + 1 }

def resolve (s : DispatchStats) : DispatchStats :=
  { s with responsesResolved := s.responsesResolved + 1 }

def drop (s : DispatchStats) : DispatchStats := { s with dropped := s.dropped + 1 }

def leaveUnhandled (s : DispatchStats) : DispatchStats :=
  { s with unhandled := s.unhandled + 1 }.drop

def failDecoding (s : DispatchStats) : DispatchStats :=
  { s with decodeFailures := s.decodeFailures + 1 }.drop

def failHandling (s : DispatchStats) : DispatchStats :=
  { s with handlerErrors := s.handlerErrors + 1 }.drop

end DispatchStats

/-- A master node. -/
structure Node where
  config : Config
  plugin : Plugin
  stats : DispatchStats
  metrics : Metrics

namespace Node

/-- What the names of the metrics of a node begin with. -/
def family : String := "rse_master"

/-- A node whose sender is known under the id `address`. -/
def ofConfig (config : Config) (address : String) : Node :=
  ⟨config, .new Identifier.session config.pluginName address config.rpcTimeoutMs
    config.maxPendingCalls, .zero, .new family⟩

/-- A node for a configuration that keeps the rules. -/
def new (config : Config) (address : String) : Except ConfigError Node :=
  match config.validate with
  | .error e => .error e
  | .ok () => .ok (.ofConfig config address)

def withPlugin (n : Node) (p : Plugin) : Node := { n with plugin := p }

/-- Starts the monitor of the reader of this name at the configured interval. -/
def startMonitor (name : String) (now : Nat) (n : Node) : Except ReaderError (Bool × Node) :=
  match n.plugin.find name with
  | .error e => .error e
  | .ok r =>
    let (started, p) := n.plugin.startMonitor r n.config.monitorPollIntervalMs now
    .ok (started, n.withPlugin p)

end Node

end CardLink
