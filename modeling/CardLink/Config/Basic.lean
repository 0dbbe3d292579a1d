import CardLink.Duration
import CardLink.Json.Record
import CardLink.Text.Blank

/-!
# Configuration of a master node

The settings, their defaults, and the rules they have to keep. `validate` reports the first rule
that is broken, in the order in which the settings are listed.
-/

namespace CardLink

open Json

/-- The settings of a master node. -/
structure Config where
  nodeId : String
  pluginName : String
  rpcTimeoutMs : Nat
  maxPendingCalls : Nat
  monitorPollIntervalMs : Nat
deriving DecidableEq, Repr

/-- Why there is no configuration. -/
inductive ConfigError where
  /-- the file could not be read as text -/
  | fileNotFound (detail : String)
  | parse
  | validation (detail : String)
deriving DecidableEq, Repr

namespace ConfigError

/-- The text of a failure; the details of a text that does not parse are not kept. -/
def message : ConfigError → String
  | .fileNotFound detail => "config file not found: " ++ detail
  | .parse => "config parse error"
  | .validation detail => "config validation error: " ++ detail

end ConfigError

namespace Config

def defaultPluginName : String := "RemoteSePlugin"

/-- Calls that may be pending at once when nothing else is said. -/
def defaultMaxPending : Nat := 256

def default : Config := ⟨"master", defaultPluginName, 10000, defaultMaxPending, 500⟩

/-- The first rule that is broken. -/
def fault? (c : Config) : Option String :=
  if Text.AllBlank c.nodeId then some "node_id must not be empty"
  else if c.rpcTimeoutMs = 0 then some "rpc_timeout_ms must be at least 1"
  else if c.maxPendingCalls = 0 then some "max_pending_calls must be at least 1"
  else if c.monitorPollIntervalMs = 0 then some "monitor_poll_interval_ms must be at least 1"
  else none

def validate (c : Config) : Except ConfigError Unit :=
  match c.fault? with
  | some detail => .error (.validation detail)
  | none => .ok ()

def toJson (c : Config) : Json :=
  .object [("node_id", .text c.nodeId), ("plugin_name", .text c.pluginName),
    ("rpc_timeout_ms", .nat c.rpcTimeoutMs), ("max_pending_calls", .nat c.maxPendingCalls),
    ("monitor_poll_interval_ms", .nat c.monitorPollIntervalMs)]

def u64 : Decoder Nat := .natBelow Number.word64 .u64

def usize : Decoder Nat := .natBelow Number.word64 .usize

def fields : List Field :=
  [.free "node_id" Decoder.text, .free "plugin_name" Decoder.text, .free "rpc_timeout_ms" u64,
   .free "max_pending_calls" usize, .free "monitor_poll_interval_ms" u64]

/-- Every setting that is not given keeps its default. -/
def decoder : Decoder Config := fun src o => do
  let es ← Record.entries "RemoteSeConfig" fields src o
  let nodeId ← es.withDefault src "node_id" default.nodeId Decoder.text
  let pluginName ← es.withDefault src "plugin_name" default.pluginName Decoder.text
  let rpcTimeoutMs ← es.withDefault src "rpc_timeout_ms" default.rpcTimeoutMs u64
  let maxPendingCalls ← es.withDefault src "max_pending_calls" default.maxPendingCalls usize
  let interval ← es.withDefault src "monitor_poll_interval_ms" default.monitorPollIntervalMs u64
  .ok ⟨nodeId, pluginName, rpcTimeoutMs, maxPendingCalls, interval⟩

end Config

end CardLink
