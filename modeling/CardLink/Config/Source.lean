import CardLink.Config.Basic
import CardLink.Toml.Document

/-!
# Where a configuration comes from

A TOML file, or the environment. A file that cannot be read as text counts as not found. In the
environment a number that does not read as a decimal of 64 bits is passed over.
-/

namespace CardLink.Config

open Toml (Item Scalar)

/-! ## 1. Files -/

/-- What is found at the place of a configuration file. -/
inductive File where
  | absent
  | directory
  | content (bytes : List UInt8)
deriving DecidableEq, Repr

/-- The text of a file, or why there is none. -/
def File.text : File → Except String String
  | .absent => .error "No such file or directory (os error 2)"
  | .directory => .error "Is a directory (os error 21)"
  | .content bytes =>
    match String.fromUTF8? ⟨bytes.toArray⟩ with
    | some s => .ok s
    | none => .error "stream did not contain valid UTF-8"

/-- A text setting of a document. -/
def textSetting (es : Toml.Entries) (name default : String) : Option String :=
  match es.lookup name with
  | none => some default
  | some (.scalar (.text s)) => some s
  | some _ => none

/-- A number setting of a document. -/
def numberSetting (es : Toml.Entries) (name : String) (default : Nat) : Option Nat :=
  match es.lookup name with
  | none => some default
  | some (.scalar (.whole n)) => if 0 ≤ n then some n.toNat else none
  | some _ => none

/-- The configuration in a document. Entries that are no setting are passed over. -/
def ofDocument? (es : Toml.Entries) : Option Config := do
  let nodeId ← textSetting es "node_id" default.nodeId
  let pluginName ← textSetting es "plugin_name" default.pluginName
  let rpcTimeoutMs ← numberSetting es "rpc_timeout_ms" default.rpcTimeoutMs
  let maxPendingCalls ← numberSetting es "max_pending_calls" default.maxPendingCalls
  let interval ← numberSetting es "monitor_poll_interval_ms" default.monitorPollIntervalMs
  some ⟨nodeId, pluginName, rpcTimeoutMs, maxPendingCalls, interval⟩

/-- Loads a configuration from the file at `path`. -/
def load (path : String) (file : File) : Except ConfigError Config :=
  match file.text with
  | .error detail => .error (.fileNotFound (path ++ ": " ++ detail))
  | .ok s =>
    match (Toml.document? s).bind ofDocument? with
    | none => .error .parse
    | some c =>
      match c.validate with
      | .error e => .error e
      | .ok () => .ok c

/-! ## 2. The environment -/

/-- Reads decimal digits, after a plus sign if there is one, as a number of 64 bits. -/
def number? (s : String) : Option Nat :=
  let ds := match s.toList with
    | '+' :: rest => rest
    | cs => cs
  if ds = [] ∨ ¬ ds.all Char.isDigit then none
  else
    let n := Nat.ofDigitChars 10 ds 0
    if n < Number.word64 then some n else none

/-- The settings that the environment gives, and those of `c` for the others. -/
def withEnvironment (env : List (String × String)) (c : Config) : Config :=
  { c with
    nodeId := (env.lookup "RSE_NODE_ID").getD c.nodeId
    pluginName := (env.lookup "RSE_PLUGIN_NAME").getD c.pluginName
    rpcTimeoutMs := ((env.lookup "RSE_RPC_TIMEOUT_MS").bind number?).getD c.rpcTimeoutMs
    monitorPollIntervalMs :=
      ((env.lookup "RSE_MONITOR_POLL_MS").bind number?).getD c.monitorPollIntervalMs }

/-- The defaults with the settings of the environment. -/
def ofEnvironment (env : List (String × String)) : Config := default.withEnvironment env

end CardLink.Config
