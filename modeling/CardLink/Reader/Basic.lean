import CardLink.Engine
import CardLink.Reader.Operation
import CardLink.ReaderName
import CardLink.Session

/-!
# Virtual readers

A virtual reader stands on the master node for one reader of a slave. It has a session, an engine of
its own for calls to the slave, and what was agreed on or set for it. A reader that has left its
plugin is closed and stays closed.
-/

namespace CardLink

/-- A reader of a slave as the master knows it. -/
structure Reader where
  session : Session
  pluginName : String
  engine : Engine
  mode : TransmissionMode
  /-- what the slave said when it announced the reader -/
  options : Settings
  parameters : Settings
  selection : Option DefaultSelection
  /-- the number of the presence monitor that was started last and not stopped -/
  monitor : Option Nat
  closed : Bool

namespace Reader

/-- A reader for a new session. -/
def new (pluginName : String) (session : Session) (engine : Engine) (mode : TransmissionMode)
    (options : Settings) : Reader :=
  ⟨session, pluginName, engine, mode, options, .empty, none, none, false⟩

/-- The name under which the master offers the reader. -/
def name (r : Reader) : String := ReaderName.make r.session.native r.session.slave

/-- The route of all requests to the slave. -/
def route (r : Reader) : Route :=
  ⟨some r.session.id, r.session.native, r.name, r.session.master, r.session.slave⟩

def setParameter (key value : String) (r : Reader) : Reader :=
  { r with parameters := r.parameters.insert key value }

/-- Takes note of an operation that went well: a default selection is remembered. -/
def remember (op : ReaderOperation) (r : Reader) : Reader :=
  match op with
  | .select selection => { r with selection := some selection }
  | _ => r

end Reader

end CardLink
