import CardLink.Error

/-!
# A sender that records

An outbox stands for the connection of one node in a test. It records what it is given to send, with
the node it goes to. It can be disconnected, lose everything, and take its time: a sending begins
(`begin`) and, after the latency, is recorded (`record`). If it fails, it fails at the beginning,
before any wait: none takes time and then fails.
-/

namespace CardLink

/-- A recording sender. -/
structure Outbox where
  /-- the id of the local node -/
  node : String
  connected : Bool
  /-- every envelope is lost -/
  lossy : Bool
  /-- milliseconds that a sending takes -/
  latency : Nat
  /-- what was sent so far, and to which node -/
  sent : List (String × Envelope)
deriving DecidableEq, Repr

namespace Outbox

/-- The id of the local node when none is given. -/
def defaultNode : String := "mock-node"

def new (node : String) (latency : Nat) (lossy : Bool) : Outbox := ⟨node, true, lossy, latency, []⟩

/-- Whether a sending can begin. One that begins will not fail. -/
def begin (o : Outbox) : Except TransportError Unit :=
  if ¬ o.connected then .error .disconnected
  else if o.lossy then .error .lost
  else .ok ()

/-- A sending that began has come to its end, whatever happened to the connection meanwhile. -/
def record (target : String) (e : Envelope) (o : Outbox) : Outbox :=
  { o with sent := o.sent ++ [(target, e)] }

/-- Forgets what was sent. -/
def forget (o : Outbox) : Outbox := { o with sent := [] }

end Outbox

end CardLink
