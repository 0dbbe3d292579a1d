import CardLink.Envelope.Exception

/-!
# Envelopes

An envelope is the unit that nodes exchange: an action, a body that only its reader understands, a
route, and the correlation id that ties a response to its request. A request without id is a
notification. An absent id or session id is not the same as an empty one.
-/

namespace CardLink

/-- Where an envelope goes and which reader it is about. -/
structure Route where
  /-- absent before a session was agreed on -/
  sessionId : Option String
  nativeReader : String
  virtualReader : String
  requester : String
  target : String
deriving DecidableEq, Repr

namespace Route

def blank : Route := ⟨none, "", "", "", ""⟩

/-- The way back: requester and target change places. -/
def reverse (r : Route) : Route := { r with requester := r.target, target := r.requester }

@[simp] theorem reverse_reverse (r : Route) : r.reverse.reverse = r := rfl

end Route

/-- The unit that nodes exchange. -/
structure Envelope where
  action : String
  body : String
  isRequest : Bool
  route : Route
  /-- correlation id -/
  id : Option String
deriving DecidableEq, Repr

namespace Envelope

/-- A request that expects a response with the same id. -/
def request (action body : String) (route : Route) (id : String) : Envelope :=
  ⟨action, body, true, route, some id⟩

def response (action body : String) (route : Route) (id : String) : Envelope :=
  ⟨action, body, false, route, some id⟩

/-- A request that expects no response. -/
def notification (action body : String) (route : Route) : Envelope :=
  ⟨action, body, true, route, none⟩

/-- A response whose body describes a failure. -/
def exception (action : String) (x : RemoteException) (route : Route) (id : Option String) :
    Envelope :=
  ⟨action, x.toBody, false, route, id⟩

/-- The empty acknowledgement: every field is blank except the id. -/
def noResponse (id : Option String) : Envelope :=
  ⟨"", "", false, { Route.blank with sessionId := some "" }, id⟩

/-- The response to an envelope, sent back to its requester. -/
def reply (e : Envelope) (body : String) : Envelope :=
  ⟨e.action, body, false, e.route.reverse, e.id⟩

/-- The failure response to an envelope. -/
def replyException (e : Envelope) (x : RemoteException) : Envelope :=
  .exception e.action x e.route.reverse e.id

def isNotification (e : Envelope) : Bool := e.isRequest && e.id.isNone

/-- The acknowledgement without content. -/
def isEmptyResponse (e : Envelope) : Bool := e.action == ""

/-- The body describes a failure. -/
def containsException (e : Envelope) : Bool := RemoteException.isMarked e.body

/-- The failure that the body describes. -/
def exceptionBody? (e : Envelope) : Option RemoteException := RemoteException.ofBody? e.body

end Envelope

end CardLink
