import CardLink.Network.Basic

/-!
# Calls in a network

`start` admits a call and sends its request, `poll` looks whether it has come to its end, `abandon`
gives it up. However a call ends, its slot and its record are given back.
-/

namespace CardLink.Network

/-- The id of a call, made up if the caller chose none. -/
def chooseId (id : Option String) (n : Network) : String × Network :=
  match id with
  | some id => (id, n)
  | none => (n.callIds (n.freshIds + 1), { n with freshIds := n.freshIds + 1 })

/-- Starts a call, or says why it ended at once. -/
def start (caller : Caller) (action body : String) (route : Route) (id : Option String)
    (patience : Nat) (n : Network) : Except CallError Ticket × Network :=
  let (id, n) := n.chooseId id
  match n.engine? caller with
  | none => (.error (.cancelled id), n)
  | some engine =>
    match engine.start id action patience n.now with
    | (.error reason, _) => (.error reason, n)
    | (.ok key, engine) =>
      let n := n.updateEngine caller fun _ => engine
      let request := Envelope.request action body route id
      match n.beginSending route.target request with
      | (.error reason, n) =>
        (.error (.transport reason), n.updateEngine caller (·.release key))
      | (.ok (some due), n) => (.ok ⟨caller, key, route.target, request, some due⟩, n)
      | (.ok none, n) =>
        (.ok ⟨caller, key, route.target, request, none⟩, n.updateEngine caller (·.sent key n.now))

/-- The request of a call has been sent. -/
def requestSent (t : Ticket) (n : Network) : Network :=
  (n.endSending t.target t.request).updateEngine t.caller (·.sent t.key n.now)

/-- Where a call stands when it is looked at. -/
inductive Standing where
  /-- nothing will happen before this time, unless a response comes -/
  | under (due : Nat) (ticket : Ticket)
  | over (result : Except CallError String)

/-- Looks at a call whose request was sent. -/
def pollWaiting (t : Ticket) (n : Network) : Standing × Network :=
  match (n.engine? t.caller).bind (·.call? t.key) with
  | none => (.over (.error (.cancelled (t.request.id.getD ""))), n)
  | some c =>
    match c.ending? n.now with
    | some ending =>
      (.over (ending.result c),
        (n.updateEngine t.caller (·.release t.key)).updateMetrics t.caller ending.record)
    | none =>
      match c.phase with
      | .waiting deadline => (.under deadline t, n)
      | .sending => (.under n.now t, n)

/-- Looks at a call. -/
def poll (t : Ticket) (n : Network) : Standing × Network :=
  match t.sendingUntil with
  | none => n.pollWaiting t
  | some due =>
    if due ≤ n.now then (n.requestSent t).pollWaiting { t with sendingUntil := none }
    else (.under due t, n)

/-- Gives up a call. -/
def abandon (t : Ticket) (n : Network) : Network := n.updateEngine t.caller (·.release t.key)

/-- The mailbox of a call whose request was sent is not empty. -/
def hasMail (t : Ticket) (n : Network) : Bool :=
  match t.sendingUntil, (n.engine? t.caller).bind (·.call? t.key) with
  | none, some c => c.mailbox != .empty
  | _, _ => false

end CardLink.Network
