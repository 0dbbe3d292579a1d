import CardLink.Error
import CardLink.Metrics
import CardLink.Table

/-!
# Calls that wait for their response

An engine lets callers wait for the responses to their requests. A call is admitted if there is a
slot for it and no call with its id is pending; it then has a record in the table of pending ids
until a response takes the record away or the call ends. A call goes through these phases: its
request is being sent, it waits until a deadline, it ends. A response that comes while the request is
still being sent is kept in the mailbox of the call.

Calls have keys, which are never used twice, beside their ids, which callers choose. A response is
matched by id. So is the record that goes when a call ends, whoever it belongs to: a call whose
record another call took away is abandoned.

Time is counted in milliseconds.
-/

namespace CardLink

/-- Where a response is left for the call that waits for it. -/
inductive Mailbox where
  | empty
  | delivered (response : Envelope)
  /-- no response can come any more -/
  | abandoned
deriving DecidableEq, Repr

/-- How far a call has come. -/
inductive CallPhase where
  | sending
  | waiting (deadline : Nat)
deriving DecidableEq, Repr

/-- A call that was admitted and has not ended. -/
structure Call where
  key : Nat
  id : String
  action : String
  /-- how long to wait once the request is sent -/
  patience : Nat
  started : Nat
  phase : CallPhase
  mailbox : Mailbox
deriving DecidableEq, Repr

/-- How a call ends, unless its caller drops it. -/
inductive CallEnding where
  | answered (response : Envelope) (elapsed : Nat)
  | timedOut
  | abandoned
  | unsent (reason : TransportError)
deriving DecidableEq, Repr

/-- How a waiting call ends now, if it does. A response counts even at the deadline. -/
def Call.ending? (c : Call) (now : Nat) : Option CallEnding :=
  match c.phase with
  | .sending => none
  | .waiting deadline =>
    match c.mailbox with
    | .delivered response => some (.answered response (now - c.started))
    | .abandoned => some .abandoned
    | .empty => if deadline ≤ now then some .timedOut else none

/-- All calls of one caller of remote methods. -/
structure Engine where
  /-- how long a call waits if nothing else is said -/
  patience : Nat
  /-- how many calls may be under way at once -/
  limit : Nat
  /-- slots that are taken -/
  slots : Nat
  /-- the key of the call that waits for a response with this id -/
  pending : Table Nat
  /-- admitted calls that have not ended -/
  calls : List Call
  nextKey : Nat

namespace Engine

def new (patience limit : Nat) : Engine := ⟨patience, limit, 0, .empty, [], 0⟩

def isPending (e : Engine) (id : String) : Bool := e.pending.contains id

def pendingCount (e : Engine) : Nat := e.pending.size

/-- The call with this key, if it has not ended. -/
def call? (e : Engine) (key : Nat) : Option Call := e.calls.find? (·.key == key)

/-- Changes the call with this key. -/
def updateCall (e : Engine) (key : Nat) (f : Call → Call) : Engine :=
  { e with calls := e.calls.map fun c => if c.key = key then f c else c }

/-! ## Phases of a call -/

/-- Starts a call, and yields its key or says why it is not admitted. The budget is looked at
first. -/
def start (id action : String) (patience now : Nat) (e : Engine) : Except CallError Nat × Engine :=
  if e.limit ≤ e.slots then (.error (.tooManyPending e.limit), e)
  else if e.isPending id then (.error (.duplicateId id), e)
  else
    (.ok e.nextKey,
      { e with
        slots := e.slots + 1
        pending := e.pending.insert id e.nextKey
        calls := e.calls ++ [⟨e.nextKey, id, action, patience, now, .sending, .empty⟩]
        nextKey := e.nextKey + 1 })

/-- The request of a call was sent: the call waits from now on. -/
def sent (key now : Nat) (e : Engine) : Engine :=
  e.updateCall key fun c => { c with phase := .waiting (now + c.patience) }

/-- Gives a response to the call that waits for it, and says whether there was one. -/
def accept (response : Envelope) (e : Engine) : Bool × Engine :=
  match response.id with
  | none => (false, e)
  | some id =>
    match e.pending.get? id with
    | none => (false, e)
    | some key =>
      (true, { e with pending := e.pending.erase id }.updateCall key fun c =>
        { c with mailbox := .delivered response })

/-- Takes a call that ended, or was dropped, out of the engine. Its slot is free again, and the
record of its id goes, even one that belongs to another call, which is abandoned then. -/
def release (key : Nat) (e : Engine) : Engine :=
  match e.call? key with
  | none => e
  | some c =>
    let owner := e.pending.get? c.id
    { e with
      slots := e.slots - 1
      pending := e.pending.erase c.id
      calls := (e.calls.filter (·.key != key)).map fun d =>
        if some d.key = owner then { d with mailbox := .abandoned } else d }

end Engine

/-! ## What a caller gets -/

/-- The result of an answered call: the body, unless the body describes a failure. -/
def Envelope.result (response : Envelope) : Except CallError String :=
  if response.containsException then
    .error (.remote (response.exceptionBody?.getD ⟨"Unknown", response.body, []⟩))
  else .ok response.body

/-- The result of a call that ended. -/
def CallEnding.result (c : Call) : CallEnding → Except CallError String
  | .answered response _ => response.result
  | .timedOut => .error (.timeout c.action c.id (.ofMillis c.patience))
  | .abandoned => .error (.cancelled c.id)
  | .unsent reason => .error (.transport reason)

/-- Counts a call that ended: its round trip, or that it came to no end in time. Between one time and
the next one pass so many nanoseconds. -/
def CallEnding.count (tick : Nat) : CallEnding → Metrics → Metrics
  | .answered _ elapsed, m => m.recordRoundTrip ⟨elapsed * tick⟩
  | .timedOut, m => m.recordTimeout
  | _, m => m

/-- Counts a call that ended, with times in milliseconds. -/
def CallEnding.record : CallEnding → Metrics → Metrics := CallEnding.count 1000000

end CardLink
