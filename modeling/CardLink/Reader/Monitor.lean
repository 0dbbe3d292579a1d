import CardLink.Card.Event

/-!
# Presence monitors

A monitor asks a reader again and again whether a card is in it and raises an event whenever the
answer changes. Before the first answer the reader counts as empty; a poll that fails changes nothing.
A monitor that is told to stop raises no event any more, not even for the poll under way.

`Monitor.changes` is the list of events for a list of answers.
-/

namespace CardLink

/-- What a monitor is doing. -/
inductive MonitorState where
  /-- it waits for the time of its next poll -/
  | idle (due : Nat)
  /-- it waits for the end of a call, which has this key -/
  | polling (key : Nat)
  | ended
deriving DecidableEq, Repr

/-- A presence monitor of one reader. -/
structure Monitor where
  /-- the number of the reader -/
  reader : Nat
  /-- milliseconds between two polls -/
  period : Nat
  stopped : Bool
  /-- the last answer -/
  last : Option Bool
  /-- when the last poll should have begun -/
  scheduled : Nat
  /-- when the last poll began -/
  began : Nat
  state : MonitorState
deriving DecidableEq, Repr

namespace Monitor

/-- A new monitor polls at once. -/
def new (reader period now : Nat) : Monitor :=
  ⟨reader, period, false, none, now, now, .idle now⟩

def isRunning (m : Monitor) : Bool := m.state != .ended

/-- Asks the monitor to come to an end. -/
def stop (m : Monitor) : Monitor := { m with stopped := true }

def finish (m : Monitor) : Monitor := { m with state := .ended }

/-! ## Answers and events -/

/-- The event for an answer after the one before. -/
def change (last : Option Bool) (present : Bool) : Option ReaderEventType :=
  match last, present with
  | some true, false => some .removed
  | some true, true => none
  | _, true => some .inserted
  | _, false => none

/-- Takes in an answer. -/
def observe (present : Bool) (m : Monitor) : Option ReaderEventType × Monitor :=
  (change m.last present, { m with last := some present })

/-- The events for the outcomes of all polls, where a poll that failed has none. -/
def changes (last : Option Bool) : List (Option Bool) → List ReaderEventType
  | [] => []
  | none :: rest => changes last rest
  | some present :: rest => (change last present).toList ++ changes (some present) rest

/-! ## Times of polls -/

/-- How late a poll may be, in milliseconds, without putting off the next one. -/
def tolerance : Nat := 5

/-- The time of the poll after one that was due at `scheduled` and began at `began`. Polls keep to
the grid of the period unless one is late. -/
def nextDue (period scheduled began : Nat) : Nat :=
  if scheduled + tolerance < began then began + period else scheduled + period

/-- The monitor begins a poll that was due at `due`. -/
def begin (due now key : Nat) (m : Monitor) : Monitor :=
  { m with scheduled := due, began := now, state := .polling key }

/-- The monitor waits for its next poll. -/
def rest (m : Monitor) : Monitor :=
  { m with state := .idle (nextDue m.period m.scheduled m.began) }

end Monitor

end CardLink
