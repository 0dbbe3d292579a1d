import CardLink.Engine
import CardLink.Proofs.Trace

/-!
# What can happen to an engine, and what its history says

A run of an engine is told by its events: calls are started, the sending of a request ends, well or
badly, responses come in, calls come to their end, callers drop their calls. They may follow one
another in any order and at any times. A call takes no other turn than these: between two events it
only waits.

* `Engine.Step`: one event and what it makes of the engine.
* `Engine.Waits`, `Engine.Answered`: how a call stands, read off the events alone.
* `Engine.CarefulStep`: no call is started under the id of a call that has its response and has not
  ended.

NOT here: times that go forward. A step may look at the clock, and any reading of it is allowed, so
that what holds of all runs holds of those with a real clock.
-/

namespace CardLink.Engine

/-! ## 1. Events and steps -/

/-- What happens to an engine. -/
inductive Event where
  /-- a call was started under this id, and got a key or was refused -/
  | started (id : String) (outcome : Except CallError Nat)
  /-- the request of the call with this key was sent -/
  | sent (key : Nat)
  /-- a response came in, and a call took it or none did -/
  | received (response : Envelope) (taken : Bool)
  /-- the call came to its end and returned -/
  | ended (c : Call) (ending : CallEnding)
  /-- the caller gave the call up -/
  | dropped (c : Call)

/-- **One step of an engine.** -/
inductive Step (e : Engine) : Event → Engine → Prop where
  | start (id action : String) (patience now : Nat) :
      Step e (.started id (e.start id action patience now).1) (e.start id action patience now).2
  | sent (c : Call) (now : Nat) (hc : c ∈ e.calls) (hp : c.phase = .sending) :
      Step e (.sent c.key) (e.sent c.key now)
  | unsent (c : Call) (reason : TransportError) (hc : c ∈ e.calls) (hp : c.phase = .sending) :
      Step e (.ended c (.unsent reason)) (e.release c.key)
  | receive (r : Envelope) : Step e (.received r (e.accept r).1) (e.accept r).2
  | finish (c : Call) (now : Nat) (ending : CallEnding) (hc : c ∈ e.calls)
      (he : c.ending? now = some ending) : Step e (.ended c ending) (e.release c.key)
  | drop (c : Call) (hc : c ∈ e.calls) : Step e (.dropped c) (e.release c.key)

/-- A call with this id has its response and has not ended. -/
def HasAnswered (e : Engine) (id : String) : Prop :=
  ∃ c ∈ e.calls, c.id = id ∧ ∃ r, c.mailbox = .delivered r

/-- **A step of careful callers**: no call is started under the id of a call that has its response
and has not ended. -/
def CarefulStep (e : Engine) (ev : Event) (e' : Engine) : Prop :=
  Step e ev e' ∧ ∀ id key, ev = .started id (.ok key) → ¬ e.HasAnswered id

/-! ## 2. How a call stands -/

/-- The call with this key is over. -/
def Event.Ends (key : Nat) : Event → Prop
  | .ended c _ => c.key = key
  | .dropped c => c.key = key
  | _ => False

/-- A call took a response with this id. -/
def Event.Takes (id : String) : Event → Prop
  | .received r taken => taken = true ∧ r.id = some id
  | _ => False

theorem Event.started_ne {id id' : String} {key key' : Nat} (h : id' ≠ id) :
    Event.started id (.ok key) ≠ .started id' (.ok key') := by
  intro heq
  cases heq
  exact h rfl

/-- A response with one id is not taken under another one. -/
theorem Event.not_takes_of_ne {r : Envelope} {id id' : String} (hr : r.id = some id) (h : id' ≠ id) :
    ¬ Event.Takes id' (.received r true) := by
  intro ht
  have hboth : some id' = some id := ht.2.symm.trans hr
  exact h (Option.some.inj hboth)

/-- **After these events the call waits for a response**: it was admitted under the id, and since
then it is not over and no response with the id was taken. -/
def Waits (evs : List Event) (id : String) (key : Nat) : Prop :=
  Since (fun _ ev => ev = .started id (.ok key)) (fun ev => ev.Ends key ∨ ev.Takes id) evs

/-- **After these events the call has its response**: the first one with its id that was taken since
it was admitted; and it is not over. -/
def Answered (evs : List Event) (id : String) (key : Nat) (r : Envelope) : Prop :=
  Since (fun before ev => ev = .received r true ∧ r.id = some id ∧ Waits before id key)
    (Event.Ends key) evs

section Histories

variable {evs : List Event} {ev : Event} {id : String} {key : Nat} {r : Envelope}

/-- The last event decides whether a call begins to wait, waits on or has waited. -/
theorem waits_snoc : Waits (evs ++ [ev]) id key ↔
    ev = .started id (.ok key) ∨ Waits evs id key ∧ ¬ ev.Ends key ∧ ¬ ev.Takes id := by
  rw [← not_or]
  exact since_snoc

theorem waits_snoc_of_idle (hstart : ev ≠ .started id (.ok key)) (hends : ¬ ev.Ends key)
    (htakes : ¬ ev.Takes id) : Waits (evs ++ [ev]) id key ↔ Waits evs id key :=
  since_snoc_of_idle hstart (not_or.2 ⟨hends, htakes⟩)

/-- The last event decides whether a call gets its response, keeps it or is over. -/
theorem answered_snoc : Answered (evs ++ [ev]) id key r ↔
    (ev = .received r true ∧ r.id = some id ∧ Waits evs id key) ∨
      Answered evs id key r ∧ ¬ ev.Ends key :=
  since_snoc

end Histories

end CardLink.Engine
