import CardLink.Proofs.Engine.Invariant

/-!
# One call on an idle engine

An engine without calls under way admits any call. The call waits, takes the response with its id, and
leaves the engine idle again.

* `Engine.Idle`: nothing is under way, and there is room for a call.
* `Idle.start`, `accept_asking`: the call is admitted, and the response is its own.
* `Idle.release`: afterwards the engine is idle as before.
-/

namespace CardLink.Engine

/-- No call is under way, and one may be started. -/
structure Idle (e : Engine) : Prop where
  slots : e.slots = 0
  pending : ∀ id, e.pending.get? id = none
  calls : e.calls = []
  room : 1 ≤ e.limit

theorem idle_new {limit : Nat} (h : 1 ≤ limit) (patience : Nat) : Idle (new patience limit) where
  slots := rfl
  pending _ := rfl
  calls := rfl
  room := h

/-- The engine while its one call waits. -/
def asking (e : Engine) (id action : String) (patience now : Nat) : Engine :=
  { e with
    slots := e.slots + 1
    pending := e.pending.insert id e.nextKey
    calls := [⟨e.nextKey, id, action, patience, now, .waiting (now + patience), .empty⟩]
    nextKey := e.nextKey + 1 }

/-- The engine once its one call has a response. -/
def answered (e : Engine) (id action : String) (patience now : Nat) (r : Envelope) : Engine :=
  { e with
    slots := e.slots + 1
    pending := (e.pending.insert id e.nextKey).erase id
    calls := [⟨e.nextKey, id, action, patience, now, .waiting (now + patience), .delivered r⟩]
    nextKey := e.nextKey + 1 }

section Idle

variable {e : Engine} {id action : String} {patience now : Nat}

theorem Idle.start (h : Idle e) :
    e.start id action patience now = (.ok e.nextKey, e.admitting id action patience now) := by
  rcases start_cases e id action patience now with ⟨hfull, -⟩ | ⟨-, ⟨key, hkey⟩, -⟩ | ⟨-, -, hstart⟩
  · have hroom := h.room
    have hslots := h.slots
    omega
  · rw [h.pending id] at hkey
    cases hkey
  · exact hstart

/-- The call was admitted and its request is sent. -/
theorem Idle.sent (h : Idle e) :
    (e.admitting id action patience now).sent e.nextKey now = e.asking id action patience now := by
  simp [Engine.sent, updateCall, admitting, asking, h.calls]

theorem call?_asking :
    (e.asking id action patience now).call? e.nextKey =
      some ⟨e.nextKey, id, action, patience, now, .waiting (now + patience), .empty⟩ := by
  simp [call?, asking]

theorem isPending_asking : (e.asking id action patience now).isPending id = true := by
  simp [isPending, Table.contains, asking, Table.get?_insert]

/-- The response with the id of the call is the call's. -/
theorem accept_asking {r : Envelope} (hr : r.id = some id) :
    (e.asking id action patience now).accept r = (true, e.answered id action patience now r) := by
  simp [accept, hr, asking, answered, Table.get?_insert, updateCall]

theorem call?_answered {r : Envelope} :
    (e.answered id action patience now r).call? e.nextKey =
      some ⟨e.nextKey, id, action, patience, now, .waiting (now + patience), .delivered r⟩ := by
  simp [call?, answered]

/-- **The call leaves the engine idle.** -/
theorem Idle.release (h : Idle e) {r : Envelope} :
    Idle ((e.answered id action patience now r).release e.nextKey) := by
  unfold Engine.release
  rw [call?_answered]
  refine ⟨?_, fun name => ?_, ?_, h.room⟩
  · show e.slots + 1 - 1 = 0
    rw [h.slots]
  · show (((e.pending.insert id e.nextKey).erase id).erase id).get? name = none
    rw [Table.get?_erase, Table.get?_erase, Table.get?_insert, h.pending]
    split <;> rfl
  · simp [answered]

theorem patience_release {r : Envelope} :
    ((e.answered id action patience now r).release e.nextKey).patience = e.patience := by
  unfold Engine.release
  rw [call?_answered]
  rfl

end Idle

end CardLink.Engine
