import Mathlib.Data.List.Perm.Subperm
import CardLink.Proofs.Engine.Invariant

/-!
# The budget of calls

An engine has a fixed number of slots. A call takes one when it is started, before its id is looked
at, and keeps it until it is over: a response that is taken leaves the slot alone. However a call
ends, its own slot is free again and no other one is.

* `Engine.live`: the calls under way, read off the events alone.
* `Engine.start_eq_reserve`: a start is first of all the taking of a slot, which a call under a
  pending id gives back.
* `Engine.Spent`: the invariant; `spent_step` for one step, `spent_of_trace` for a run.
* **`Engine.budget_kept`**: slots, records and refusals after every run, whatever ids are chosen.
-/

namespace CardLink.Engine

/-! ## 1. Calls under way -/

/-- The key of the call that was admitted. -/
def Event.admitted? : Event → Option Nat
  | .started _ (.ok key) => some key
  | _ => none

/-- The calls under way after an event. -/
def Event.survivors (keys : List Nat) : Event → List Nat
  | .started _ (.ok key) => keys ++ [key]
  | .ended c _ => keys.erase c.key
  | .dropped c => keys.erase c.key
  | _ => keys

/-- **The calls that were admitted and are not over after these events**, by their keys. -/
def live (evs : List Event) : List Nat := evs.foldl Event.survivors []

theorem live_snoc (evs : List Event) (ev : Event) :
    live (evs ++ [ev]) = ev.survivors (live evs) := by
  simp [live]

theorem survivors_of_ends {ev : Event} {key : Nat} (h : ev.Ends key) (keys : List Nat) :
    ev.survivors keys = keys.erase key := by
  cases ev with
  | ended c ending => rw [Event.survivors, show c.key = key from h]
  | dropped c => rw [Event.survivors, show c.key = key from h]
  | started id outcome => exact h.elim
  | sent key' => exact h.elim
  | received r taken => exact h.elim

theorem survivors_of_idle {ev : Event} (hadmitted : ev.admitted? = none)
    (hends : ∀ key, ¬ ev.Ends key) (keys : List Nat) : ev.survivors keys = keys := by
  cases ev with
  | started id outcome =>
    cases outcome with
    | ok key => cases hadmitted
    | error reason => rfl
  | sent key => rfl
  | received r taken => rfl
  | ended c ending => exact absurd rfl (hends c.key)
  | dropped c => exact absurd rfl (hends c.key)

/-! ## 2. Slots -/

/-- Takes a slot if one is left. -/
def reserve (e : Engine) : Option Engine :=
  if e.slots < e.limit then some { e with slots := e.slots + 1 } else none

/-- Gives a slot back. -/
def giveBack (e : Engine) : Engine := { e with slots := e.slots - 1 }

/-- Lets in a call that has its slot. -/
def enter (e : Engine) (id action : String) (patience now : Nat) : Engine :=
  { e with
    pending := e.pending.insert id e.nextKey
    calls := e.calls ++ [⟨e.nextKey, id, action, patience, now, .sending, .empty⟩]
    nextKey := e.nextKey + 1 }

/-- What is taken can be given back. -/
theorem giveBack_reserve {e e' : Engine} (h : e.reserve = some e') : e'.giveBack = e := by
  unfold reserve at h
  split at h
  · obtain rfl := Option.some.inj h
    rfl
  · cases h

/-- **A call takes its slot first**, and gives it back at once if its id is pending. -/
theorem start_eq_reserve (e : Engine) (id action : String) (patience now : Nat) :
    e.start id action patience now =
      match e.reserve with
      | none => (.error (.tooManyPending e.limit), e)
      | some e' =>
        if e'.isPending id then (.error (.duplicateId id), e'.giveBack)
        else (.ok e'.nextKey, e'.enter id action patience now) := by
  unfold start reserve
  by_cases hfull : e.limit ≤ e.slots
  · rw [if_pos hfull, if_neg (Nat.not_lt.2 hfull)]
  · rw [if_neg hfull, if_pos (Nat.lt_of_not_le hfull)]
    rfl

section Slots

variable {e : Engine} {id action : String} {patience now : Nat}

theorem start_full_iff {limit : Nat} :
    (e.start id action patience now).1 = .error (.tooManyPending limit) ↔
      e.limit ≤ e.slots ∧ limit = e.limit := by
  rcases start_cases e id action patience now with ⟨hfull, heq⟩ | ⟨hroom, -, heq⟩ | ⟨hroom, -, heq⟩
  · rw [heq]
    constructor
    · intro h
      obtain rfl : e.limit = limit := by simpa using h
      exact ⟨hfull, rfl⟩
    · intro h
      rw [h.2]
  · rw [heq]
    constructor
    · intro h
      cases h
    · intro h
      omega
  · rw [heq]
    constructor
    · intro h
      cases h
    · intro h
      omega

/-- A call that is not admitted leaves nothing behind. -/
theorem start_of_refused {reason : CallError}
    (h : (e.start id action patience now).1 = .error reason) :
    (e.start id action patience now).2 = e := by
  rcases start_cases e id action patience now with ⟨-, heq⟩ | ⟨-, -, heq⟩ | ⟨-, -, heq⟩
  · rw [heq]
  · rw [heq]
  · rw [heq] at h
    cases h

end Slots

/-! ## 3. The invariant -/

/-- Every record is the record of a call of its own. -/
theorem Sound.pendingCount_le {e : Engine} (h : Sound e) : e.pendingCount ≤ e.calls.length := by
  have hrecord : ∀ id key, (id, key) ∈ e.pending.entries →
      ∃ c ∈ e.calls, c.key = key ∧ c.id = id ∧ c.mailbox = .empty :=
    fun id key hmem => (h.record id key).1 (Table.mem_entries_iff.1 hmem)
  -- two records with one key stand for one call, and so for one id
  have hnodup : e.pending.values.Nodup := by
    refine List.pairwise_map.2 (e.pending.sorted.imp_of_mem fun {a b} ha hb hlt heq => ?_)
    obtain ⟨c, hc, hck, hcid, -⟩ := hrecord a.1 a.2 ha
    obtain ⟨d, hd, hdk, hdid, -⟩ := hrecord b.1 b.2 hb
    have hname : a.1 = b.1 := by
      rw [← hcid, ← hdid, h.eq_of_key hc hd (by rw [hck, hdk, heq])]
    exact String.lt_irrefl _ (hname ▸ hlt)
  have hsubset : e.pending.values ⊆ e.calls.map (·.key) := by
    intro key hkey
    obtain ⟨id, hget⟩ := Table.mem_values_iff.1 hkey
    obtain ⟨c, hc, hck, -⟩ := (h.record id key).1 hget
    exact List.mem_map.2 ⟨c, hc, hck⟩
  have hle := (hnodup.subperm hsubset).length_le
  simpa [pendingCount, Table.size, Table.values] using hle

/-- **The slots of an engine after these events**: its calls are those that the events tell of, and
there are no more of them than there may be. -/
structure Spent (most : Nat) (evs : List Event) (e : Engine) : Prop where
  sound : Sound e
  calls : e.calls.map (·.key) = live evs
  limit : e.limit = most
  bound : e.slots ≤ most

section Spent

variable {limit patience : Nat} {evs : List Event} {ev : Event} {e e' : Engine} {c : Call}

theorem Spent.slots (h : Spent limit evs e) : e.slots = (live evs).length := by
  rw [h.sound.slots, ← h.calls, List.length_map]

theorem spent_new (patience limit : Nat) : Spent limit [] (new patience limit) :=
  ⟨sound_new patience limit, rfl, rfl, Nat.zero_le _⟩

/-- An event that neither admits a call nor ends one, in an engine with the same calls. -/
theorem Spent.idle (h : Spent limit evs e) (hsound : Sound e')
    (hadmitted : ev.admitted? = none) (hends : ∀ key, ¬ ev.Ends key)
    (hcalls : e'.calls.map (·.key) = e.calls.map (·.key)) (hslots : e'.slots = e.slots)
    (hlimit : e'.limit = e.limit) : Spent limit (evs ++ [ev]) e' where
  sound := hsound
  calls := by rw [live_snoc, survivors_of_idle hadmitted hends, hcalls, h.calls]
  limit := hlimit.trans h.limit
  bound := hslots ▸ h.bound

theorem Spent.admitting (h : Spent limit evs e) {id : String} (hroom : e.slots < e.limit)
    (hp : e.pending.get? id = none) (action : String) (patience now : Nat) :
    Spent limit (evs ++ [.started id (.ok e.nextKey)]) (e.admitting id action patience now) where
  sound := h.sound.admitting hp action patience now
  calls := by
    rw [live_snoc, Event.survivors, ← h.calls]
    exact List.map_append
  limit := h.limit
  bound := by
    show e.slots + 1 ≤ limit
    rw [← h.limit]
    exact hroom

/-- The call that ends is one that the events tell of. -/
theorem Spent.mem_live (h : Spent limit evs e) (hc : c ∈ e.calls) : c.key ∈ live evs := by
  rw [← h.calls]
  exact List.mem_map_of_mem hc

theorem Spent.withdrawing (h : Spent limit evs e) (hc : c ∈ e.calls) (hends : ev.Ends c.key) :
    Spent limit (evs ++ [ev]) (e.withdrawing c) where
  sound := h.sound.withdrawing hc
  calls := by
    have hkeep : Call.key ∘ bereft (e.pending.get? c.id) = Call.key :=
      funext (key_bereft _)
    show ((e.calls.filter (·.key != c.key)).map (bereft _)).map Call.key = _
    rw [live_snoc, survivors_of_ends hends, ← h.calls, h.sound.keys.erase_eq_filter,
      List.filter_map, List.map_map, hkeep]
    rfl
  limit := h.limit
  bound := Nat.le_trans (Nat.sub_le _ _) h.bound

/-- **One step keeps the invariant.** -/
theorem spent_step (h : Spent limit evs e) (hs : Step e ev e') : Spent limit (evs ++ [ev]) e' := by
  have hsound := sound_step h.sound hs
  cases hs with
  | start id action patience now =>
    rcases start_cases e id action patience now with ⟨-, heq⟩ | ⟨-, -, heq⟩ | ⟨hroom, hp, heq⟩
    · rw [heq]
      exact h.idle h.sound rfl (fun _ hends => hends) rfl rfl rfl
    · rw [heq]
      exact h.idle h.sound rfl (fun _ hends => hends) rfl rfl rfl
    · rw [heq]
      exact h.admitting hroom hp action patience now
  | sent c now _ _ =>
    exact h.idle hsound rfl (fun _ hends => hends) (map_key_updateCall e c.key fun _ => rfl) rfl rfl
  | unsent c reason hc _ =>
    rw [h.sound.release_of_mem hc]
    exact h.withdrawing hc rfl
  | receive r =>
    rcases accept_cases e r with ⟨id, key, -, -, heq⟩ | ⟨-, heq⟩
    · rw [heq] at hsound ⊢
      exact h.idle hsound rfl (fun _ hends => hends) (map_key_updateCall _ key fun _ => rfl) rfl rfl
    · rw [heq]
      exact h.idle h.sound rfl (fun _ hends => hends) rfl rfl rfl
  | finish c now ending hc _ =>
    rw [h.sound.release_of_mem hc]
    exact h.withdrawing hc rfl
  | drop c hc =>
    rw [h.sound.release_of_mem hc]
    exact h.withdrawing hc rfl

theorem spent_of_trace (h : Trace Step (new patience limit) evs e) : Spent limit evs e :=
  h.invariant (spent_new patience limit) fun _ _ _ _ _ hI hs => spent_step hI hs

end Spent

/-! ## 4. The main statement -/

/-- **The budget of an engine after these events**, with so many slots. -/
structure Budgeted (most : Nat) (evs : List Event) (e : Engine) : Prop where
  /-- a slot is taken for each call under way and for nothing else -/
  slots : e.slots = (live evs).length
  pending : e.pendingCount ≤ (live evs).length
  bound : (live evs).length ≤ most
  /-- a call finds no slot exactly if as many calls are under way as may be, whatever its id -/
  full_iff : ∀ id action patience now limit,
    (e.start id action patience now).1 = .error (.tooManyPending limit) ↔
      (live evs).length = most ∧ limit = most
  /-- a call under a pending id takes a slot and gives back this one -/
  duplicate : ∀ id, (live evs).length < most → e.isPending id = true →
    ∃ e', e.reserve = some e' ∧ e'.slots = e.slots + 1 ∧ e'.giveBack = e ∧
      ∀ action patience now,
        e.start id action patience now = (.error (.duplicateId id), e'.giveBack)
  /-- a call that is refused leaves nothing behind -/
  refused : ∀ id action patience now reason,
    (e.start id action patience now).1 = .error reason →
      (e.start id action patience now).2 = e
  /-- a call that is admitted is a new one and takes one slot -/
  admits : ∀ ev e' key, Step e ev e' → ev.admitted? = some key →
    key ∉ live evs ∧ live (evs ++ [ev]) = live evs ++ [key] ∧ e'.slots = e.slots + 1
  /-- however a call ends, it was under way, and its slot and no other is free again -/
  ends : ∀ ev e' key, Step e ev e' → ev.Ends key →
    key ∈ live evs ∧ live (evs ++ [ev]) = (live evs).erase key ∧ e'.slots + 1 = e.slots
  /-- all other events leave every call its slot, the taking of a response among them -/
  keeps : ∀ ev e', Step e ev e' → ev.admitted? = none → (∀ key, ¬ ev.Ends key) →
    live (evs ++ [ev]) = live evs ∧ e'.slots = e.slots
  /-- once no call is under way, all slots are free and no id is pending -/
  quiet : live evs = [] → e.slots = 0 ∧ e.pending = .empty

section Budgeted

variable {most patience : Nat} {evs : List Event} {ev : Event} {e e' : Engine}

/-- The slots after a step are those of the calls that are under way then. -/
theorem Spent.slots_step (h : Spent most evs e) (hs : Step e ev e') :
    e'.slots = (ev.survivors (live evs)).length := by
  rw [← live_snoc]
  exact (spent_step h hs).slots

theorem Spent.duplicate (h : Spent most evs e) {id : String} (hroom : (live evs).length < most)
    (hp : e.isPending id = true) :
    ∃ e', e.reserve = some e' ∧ e'.slots = e.slots + 1 ∧ e'.giveBack = e ∧
      ∀ action patience now,
        e.start id action patience now = (.error (.duplicateId id), e'.giveBack) := by
  have hfree : e.slots < e.limit := by
    rw [h.slots, h.limit]
    exact hroom
  have hreserve : e.reserve = some { e with slots := e.slots + 1 } := if_pos hfree
  refine ⟨_, hreserve, rfl, giveBack_reserve hreserve, fun action patience now => ?_⟩
  rw [start_eq_reserve, hreserve]
  exact if_pos hp

/-- A key is given to one call only. -/
theorem Spent.admits (h : Spent most evs e) (hs : Step e ev e') {key : Nat}
    (hadmitted : ev.admitted? = some key) :
    key ∉ live evs ∧ live (evs ++ [ev]) = live evs ++ [key] ∧ e'.slots = e.slots + 1 := by
  have hslots := h.slots_step hs
  cases hs with
  | start id action patience now =>
    rcases start_cases e id action patience now with ⟨-, heq⟩ | ⟨-, -, heq⟩ | ⟨-, -, heq⟩
    · rw [heq] at hadmitted
      cases hadmitted
    · rw [heq] at hadmitted
      cases hadmitted
    · rw [heq] at hadmitted hslots ⊢
      obtain rfl : e.nextKey = key := Option.some.inj hadmitted
      refine ⟨fun hmem => ?_, live_snoc _ _, ?_⟩
      · rw [← h.calls] at hmem
        obtain ⟨c, hc, hck⟩ := List.mem_map.1 hmem
        exact Nat.lt_irrefl _ (hck ▸ h.sound.fresh c hc)
      · rw [hslots, Event.survivors, List.length_append, h.slots]
        rfl
  | sent => cases hadmitted
  | unsent => cases hadmitted
  | receive => cases hadmitted
  | finish => cases hadmitted
  | drop => cases hadmitted

/-- Only a call under way ends. -/
theorem Spent.ended_mem (h : Spent most evs e) (hs : Step e ev e') {key : Nat}
    (hends : ev.Ends key) : key ∈ live evs := by
  cases hs with
  | start => exact hends.elim
  | sent => exact hends.elim
  | receive => exact hends.elim
  | unsent c reason hc _ => exact hends ▸ h.mem_live hc
  | finish c now ending hc _ => exact hends ▸ h.mem_live hc
  | drop c hc => exact hends ▸ h.mem_live hc

theorem Spent.ends (h : Spent most evs e) (hs : Step e ev e') {key : Nat} (hends : ev.Ends key) :
    key ∈ live evs ∧ live (evs ++ [ev]) = (live evs).erase key ∧ e'.slots + 1 = e.slots := by
  have hmem := h.ended_mem hs hends
  have hlive : live (evs ++ [ev]) = (live evs).erase key := by
    rw [live_snoc, survivors_of_ends hends]
  refine ⟨hmem, hlive, ?_⟩
  rw [h.slots_step hs, survivors_of_ends hends, h.slots, List.length_erase_of_mem hmem]
  exact Nat.sub_add_cancel (List.length_pos_of_mem hmem)

theorem Spent.quiet (h : Spent most evs e) (hlive : live evs = []) :
    e.slots = 0 ∧ e.pending = .empty := by
  have hcalls : e.calls = [] := by
    rw [← List.map_eq_nil_iff (f := fun c : Call => c.key), h.calls, hlive]
  refine ⟨by rw [h.slots, hlive, List.length_nil], Table.ext_get? fun id => ?_⟩
  cases hget : e.pending.get? id with
  | none => rfl
  | some key =>
    obtain ⟨c, hc, -⟩ := (h.sound.record id key).1 hget
    rw [hcalls] at hc
    cases hc

/-- **The budget is kept** after every run of an engine, whatever ids its callers choose and however
their calls end. -/
theorem budget_kept (h : Trace Step (new patience most) evs e) : Budgeted most evs e := by
  have hS := spent_of_trace h
  have hbound : (live evs).length ≤ most := hS.slots ▸ hS.bound
  refine ⟨hS.slots, ?_, hbound, ?_, ?_, ?_, ?_, ?_, ?_, hS.quiet⟩
  · rw [← hS.slots, hS.sound.slots]
    exact hS.sound.pendingCount_le
  · intro id action patience now limit
    rw [start_full_iff, hS.limit, hS.slots]
    constructor
    · rintro ⟨hfull, rfl⟩
      exact ⟨Nat.le_antisymm hbound hfull, rfl⟩
    · rintro ⟨hfull, rfl⟩
      exact ⟨Nat.le_of_eq hfull.symm, rfl⟩
  · intro id hroom hp
    exact hS.duplicate hroom hp
  · intro id action patience now reason hrefused
    exact start_of_refused hrefused
  · intro ev e' key hs hadmitted
    exact hS.admits hs hadmitted
  · intro ev e' key hs hends
    exact hS.ends hs hends
  · intro ev e' hs hadmitted hends
    rw [live_snoc, hS.slots_step hs, survivors_of_idle hadmitted hends]
    exact ⟨rfl, hS.slots.symm⟩

end Budgeted

/-- The response to the first of the calls below. -/
def crowdedResponse : Envelope := .response "ping" "pong" .blank "a"

/-- With two slots: an id is used twice in vain, first for the id, then for want of a slot; the
answered call keeps its slot until it returns, and the other one cannot be sent. -/
def crowdedRun : List Event :=
  [.started "a" (.ok 0), .started "a" (.error (.duplicateId "a")), .started "b" (.ok 1),
   .started "a" (.error (.tooManyPending 2)), .received crowdedResponse true,
   .started "c" (.error (.tooManyPending 2)),
   .ended ⟨1, "b", "ping", 50, 0, .sending, .empty⟩ (.unsent .disconnected), .sent 0,
   .ended ⟨0, "a", "ping", 50, 0, .waiting 60, .delivered crowdedResponse⟩
     (.answered crowdedResponse 10)]

theorem budget_kept_crowded :
    ∃ e, Trace Step (new 50 2) crowdedRun e ∧ Budgeted 2 crowdedRun e := by
  have h₁ : Trace Step (new 50 2) [.started "a" (.ok 0)] _ :=
    .snoc [] _ _ _ .start (.start "a" "ping" 50 0)
  have h₂ := Trace.snoc _ _ _ _ h₁ (.start "a" "ping" 50 0)
  have h₃ := Trace.snoc _ _ _ _ h₂ (.start "b" "ping" 50 0)
  have h₄ := Trace.snoc _ _ _ _ h₃ (.start "a" "ping" 50 0)
  have h₅ := Trace.snoc _ _ _ _ h₄ (.receive crowdedResponse)
  have h₆ := Trace.snoc _ _ _ _ h₅ (.start "c" "ping" 50 5)
  have h₇ := Trace.snoc _ _ _ _ h₆
    (.unsent ⟨1, "b", "ping", 50, 0, .sending, .empty⟩ .disconnected
      (List.mem_cons_of_mem _ List.mem_cons_self) rfl)
  have h₈ := Trace.snoc _ _ _ _ h₇
    (.sent ⟨0, "a", "ping", 50, 0, .sending, .delivered crowdedResponse⟩ 10
      (List.mem_singleton_self _) rfl)
  have h₉ : Trace Step (new 50 2) crowdedRun _ := Trace.snoc _ _ _ _ h₈
    (.finish ⟨0, "a", "ping", 50, 0, .waiting 60, .delivered crowdedResponse⟩ 10 _
      (List.mem_singleton_self _) rfl)
  exact ⟨_, h₉, budget_kept h₉⟩

end CardLink.Engine
