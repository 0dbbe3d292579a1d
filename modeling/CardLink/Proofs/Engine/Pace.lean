import CardLink.Proofs.Engine.Invariant

/-!
# When a call goes on

The sending of a request takes a fixed time, the latency. From its start to its end a call has, at
each time, one moment at which it is to be looked at next if no response comes: first the end of its
sending, then its deadline. As long as it is looked at in time, its deadline is the latency and the
patience after its start.

* `Call.due`, `Call.OnTime`: the moment, and that it has not passed.
* `Call.lookedAt`: what a look makes of a call; `OnTime.ended`, `OnTime.unended`: whether it ends it.
* `Engine.Stays`: what the other calls of an engine are after a call got its response or ended.
* `Engine.SameAt`: the calls under one id, which those under other ids do not change.
-/

namespace CardLink

/-! ## 1. The moments of a call -/

namespace Call

variable {latency now now' : Nat} {c : Call} {ending : CallEnding}

/-- When a call is to be looked at next if no response comes. -/
def due (latency : Nat) (c : Call) : Nat :=
  match c.phase with
  | .sending => c.started + latency
  | .waiting deadline => deadline

/-- The request of a call was sent, and there is something in its mailbox. -/
def Mailed (c : Call) : Prop := c.phase ≠ .sending ∧ c.mailbox ≠ .empty

/-- **A call was looked at in time** so far. -/
structure OnTime (latency now : Nat) (c : Call) : Prop where
  phase : c.phase = .sending ∨
    c.phase = .waiting (c.started + latency + c.patience) ∧ c.started + latency ≤ now
  due : now ≤ c.due latency

/-- What a look makes of a call: it waits once its request was sent. -/
def lookedAt (latency now : Nat) (c : Call) : Call :=
  if c.phase = .sending ∧ c.started + latency ≤ now then
    { c with phase := .waiting (now + c.patience) }
  else c

theorem OnTime.later (h : OnTime latency now c) (hle : now ≤ now') (hdue : now' ≤ c.due latency) :
    OnTime latency now' c where
  phase := h.phase.imp_right fun hwaits => ⟨hwaits.1, Nat.le_trans hwaits.2 hle⟩
  due := hdue

theorem onTime_mailbox (m : Mailbox) (h : OnTime latency now c) :
    OnTime latency now { c with mailbox := m } := ⟨h.phase, h.due⟩

/-- A call that is being sent is not looked at after its sending is over. -/
theorem OnTime.le_of_sending (h : OnTime latency now c) (hsending : c.phase = .sending) :
    now ≤ c.started + latency := by
  have hdue := h.due
  unfold Call.due at hdue
  rwa [hsending] at hdue

/-- A call is to be looked at at its deadline or earlier. -/
theorem OnTime.due_le (h : OnTime latency now c) :
    c.due latency ≤ c.started + latency + c.patience := by
  unfold Call.due
  rcases h.phase with hphase | ⟨hphase, -⟩ <;> simp [hphase]

theorem OnTime.le_deadline (h : OnTime latency now c) :
    now ≤ c.started + latency + c.patience := Nat.le_trans h.due h.due_le

theorem OnTime.lookedAt (h : OnTime latency now c) :
    OnTime latency now (c.lookedAt latency now) := by
  unfold Call.lookedAt
  split
  · rename_i hsent
    have hnow : now = c.started + latency := Nat.le_antisymm (h.le_of_sending hsent.1) hsent.2
    exact ⟨.inr ⟨by rw [← hnow], hsent.2⟩, Nat.le_add_right _ _⟩
  · exact h

/-- A look changes the phase of a call at most. -/
theorem exists_lookedAt (latency now : Nat) (c : Call) :
    ∃ phase, c.lookedAt latency now = { c with phase := phase } := by
  unfold lookedAt
  split
  · exact ⟨_, rfl⟩
  · exact ⟨c.phase, rfl⟩

@[simp] theorem key_lookedAt : (c.lookedAt latency now).key = c.key := by
  obtain ⟨phase, heq⟩ := exists_lookedAt latency now c
  rw [heq]

@[simp] theorem id_lookedAt : (c.lookedAt latency now).id = c.id := by
  obtain ⟨phase, heq⟩ := exists_lookedAt latency now c
  rw [heq]

@[simp] theorem action_lookedAt : (c.lookedAt latency now).action = c.action := by
  obtain ⟨phase, heq⟩ := exists_lookedAt latency now c
  rw [heq]

@[simp] theorem patience_lookedAt : (c.lookedAt latency now).patience = c.patience := by
  obtain ⟨phase, heq⟩ := exists_lookedAt latency now c
  rw [heq]

@[simp] theorem started_lookedAt : (c.lookedAt latency now).started = c.started := by
  obtain ⟨phase, heq⟩ := exists_lookedAt latency now c
  rw [heq]

@[simp] theorem mailbox_lookedAt : (c.lookedAt latency now).mailbox = c.mailbox := by
  obtain ⟨phase, heq⟩ := exists_lookedAt latency now c
  rw [heq]

theorem due_of_sending (h : c.phase = .sending) : c.due latency = c.started + latency := by
  unfold due
  rw [h]

theorem due_of_waiting {deadline : Nat} (h : c.phase = .waiting deadline) :
    c.due latency = deadline := by
  unfold due
  rw [h]

/-- **How a call ends**, by what is in its mailbox: never before its request is sent, and without a
response at its deadline. -/
theorem OnTime.ended (h : OnTime latency now c) (hending : c.ending? now = some ending) :
    c.started + latency ≤ now ∧
      match c.mailbox with
      | .delivered r => ending = .answered r (now - c.started)
      | .abandoned => ending = .abandoned
      | .empty => ending = .timedOut ∧ now = c.started + latency + c.patience := by
  rcases h.phase with hphase | ⟨hphase, hsent⟩
  · simp [ending?, hphase] at hending
  · refine ⟨hsent, ?_⟩
    have hdue := h.due
    rw [due_of_waiting hphase] at hdue
    unfold ending? at hending
    rw [hphase] at hending
    cases hmail : c.mailbox with
    | delivered r => simpa [hmail, eq_comm] using hending
    | abandoned => simpa [hmail, eq_comm] using hending
    | empty =>
      simp only [hmail, Option.ite_none_right_eq_some, Option.some.injEq] at hending
      exact ⟨hending.2.symm, Nat.le_antisymm hdue hending.1⟩

/-- A waiting call that does not end has no mail, and its deadline is still to come. -/
theorem unended_of_waiting {deadline : Nat} (hphase : c.phase = .waiting deadline)
    (hending : c.ending? now = none) : now < deadline ∧ c.mailbox = .empty := by
  unfold ending? at hending
  rw [hphase] at hending
  cases hmail : c.mailbox with
  | empty => simpa [hmail] using hending
  | delivered r => simp [hmail] at hending
  | abandoned => simp [hmail] at hending

theorem phase_of_not_mailed (h : ¬ c.Mailed) (hmail : c.mailbox ≠ .empty) : c.phase = .sending :=
  Decidable.byContradiction fun hphase => h ⟨hphase, hmail⟩

/-- **A call that a look does not end** has nothing to wait for but what is still to come. -/
theorem OnTime.unended (h : OnTime latency now c)
    (hending : (c.lookedAt latency now).ending? now = none) :
    now < (c.lookedAt latency now).due latency ∧ ¬ (c.lookedAt latency now).Mailed := by
  rcases h.lookedAt.phase with hphase | ⟨hphase, -⟩
  · refine ⟨?_, fun hmailed => hmailed.1 hphase⟩
    unfold Call.lookedAt at hphase ⊢
    split at hphase
    · cases hphase
    · rename_i hunsent
      rw [if_neg hunsent, due_of_sending hphase]
      simpa [hphase] using hunsent
  · obtain ⟨hlater, hempty⟩ := unended_of_waiting hphase hending
    exact ⟨by rwa [due_of_waiting hphase], fun hmailed => hmailed.2 hempty⟩

end Call

namespace Engine

variable {e e' : Engine} {c d : Call} {id x : String} {key latency now : Nat}

/-- What a look at one of its calls makes of an engine. -/
def lookedAt (latency now : Nat) (c : Call) (e : Engine) : Engine :=
  if c.phase = .sending ∧ c.started + latency ≤ now then e.sent c.key now else e

theorem Sound.lookedAt (h : Sound e) (latency now : Nat) (c : Call) :
    Sound (e.lookedAt latency now c) := by
  unfold Engine.lookedAt
  split
  · exact h.sent _ _
  · exact h

theorem Sound.mem_lookedAt (h : Sound e) (hc : c ∈ e.calls) :
    d ∈ (e.lookedAt latency now c).calls ↔
      d = c.lookedAt latency now ∨ d ∈ e.calls ∧ d.key ≠ c.key := by
  unfold Engine.lookedAt Call.lookedAt
  split
  · rw [Engine.sent, mem_updateCall]
    constructor
    · intro hsome
      obtain ⟨d, hd, rfl⟩ := hsome
      split
      · rename_i hkey
        rw [h.eq_of_key hd hc hkey]
        exact .inl rfl
      · exact .inr ⟨hd, ‹_›⟩
    · intro hcase
      rcases hcase with rfl | ⟨hd, hkey⟩
      · exact ⟨c, hc, if_pos rfl⟩
      · exact ⟨d, hd, if_neg hkey⟩
  · constructor
    · intro hd
      by_cases hkey : d.key = c.key
      · exact .inl (h.eq_of_key hd hc hkey)
      · exact .inr ⟨hd, hkey⟩
    · intro hcase
      rcases hcase with rfl | ⟨hd, -⟩
      · exact hc
      · exact hd

theorem Sound.lookedAt_mem (h : Sound e) (hc : c ∈ e.calls) (latency now : Nat) :
    c.lookedAt latency now ∈ (e.lookedAt latency now c).calls :=
  (h.mem_lookedAt hc).2 (.inl rfl)

/-! ## 2. What the other calls are afterwards -/

/-- One call is what became of another: something may be in its mailbox now. -/
def Stays (c c' : Call) : Prop :=
  ∃ m, c' = { c with mailbox := m } ∧ (c.mailbox ≠ .empty → m ≠ .empty)

theorem Stays.refl (c : Call) : Stays c c := ⟨c.mailbox, rfl, id⟩

theorem stays_delivering (hc : c ∈ e.calls) (id : String) (key : Nat) (r : Envelope) :
    ∃ c' ∈ (e.delivering id key r).calls, Stays c c' := by
  refine ⟨_, mem_updateCall.2 ⟨c, hc, rfl⟩, ?_⟩
  split
  · exact ⟨.delivered r, rfl, fun _ => by simp⟩
  · exact .refl c

theorem stays_accept (hc : c ∈ e.calls) (r : Envelope) :
    ∃ c' ∈ (e.accept r).2.calls, Stays c c' := by
  rcases e.accept_cases r with ⟨id, key, -, -, heq⟩ | ⟨-, heq⟩
  · rw [heq]
    exact stays_delivering hc id key r
  · rw [heq]
    exact ⟨c, hc, .refl c⟩

theorem stays_withdrawing (hd : d ∈ e.calls) (hkey : d.key ≠ c.key) :
    ∃ d' ∈ (e.withdrawing c).calls, Stays d d' := by
  refine ⟨_, mem_withdrawing.2 ⟨d, hd, hkey, rfl⟩, ?_⟩
  unfold bereft
  split
  · exact ⟨.abandoned, rfl, fun _ => by simp⟩
  · exact .refl d

/-! ## 3. The calls under one id -/

/-- The same calls are under way under an id. -/
def SameAt (x : String) (e e' : Engine) : Prop :=
  ∀ d : Call, d.id = x → (d ∈ e'.calls ↔ d ∈ e.calls)

theorem SameAt.refl (x : String) (e : Engine) : SameAt x e e := fun _ _ => Iff.rfl

theorem SameAt.trans {e'' : Engine} (h : SameAt x e e') (h' : SameAt x e' e'') : SameAt x e e'' :=
  fun d hd => (h' d hd).trans (h d hd)

/-- A change of calls under another id. -/
theorem sameAt_updateCall {f : Call → Call} (hid : ∀ d ∈ e.calls, d.key = key → d.id ≠ x)
    (hf : ∀ c, (f c).id = c.id) : SameAt x e (e.updateCall key f) := by
  intro d hd
  rw [mem_updateCall]
  constructor
  · intro hsome
    obtain ⟨c, hc, rfl⟩ := hsome
    by_cases hkey : c.key = key
    · rw [if_pos hkey, hf] at hd
      exact absurd hd (hid c hc hkey)
    · rwa [if_neg hkey]
  · exact fun hmem => ⟨d, hmem, if_neg fun hkey => hid d hmem hkey hd⟩

theorem sameAt_lookedAt (h : Sound e) (hc : c ∈ e.calls) (hid : c.id ≠ x) :
    SameAt x e (e.lookedAt latency now c) := by
  unfold lookedAt
  split
  · refine sameAt_updateCall (fun d hd hkey => ?_) fun _ => rfl
    rwa [h.eq_of_key hd hc hkey]
  · exact .refl x e

theorem sameAt_delivering (h : Sound e) (hp : e.pending.get? id = some key) (hid : id ≠ x)
    (r : Envelope) : SameAt x e (e.delivering id key r) := by
  refine sameAt_updateCall (e := { e with pending := e.pending.erase id }) (fun d hd hkey => ?_)
    fun _ => rfl
  obtain ⟨c, hc, hckey, rfl, -⟩ := (h.record id key).1 hp
  rwa [h.eq_of_key hd hc (hkey.trans hckey.symm)]

theorem sameAt_accept (h : Sound e) {r : Envelope} (hr : r.id ≠ some x) :
    SameAt x e (e.accept r).2 := by
  rcases e.accept_cases r with ⟨id, key, hid, hp, heq⟩ | ⟨-, heq⟩
  · rw [heq]
    exact sameAt_delivering h hp (fun heq => hr (by rw [hid, heq])) r
  · rw [heq]
    exact .refl x e

theorem sameAt_withdrawing (h : Sound e) (hc : c ∈ e.calls) (hid : c.id ≠ x) :
    SameAt x e (e.withdrawing c) := by
  intro d hd
  rw [mem_withdrawing]
  -- the record that goes with `c` has its id, so it is not the record of `d`
  have hstays : ∀ d' ∈ e.calls, d'.id = x → bereft (e.pending.get? c.id) d' = d' := by
    refine fun d' hd' hid' => bereft_of_ne fun heq => ?_
    obtain ⟨d'', hd'', hkey, hid'', -⟩ := (h.record c.id d'.key).1 heq.symm
    rw [h.eq_of_key hd'' hd' hkey] at hid''
    exact hid (hid''.symm.trans hid')
  constructor
  · intro hsome
    obtain ⟨d', hd', -, rfl⟩ := hsome
    rw [id_bereft] at hd
    rwa [hstays d' hd' hd]
  · intro hmem
    refine ⟨d, hmem, fun hkey => hid ?_, hstays d hmem hd⟩
    rw [← h.eq_of_key hmem hc hkey, hd]

theorem sameAt_admitting (hid : id ≠ x) (action : String) (patience now : Nat) :
    SameAt x e (e.admitting id action patience now) := by
  intro d hd
  show d ∈ e.calls ++ [_] ↔ _
  rw [List.mem_append, List.mem_singleton, or_iff_left]
  rintro rfl
  exact hid hd

/-- No call is under way under the id of the only one that had it, once it has ended. -/
theorem gone_withdrawing (honly : ∀ d ∈ e.calls, d.id = c.id → d = c) :
    ∀ d ∈ (e.withdrawing c).calls, d.id ≠ c.id := by
  intro d hd
  obtain ⟨d', hd', hkey, rfl⟩ := mem_withdrawing.1 hd
  rw [id_bereft]
  exact fun hid => hkey (by rw [honly d' hd' hid])

/-- A record stands for a call under way. -/
theorem Sound.get?_of_gone (h : Sound e) (hgone : ∀ d ∈ e.calls, d.id ≠ x) :
    e.pending.get? x = none := by
  cases hp : e.pending.get? x with
  | none => rfl
  | some key =>
    obtain ⟨d, hd, -, hid, -⟩ := (h.record x key).1 hp
    exact absurd hid (hgone d hd)

/-- A call that is taken out as soon as it was admitted leaves no trace among the calls. -/
theorem Sound.withdrawing_admitting (h : Sound e) (id action : String) (patience now : Nat) :
    ((e.admitting id action patience now).withdrawing
      ⟨e.nextKey, id, action, patience, now, .sending, .empty⟩).calls = e.calls := by
  have hfresh : ∀ d ∈ e.calls, d.key ≠ e.nextKey := fun d hd => Nat.ne_of_lt (h.fresh d hd)
  have howner : (e.admitting id action patience now).pending.get? id = some e.nextKey := by
    show (e.pending.insert id e.nextKey).get? id = _
    rw [Table.get?_insert, if_pos rfl]
  show ((e.calls ++ [_]).filter _).map
    (bereft ((e.admitting id action patience now).pending.get? id)) = _
  rw [howner, List.filter_append]
  have hkeep : e.calls.filter (·.key != e.nextKey) = e.calls :=
    List.filter_eq_self.2 fun d hd => by simpa using hfresh d hd
  have hmap : e.calls.map (bereft (some e.nextKey)) = e.calls := by
    refine (List.map_congr_left fun d hd => bereft_of_ne fun heq => ?_).trans (List.map_id _)
    exact hfresh d hd (Option.some.inj heq)
  simp [hkeep, hmap]

end Engine

end CardLink
