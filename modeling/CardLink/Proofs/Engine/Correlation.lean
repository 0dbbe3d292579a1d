import CardLink.Network.Call
import CardLink.Proofs.Engine.Invariant

/-!
# Calls and their responses belong together

As long as no call is started under the id of a call that has its response and has not ended, the
history of an engine alone says who waits for what: a response is taken exactly when a call with its
id waits, and what a call returns is the response that it took.

* `Engine.Ledger`: the invariant; the table and the mailboxes say what the history says.
* `Engine.Holds.trace`: a response that was taken stays in its mailbox until the call is over.
* **`Engine.responses_correlated`**: the main statement, for every run of careful callers.

NOT here: callers that use the id of an answered call again; see `CardLink.Proofs.Engine.SharedId`.
-/

namespace CardLink.Engine

/-! ## 1. The history and the engine -/

/-- **The engine is as its history tells.** -/
structure Ledger (evs : List Event) (e : Engine) : Prop where
  sound : Sound e
  /-- no two calls under way share an id -/
  ids : ∀ c ∈ e.calls, ∀ d ∈ e.calls, c.id = d.id → c = d
  kept : ∀ c ∈ e.calls, c.mailbox ≠ .abandoned
  waits : ∀ id key, e.pending.get? id = some key ↔ Waits evs id key
  answered : ∀ c ∈ e.calls, ∀ r, c.mailbox = .delivered r → Answered evs c.id c.key r

section Ledger

variable {evs : List Event} {e e' : Engine} {ev : Event} {c d : Call} {id : String} {key : Nat}
  {r : Envelope}

theorem ledger_new (patience limit : Nat) : Ledger [] (new patience limit) where
  sound := sound_new patience limit
  ids c hc := absurd hc List.not_mem_nil
  kept c hc := absurd hc List.not_mem_nil
  waits id key := by
    constructor
    · intro h
      cases h
    · intro h
      exact absurd h not_since_nil
  answered c hc := absurd hc List.not_mem_nil

/-- An event that neither admits a call, nor ends one, nor is a response that was taken. -/
theorem Ledger.idle (h : Ledger evs e) (hstart : ∀ id key, ev ≠ .started id (.ok key))
    (hends : ∀ key, ¬ ev.Ends key) (htakes : ∀ id, ¬ ev.Takes id) : Ledger (evs ++ [ev]) e where
  sound := h.sound
  ids := h.ids
  kept := h.kept
  waits id key := by
    rw [h.waits, waits_snoc_of_idle (hstart id key) (hends key) (htakes id)]
  answered c hc r hm := answered_snoc.2 (.inr ⟨h.answered c hc r hm, hends c.key⟩)

theorem Ledger.admitting (h : Ledger evs e) (hp : e.pending.get? id = none)
    (hcareful : ¬ e.HasAnswered id) (action : String) (patience now : Nat) :
    Ledger (evs ++ [.started id (.ok e.nextKey)]) (e.admitting id action patience now) := by
  -- nobody under way has this id: it would be pending or answered
  have hnew : ∀ c ∈ e.calls, c.id ≠ id := by
    rintro c hc rfl
    cases hm : c.mailbox with
    | empty =>
      have hrec := (h.sound.record c.id c.key).2 ⟨c, hc, rfl, rfl, hm⟩
      rw [hp] at hrec
      cases hrec
    | delivered r => exact hcareful ⟨c, hc, rfl, r, hm⟩
    | abandoned => exact h.kept c hc hm
  refine ⟨h.sound.admitting hp action patience now, ?_, ?_, ?_, ?_⟩
  · intro c hc d hd hcd
    rcases List.mem_append.1 hc with hc | hc
    · rcases List.mem_append.1 hd with hd | hd
      · exact h.ids c hc d hd hcd
      · rw [List.mem_singleton.1 hd] at hcd
        exact absurd hcd (hnew c hc)
    · rcases List.mem_append.1 hd with hd | hd
      · rw [List.mem_singleton.1 hc] at hcd
        exact absurd hcd.symm (hnew d hd)
      · rw [List.mem_singleton.1 hc, List.mem_singleton.1 hd]
  · intro c hc
    rcases List.mem_append.1 hc with hc | hc
    · exact h.kept c hc
    · rw [List.mem_singleton.1 hc]
      exact Mailbox.noConfusion
  · intro id' key
    show (e.pending.insert id e.nextKey).get? id' = some key ↔ _
    rw [Table.get?_insert]
    by_cases hid : id' = id
    · subst hid
      rw [if_pos rfl, waits_snoc]
      constructor
      · intro hk
        obtain rfl : e.nextKey = key := by simpa using hk
        exact .inl rfl
      · intro hcase
        rcases hcase with heq | ⟨hw, -⟩
        · cases heq
          rfl
        · rw [(h.waits id' key).2 hw] at hp
          cases hp
    · have hstart : Event.started id (.ok e.nextKey) ≠ .started id' (.ok key) :=
        Event.started_ne hid
      rw [if_neg hid, h.waits, waits_snoc_of_idle hstart (fun ht => ht) (fun ht => ht)]
  · intro c hc r hm
    rcases List.mem_append.1 hc with hc | hc
    · exact answered_snoc.2 (.inr ⟨h.answered c hc r hm, fun ht => ht⟩)
    · rw [List.mem_singleton.1 hc] at hm
      cases hm

theorem Ledger.sent (h : Ledger evs e) (key now : Nat) :
    Ledger (evs ++ [.sent key]) (e.sent key now) := by
  -- only the phase of a call changes
  have hold : ∀ d ∈ (e.sent key now).calls,
      ∃ c ∈ e.calls, d.key = c.key ∧ d.id = c.id ∧ d.mailbox = c.mailbox := by
    intro d hd
    obtain ⟨c, hc, rfl⟩ := mem_updateCall.1 hd
    refine ⟨c, hc, ?_⟩
    split
    · exact ⟨rfl, rfl, rfl⟩
    · exact ⟨rfl, rfl, rfl⟩
  have hsound := h.sound.sent key now
  refine ⟨hsound, ?_, ?_, ?_, ?_⟩
  · intro d hd d' hd' hid
    obtain ⟨c, hc, hk, hi, -⟩ := hold d hd
    obtain ⟨c', hc', hk', hi', -⟩ := hold d' hd'
    have hcc : c = c' := h.ids c hc c' hc' (by rw [← hi, ← hi', hid])
    exact hsound.eq_of_key hd hd' (by rw [hk, hk', hcc])
  · intro d hd
    obtain ⟨c, hc, -, -, hm⟩ := hold d hd
    rw [hm]
    exact h.kept c hc
  · intro id k
    show e.pending.get? id = some k ↔ _
    have hstart : Event.sent key ≠ .started id (.ok k) := Event.noConfusion
    rw [h.waits, waits_snoc_of_idle hstart (fun ht => ht) (fun ht => ht)]
  · intro d hd r hm
    obtain ⟨c, hc, hk, hi, hmail⟩ := hold d hd
    rw [hk, hi]
    exact answered_snoc.2 (.inr ⟨h.answered c hc r (hmail ▸ hm), fun ht => ht⟩)

theorem Ledger.delivering (h : Ledger evs e) (hr : r.id = some id)
    (hp : e.pending.get? id = some key) :
    Ledger (evs ++ [.received r true]) (e.delivering id key r) := by
  obtain ⟨c₀, hc₀, hk₀, hid₀, hm₀⟩ := (h.sound.record id key).1 hp
  have hold : ∀ d ∈ (e.delivering id key r).calls, ∃ c ∈ e.calls, d.key = c.key ∧ d.id = c.id ∧
      (c = c₀ ∧ d.mailbox = .delivered r ∨ c ≠ c₀ ∧ d.mailbox = c.mailbox) := by
    intro d hd
    obtain ⟨c, hc, rfl⟩ := mem_updateCall.1 hd
    refine ⟨c, hc, ?_⟩
    split
    · rename_i hck
      exact ⟨rfl, rfl, .inl ⟨h.sound.eq_of_key hc hc₀ (hck.trans hk₀.symm), rfl⟩⟩
    · rename_i hck
      exact ⟨rfl, rfl, .inr ⟨fun heq => hck (by rw [heq, hk₀]), rfl⟩⟩
  have hsound := h.sound.delivering hp r
  refine ⟨hsound, ?_, ?_, ?_, ?_⟩
  · intro d hd d' hd' hid
    obtain ⟨c, hc, hk, hi, -⟩ := hold d hd
    obtain ⟨c', hc', hk', hi', -⟩ := hold d' hd'
    have hcc : c = c' := h.ids c hc c' hc' (by rw [← hi, ← hi', hid])
    exact hsound.eq_of_key hd hd' (by rw [hk, hk', hcc])
  · intro d hd
    obtain ⟨c, hc, -, -, ⟨-, hm⟩ | ⟨-, hm⟩⟩ := hold d hd
    · rw [hm]
      exact Mailbox.noConfusion
    · rw [hm]
      exact h.kept c hc
  · intro id' k
    show (e.pending.erase id).get? id' = some k ↔ _
    rw [Table.get?_erase]
    by_cases hid : id' = id
    · subst hid
      rw [if_pos rfl]
      exact iff_of_false (Option.some_ne_none k).symm (not_since_snoc Event.noConfusion (.inr ⟨rfl, hr⟩))
    · have htakes := Event.not_takes_of_ne hr hid
      have hstart : Event.received r true ≠ .started id' (.ok k) := Event.noConfusion
      rw [if_neg hid, h.waits, waits_snoc_of_idle hstart (fun ht => ht) htakes]
  · intro d hd r' hm'
    obtain ⟨c, hc, hk, hi, ⟨rfl, hm⟩ | ⟨-, hm⟩⟩ := hold d hd
    · obtain rfl : r = r' := by simpa [hm] using hm'
      rw [hk, hi, hk₀, hid₀]
      exact answered_snoc.2 (.inl ⟨rfl, hr, (h.waits id key).1 hp⟩)
    · rw [hk, hi]
      exact answered_snoc.2 (.inr ⟨h.answered c hc r' (hm ▸ hm'), fun ht => ht⟩)

/-- A call goes, and no other call loses anything. -/
theorem Ledger.withdrawing (h : Ledger evs e) (hc : c ∈ e.calls)
    (hends : ∀ k, ev.Ends k ↔ c.key = k) (hstart : ∀ id k, ev ≠ .started id (.ok k))
    (htakes : ∀ id, ¬ ev.Takes id) : Ledger (evs ++ [ev]) (e.withdrawing c) := by
  -- the record under this id is the call's own, or there is none
  have hown : ∀ d ∈ e.calls, d.key ≠ c.key → some d.key ≠ e.pending.get? c.id := by
    intro d hd hne heq
    obtain ⟨d', hd', hk', hid', -⟩ := (h.sound.record c.id d.key).1 heq.symm
    exact hne (by rw [← hk', h.ids d' hd' c hc hid'])
  have hold : ∀ d ∈ (e.withdrawing c).calls, d ∈ e.calls ∧ d.key ≠ c.key := by
    intro d hd
    obtain ⟨d', hd', hne, rfl⟩ := mem_withdrawing.1 hd
    rw [bereft_of_ne (hown d' hd' hne)]
    exact ⟨hd', hne⟩
  refine ⟨h.sound.withdrawing hc, ?_, ?_, ?_, ?_⟩
  · intro d hd d' hd' hid
    exact h.ids d (hold d hd).1 d' (hold d' hd').1 hid
  · intro d hd
    exact h.kept d (hold d hd).1
  · intro id key
    show (e.pending.erase c.id).get? id = some key ↔ _
    rw [Table.get?_erase, waits_snoc]
    by_cases hid : id = c.id
    · rw [if_pos hid]
      constructor
      · intro hk
        cases hk
      · intro hcase
        rcases hcase with heq | ⟨hw, hend, -⟩
        · exact absurd heq (hstart id key)
        · obtain ⟨d, hd, hk, hdid, -⟩ := (h.sound.record id key).1 ((h.waits id key).2 hw)
          have hdc : d = c := h.ids d hd c hc (hdid.trans hid)
          exact absurd ((hends key).2 (by rw [← hdc, hk])) hend
    · rw [if_neg hid]
      constructor
      · intro hk
        obtain ⟨d, hd, hdk, hdid, -⟩ := (h.sound.record id key).1 hk
        refine .inr ⟨(h.waits id key).1 hk, fun hend => hid ?_, htakes id⟩
        rw [← hdid, h.sound.eq_of_key hd hc (hdk.trans ((hends key).1 hend).symm)]
      · intro hcase
        rcases hcase with heq | ⟨hw, -⟩
        · exact absurd heq (hstart id key)
        · exact (h.waits id key).2 hw
  · intro d hd r hm
    refine answered_snoc.2 (.inr ⟨h.answered d (hold d hd).1 r hm, fun hend => ?_⟩)
    exact (hold d hd).2 ((hends d.key).1 hend).symm

/-- **One step of careful callers keeps engine and history together.** -/
theorem ledger_step (h : Ledger evs e) (hs : CarefulStep e ev e') : Ledger (evs ++ [ev]) e' := by
  obtain ⟨hs, hcareful⟩ := hs
  cases hs with
  | start id action patience now =>
    rcases start_cases e id action patience now with ⟨-, heq⟩ | ⟨-, -, heq⟩ | ⟨-, hp, heq⟩
    · rw [heq]
      refine h.idle (fun _ _ hev => ?_) (fun _ ht => ht) (fun _ ht => ht)
      cases hev
    · rw [heq]
      refine h.idle (fun _ _ hev => ?_) (fun _ ht => ht) (fun _ ht => ht)
      cases hev
    · rw [heq] at hcareful ⊢
      exact h.admitting hp (hcareful id e.nextKey rfl) action patience now
  | sent c now _ _ => exact h.sent c.key now
  | unsent c reason hc _ =>
    rw [h.sound.release_of_mem hc]
    exact h.withdrawing hc (fun _ => Iff.rfl) (fun _ _ hev => by cases hev) (fun _ ht => ht)
  | receive r =>
    rcases accept_cases e r with ⟨id, key, hr, hp, heq⟩ | ⟨-, heq⟩
    · rw [heq]
      exact h.delivering hr hp
    · rw [heq]
      refine h.idle (fun _ _ hev => ?_) (fun _ ht => ht) (fun _ ht => ?_)
      · cases hev
      · cases ht.1
  | finish c now ending hc _ =>
    rw [h.sound.release_of_mem hc]
    exact h.withdrawing hc (fun _ => Iff.rfl) (fun _ _ hev => by cases hev) (fun _ ht => ht)
  | drop c hc =>
    rw [h.sound.release_of_mem hc]
    exact h.withdrawing hc (fun _ => Iff.rfl) (fun _ _ hev => by cases hev) (fun _ ht => ht)

theorem ledger_of_trace {patience limit : Nat}
    (h : Trace CarefulStep (new patience limit) evs e) : Ledger evs e :=
  h.invariant (ledger_new patience limit) fun _ _ _ _ _ hI hs => ledger_step hI hs

end Ledger

/-! ## 2. A response that was taken -/

/-- The call with this key, as long as it is under way, has this response. -/
structure Holds (e : Engine) (key : Nat) (r : Envelope) : Prop where
  used : key < e.nextKey
  mail : ∀ c ∈ e.calls, c.key = key → c.mailbox = .delivered r

section Holds

variable {evs : List Event} {e e' : Engine} {ev : Event} {c d : Call} {key : Nat} {r : Envelope}

/-- What a call holds is no longer in the table, so neither a response nor the end of another call
reaches it. -/
theorem Holds.not_pending (hh : Holds e key r) (h : Sound e) (id : String) :
    e.pending.get? id ≠ some key := by
  intro hp
  obtain ⟨c, hc, hk, -, hm⟩ := (h.record id key).1 hp
  rw [hh.mail c hc hk] at hm
  cases hm

theorem Holds.withdrawing (hh : Holds e key r) (h : Sound e) (c : Call) :
    Holds (e.withdrawing c) key r where
  used := hh.used
  mail d hd hk := by
    obtain ⟨d', hd', -, rfl⟩ := mem_withdrawing.1 hd
    rw [key_bereft] at hk
    have howner : some d'.key ≠ e.pending.get? c.id := fun heq =>
      hh.not_pending h c.id (by rw [← heq, hk])
    rw [bereft_of_ne howner]
    exact hh.mail d' hd' hk

/-- **A response that was taken stays where it is.** -/
theorem Holds.step (hh : Holds e key r) (h : Sound e) (hs : Step e ev e') : Holds e' key r := by
  cases hs with
  | start id action patience now =>
    rcases start_cases e id action patience now with ⟨-, heq⟩ | ⟨-, -, heq⟩ | ⟨-, -, heq⟩
    · rw [heq]; exact hh
    · rw [heq]; exact hh
    · rw [heq]
      refine ⟨Nat.lt_succ_of_lt hh.used, fun c hc hk => ?_⟩
      exact hh.mail c (mem_of_admitting hc (hk ▸ hh.used)) hk
  | sent c now _ _ =>
    exact ⟨hh.used, forall_updateCall hh.mail (fun _ => rfl) fun _ _ hm => hm⟩
  | unsent c _ hc _ => rw [h.release_of_mem hc]; exact hh.withdrawing h c
  | receive r' =>
    rcases accept_cases e r' with ⟨id, key', -, hp, heq⟩ | ⟨-, heq⟩
    · rw [heq]
      -- the call that takes the response is another one
      have hne : key' ≠ key := fun hk => hh.not_pending h id (by rw [hp, hk])
      exact ⟨hh.used, forall_updateCall hh.mail (fun _ => rfl) fun _ hk => absurd hk hne⟩
    · rw [heq]; exact hh
  | finish c _ _ hc _ => rw [h.release_of_mem hc]; exact hh.withdrawing h c
  | drop c hc => rw [h.release_of_mem hc]; exact hh.withdrawing h c

/-- The end of one call leaves the others under way. -/
theorem mem_withdrawing_of_ne (hd : d ∈ e.calls) (hne : d.key ≠ c.key) :
    ∃ d' ∈ (e.withdrawing c).calls, d'.key = d.key :=
  ⟨_, mem_withdrawing.2 ⟨d, hd, hne, rfl⟩, key_bereft _ d⟩

/-- **A call stays under way until an event ends it.** -/
theorem under_way_step (h : Sound e) (hs : Step e ev e') (hd : d ∈ e.calls)
    (hends : ¬ ev.Ends d.key) : ∃ d' ∈ e'.calls, d'.key = d.key := by
  have hupdate : ∀ key (f : Call → Call), (∀ c, (f c).key = c.key) →
      ∃ d' ∈ (e.updateCall key f).calls, d'.key = d.key := by
    intro key f hf
    have hkeys := map_key_updateCall e key hf
    have hmem : d.key ∈ (e.updateCall key f).calls.map (·.key) := by
      rw [hkeys]
      exact List.mem_map_of_mem hd
    obtain ⟨d', hd', hk⟩ := List.mem_map.1 hmem
    exact ⟨d', hd', hk⟩
  cases hs with
  | start id action patience now =>
    rcases start_cases e id action patience now with ⟨-, heq⟩ | ⟨-, -, heq⟩ | ⟨-, -, heq⟩
    · rw [heq]; exact ⟨d, hd, rfl⟩
    · rw [heq]; exact ⟨d, hd, rfl⟩
    · rw [heq]; exact ⟨d, List.mem_append_left _ hd, rfl⟩
  | sent c now _ _ => exact hupdate c.key _ fun _ => rfl
  | unsent c _ hc _ =>
    rw [h.release_of_mem hc]
    exact mem_withdrawing_of_ne hd fun hk => hends hk.symm
  | receive r =>
    rcases accept_cases e r with ⟨id, key, -, -, heq⟩ | ⟨-, heq⟩
    · rw [heq]; exact hupdate key _ fun _ => rfl
    · rw [heq]; exact ⟨d, hd, rfl⟩
  | finish c _ _ hc _ =>
    rw [h.release_of_mem hc]
    exact mem_withdrawing_of_ne hd fun hk => hends hk.symm
  | drop c hc =>
    rw [h.release_of_mem hc]
    exact mem_withdrawing_of_ne hd fun hk => hends hk.symm

/-- After a run a call is still under way, or some event of the run ended it. -/
theorem under_way_or_ended (h : Sound e) (ht : Trace Step e evs e')
    (hkey : ∃ d ∈ e.calls, d.key = key) :
    (∃ ev ∈ evs, ev.Ends key) ∨ ∃ d ∈ e'.calls, d.key = key := by
  have hboth : Sound e' ∧ ((∃ ev ∈ evs, ev.Ends key) ∨ ∃ d ∈ e'.calls, d.key = key) := by
    refine ht.invariant
      (I := fun evs e' => Sound e' ∧ ((∃ ev ∈ evs, ev.Ends key) ∨ ∃ d ∈ e'.calls, d.key = key))
      ⟨h, .inr hkey⟩ fun evs t ev u _ hI hs => ⟨sound_step hI.1 hs, ?_⟩
    rcases hI.2 with ⟨ev', hev', hend⟩ | ⟨d, hd, rfl⟩
    · exact .inl ⟨ev', List.mem_append_left _ hev', hend⟩
    · by_cases hend : ev.Ends d.key
      · exact .inl ⟨ev, List.mem_append_right _ (List.mem_singleton_self _), hend⟩
      · exact .inr (under_way_step hI.1 hs hd hend)
  exact hboth.2

theorem Holds.trace (hh : Holds e key r) (h : Sound e) (ht : Trace Step e evs e') :
    Sound e' ∧ Holds e' key r :=
  ht.invariant (I := fun _ e' => Sound e' ∧ Holds e' key r) ⟨h, hh⟩
    fun _ _ _ _ _ hI hs => ⟨sound_step hI.1 hs, hI.2.step hI.1 hs⟩

/-- A response that a call takes is in its mailbox. -/
theorem holds_delivering (h : Sound e) {id : String} (hp : e.pending.get? id = some key)
    (r : Envelope) : Holds (e.delivering id key r) key r := by
  obtain ⟨c, hc, hk, -⟩ := (h.record id key).1 hp
  refine ⟨by rw [← hk]; exact h.fresh c hc, fun d hd hdk => ?_⟩
  obtain ⟨c', -, rfl⟩ := mem_updateCall.1 hd
  split at hdk
  · rename_i hck
    rw [if_pos hck]
  · rename_i hck
    exact absurd hdk hck

end Holds

/-! ## 3. How calls end -/

/-- The result says what a response said. -/
def IsReply (result : Except CallError String) : Prop :=
  (∃ body, result = .ok body) ∨ ∃ x, result = .error (.remote x)

theorem answered_of_isReply {c : Call} {ending : CallEnding} (h : IsReply (ending.result c)) :
    ∃ r elapsed, ending = .answered r elapsed := by
  cases ending with
  | answered r elapsed => exact ⟨r, elapsed, rfl⟩
  | timedOut => rcases h with ⟨body, h⟩ | ⟨x, h⟩ <;> cases h
  | abandoned => rcases h with ⟨body, h⟩ | ⟨x, h⟩ <;> cases h
  | unsent reason => rcases h with ⟨body, h⟩ | ⟨x, h⟩ <;> cases h

theorem mailbox_of_answered {c : Call} {now elapsed : Nat} {r : Envelope}
    (h : c.ending? now = some (.answered r elapsed)) : c.mailbox = .delivered r := by
  unfold Call.ending? at h
  cases hp : c.phase with
  | sending => simp [hp] at h
  | waiting deadline =>
    cases hm : c.mailbox with
    | empty =>
      simp only [hp, hm] at h
      split at h <;> cases h
    | delivered r' => simp_all
    | abandoned => simp [hp, hm] at h

/-- A call with its response ends with it, whatever the time. -/
theorem ending?_of_delivered {c : Call} {now : Nat} {r : Envelope} {ending : CallEnding}
    (hm : c.mailbox = .delivered r) (h : c.ending? now = some ending) :
    ending = .answered r (now - c.started) := by
  unfold Call.ending? at h
  cases hp : c.phase with
  | sending => simp [hp] at h
  | waiting deadline => simpa [hp, hm] using h.symm

/-! ## 4. The main statement -/

/-- After these events the call with this key, and no other, waits for this response. -/
def Awaited (evs : List Event) (r : Envelope) (key : Nat) : Prop :=
  ∃ id, r.id = some id ∧ Waits evs id key ∧ ∀ key', Waits evs id key' → key' = key

/-- **The response decides the call**: among these later events no other end of the call is found,
unless its request could not be sent; and as long as nothing ended it, the response is in its
mailbox. -/
def Settled (after : List Event) (e : Engine) (key : Nat) (r : Envelope) : Prop :=
  (∀ c ending, .ended c ending ∈ after → c.key = key →
    (∃ elapsed, ending = .answered r elapsed) ∨ ∃ reason, ending = .unsent reason) ∧
  ((∃ ev ∈ after, ev.Ends key) ∨ ∃ c ∈ e.calls, c.key = key ∧ c.mailbox = .delivered r)

/-- Why a call is refused under an id that is pending: the budget is looked at first. -/
def refusal (e : Engine) (id : String) : CallError :=
  if e.limit ≤ e.calls.length then .tooManyPending e.limit else .duplicateId id

/-- **Calls and responses belong together after these events.** -/
structure Correlated (evs : List Event) (e : Engine) : Prop where
  /-- the table holds the calls that wait, each under its id, and no others -/
  pending : ∀ id key, e.pending.get? id = some key ↔ Waits evs id key
  /-- a response is taken exactly when a call with its id waits -/
  taken_iff : ∀ r, (e.accept r).1 = true ↔ ∃ id key, r.id = some id ∧ Waits evs id key
  /-- a response that is taken removes the record of its id and no other -/
  record : ∀ r, (e.accept r).1 = true → ∀ id,
    (e.accept r).2.pending.get? id = if r.id = some id then none else e.pending.get? id
  /-- a response that is not taken changes nothing -/
  stray : ∀ r, (e.accept r).1 = false → (e.accept r).2 = e
  /-- a call returns what its response says: the first one with its id that was taken since the call
  was admitted -/
  result : ∀ before c ending after, evs = before ++ .ended c ending :: after →
    IsReply (ending.result c) → ∃ r, Answered before c.id c.key r ∧ ending.result c = r.result
  /-- a response that was taken decides one call -/
  decides : ∀ before r after, evs = before ++ .received r true :: after →
    ∃ key, Awaited before r key ∧ Settled after e key r
  /-- a call under an id that is pending fails at once -/
  refused : ∀ id key, Waits evs id key → ∀ action patience now,
    e.start id action patience now = (.error (e.refusal id), e)
  /-- such a call sends nothing and leaves all of the network as it was -/
  unsent : ∀ id key, Waits evs id key → ∀ (n : Network) caller, n.engine? caller = some e →
    ∀ action body route patience,
      n.start caller action body route (some id) patience = (.error (e.refusal id), n)

section Correlated

variable {evs : List Event} {e : Engine}

theorem Ledger.taken_iff (h : Ledger evs e) (r : Envelope) :
    (e.accept r).1 = true ↔ ∃ id key, r.id = some id ∧ Waits evs id key := by
  rcases accept_cases e r with ⟨id, key, hr, hp, heq⟩ | ⟨hnone, heq⟩
  · rw [heq]
    exact ⟨fun _ => ⟨id, key, hr, (h.waits id key).1 hp⟩, fun _ => rfl⟩
  · rw [heq]
    constructor
    · intro hfalse
      cases hfalse
    · intro hsome
      obtain ⟨id, key, hr, hw⟩ := hsome
      have hp := (h.waits id key).2 hw
      rw [hnone id hr] at hp
      cases hp

theorem accept_record (r : Envelope) (htaken : (e.accept r).1 = true) (id : String) :
    (e.accept r).2.pending.get? id = if r.id = some id then none else e.pending.get? id := by
  rcases accept_cases e r with ⟨id', key, hr, -, heq⟩ | ⟨-, heq⟩
  · rw [heq, hr]
    show (e.pending.erase id').get? id = _
    rw [Table.get?_erase]
    by_cases hid : id = id'
    · rw [if_pos hid, if_pos (by rw [hid])]
    · rw [if_neg hid, if_neg fun hsome => hid (Option.some.inj hsome).symm]
  · rw [heq] at htaken
    cases htaken

theorem accept_stray (r : Envelope) (hstray : (e.accept r).1 = false) : (e.accept r).2 = e := by
  rcases accept_cases e r with ⟨id, key, -, -, heq⟩ | ⟨-, heq⟩
  · rw [heq] at hstray
    cases hstray
  · rw [heq]

theorem Ledger.refused (h : Ledger evs e) {id : String} {key : Nat} (hw : Waits evs id key)
    (action : String) (patience now : Nat) :
    e.start id action patience now = (.error (e.refusal id), e) := by
  have hp := (h.waits id key).2 hw
  unfold refusal
  rw [← h.sound.slots]
  rcases start_cases e id action patience now with ⟨hfull, heq⟩ | ⟨hroom, -, heq⟩ | ⟨-, hnone, -⟩
  · rw [heq, if_pos hfull]
  · rw [heq, if_neg (by omega)]
  · rw [hp] at hnone
    cases hnone

theorem start_eq_of_refused {n : Network} {caller : Caller} {id : String} {reason : CallError}
    (he : n.engine? caller = some e) {action body : String} {route : Route} {patience : Nat}
    (h : e.start id action patience n.now = (.error reason, e)) :
    n.start caller action body route (some id) patience = (.error reason, n) := by
  unfold Network.start
  simp only [Network.chooseId, he, h]

/-- **A response that was taken decides its call**, whatever the callers do afterwards. -/
theorem Sound.settled {after : List Event} {t : Engine} {r : Envelope} {key : Nat} {id : String}
    (h : Sound t) (hp : t.pending.get? id = some key)
    (ht : Trace Step (t.delivering id key r) after e) : Settled after e key r := by
  have hsound := h.delivering hp r
  have hholds := holds_delivering h hp r
  refine ⟨fun c ending hmem hk => ?_, ?_⟩
  · obtain ⟨mid, rest, rfl⟩ := List.append_of_mem hmem
    obtain ⟨u, u', hu, hs, -⟩ := ht.split rfl
    have hu' := (hholds.trace hsound hu).2
    cases hs with
    | unsent _ reason _ _ => exact .inr ⟨reason, rfl⟩
    | finish _ now _ hc he => exact .inl ⟨_, ending?_of_delivered (hu'.mail c hc hk) he⟩
  · obtain ⟨c, hc, hk, -⟩ := (h.record id key).1 hp
    have hunder : ∃ d ∈ (t.delivering id key r).calls, d.key = key :=
      ⟨_, mem_updateCall.2 ⟨c, hc, if_pos hk⟩, hk⟩
    rcases under_way_or_ended hsound ht hunder with hend | ⟨d, hd, hdk⟩
    · exact .inl hend
    · exact .inr ⟨d, hd, hdk, (hholds.trace hsound ht).2.mail d hd hdk⟩

/-- What is known of a response once it was taken. -/
theorem settled_of_trace {before after : List Event} {t : Engine} {r : Envelope} {key : Nat}
    {id : String} (h : Ledger before t) (hp : t.pending.get? id = some key)
    (ht : Trace Step (t.delivering id key r) after e) : Settled after e key r :=
  h.sound.settled hp ht

/-- **Calls and their responses belong together**, after every run of an engine whose callers start
no call under the id of a call that has its response and has not ended. -/
theorem responses_correlated {patience limit : Nat}
    (h : Trace CarefulStep (new patience limit) evs e) : Correlated evs e := by
  have hL := ledger_of_trace h
  refine ⟨hL.waits, hL.taken_iff, accept_record, accept_stray, ?_, ?_, ?_, ?_⟩
  · intro before c ending after heq hreply
    obtain ⟨t, t', ht, ⟨hs, -⟩, -⟩ := h.split heq
    obtain ⟨r, elapsed, rfl⟩ := answered_of_isReply hreply
    refine ⟨r, ?_, rfl⟩
    cases hs with
    | finish _ now _ hc he => exact (ledger_of_trace ht).answered c hc r (mailbox_of_answered he)
  · intro before r after heq
    obtain ⟨t, t', ht, ⟨hs, -⟩, hafter⟩ := h.split heq
    have hLt := ledger_of_trace ht
    generalize hev : Event.received r true = ev at hs
    cases hs with
    | receive r' =>
      obtain ⟨rfl, htaken⟩ := Event.received.inj hev
      rcases accept_cases t r with ⟨id, key, hr, hp, hacc⟩ | ⟨-, hacc⟩
      · rw [hacc] at hafter
        refine ⟨key, ⟨id, hr, (hLt.waits id key).1 hp, fun key' hw => ?_⟩,
          settled_of_trace hLt hp (hafter.mono fun _ _ _ hs => hs.1)⟩
        have hboth := (hLt.waits id key').2 hw
        rw [hp] at hboth
        exact (Option.some.inj hboth).symm
      · rw [hacc] at htaken
        cases htaken
    | start => cases hev
    | sent => cases hev
    | unsent => cases hev
    | finish => cases hev
    | drop => cases hev
  · intro id key hw action patience' now
    exact hL.refused hw action patience' now
  · intro id key hw n caller he action body route patience'
    exact start_eq_of_refused he (hL.refused hw action patience' n.now)

end Correlated

/-- A response that comes while the request is still being sent. -/
def earlyResponse : Envelope := .response "ping" "pong" .blank "a"

/-- With room for one call: it has its response before its request is sent, another call finds no
room meanwhile, and after its end the id is used again. -/
def earlyRun : List Event :=
  [.started "a" (.ok 0), .received earlyResponse true, .started "b" (.error (.tooManyPending 1)),
   .sent 0,
   .ended ⟨0, "a", "ping", 50, 0, .waiting 60, .delivered earlyResponse⟩
     (.answered earlyResponse 10),
   .started "a" (.ok 1)]

theorem responses_correlated_early :
    ∃ e, Trace CarefulStep (new 50 1) earlyRun e ∧ Correlated earlyRun e := by
  have h₁ : Trace CarefulStep (new 50 1) [.started "a" (.ok 0)] _ :=
    .snoc [] _ _ _ .start ⟨.start "a" "ping" 50 0, fun _ _ _ h => by
      obtain ⟨c, hc, -⟩ := h
      exact absurd hc List.not_mem_nil⟩
  have h₂ := Trace.snoc _ _ _ _ h₁ ⟨.receive earlyResponse, fun _ _ h => by cases h⟩
  have h₃ := Trace.snoc _ _ _ _ h₂ ⟨.start "b" "ping" 50 5, fun _ _ h => by cases h⟩
  have h₄ := Trace.snoc _ _ _ _ h₃
    ⟨.sent ⟨0, "a", "ping", 50, 0, .sending, .delivered earlyResponse⟩ 10 (List.mem_singleton_self _) rfl,
      fun _ _ h => by cases h⟩
  have h₅ := Trace.snoc _ _ _ _ h₄
    ⟨.finish ⟨0, "a", "ping", 50, 0, .waiting 60, .delivered earlyResponse⟩ 10 _
      (List.mem_singleton_self _) rfl, fun _ _ h => by cases h⟩
  have h₆ : Trace CarefulStep (new 50 1) earlyRun _ := Trace.snoc _ _ _ _ h₅
    ⟨.start "a" "ping" 50 10, fun _ _ _ h => by
      obtain ⟨c, hc, -⟩ := h
      exact absurd hc List.not_mem_nil⟩
  exact ⟨_, h₆, responses_correlated h₆⟩

end CardLink.Engine
