import CardLink.Proofs.Engine.Invariant

/-!
# Calls that share an id

The end of a call takes away whatever record stands under its id. While no two calls are under way
under one id that is its own record or none. If a call is started under the id of a call that has its
response and has not ended, the end of the earlier call takes the record of the later one, which is
then cut off from its response.

* `Engine.Account`: a record stands until a response with its id is taken or *some* call under its id
  ends, and a call is abandoned exactly when another one took its record.
* **`Engine.records_stay_iff`**: records leave only with their response or their call, and no call is
  cancelled, exactly when no call ends while another one waits under its id.
* `Engine.record_lost`: a run with two calls in which this goes wrong.
-/

namespace CardLink.Engine

/-! ## 1. Records -/

/-- A call under this id is over. -/
def Event.EndsUnder (id : String) : Event → Prop
  | .ended c _ => c.id = id
  | .dropped c => c.id = id
  | _ => False

/-- **After these events the record of the call stands**: the call was admitted under the id, and
since then no response with the id was taken and no call under the id is over. -/
def Recorded (evs : List Event) (id : String) (key : Nat) : Prop :=
  Since (fun _ ev => ev = .started id (.ok key)) (fun ev => ev.Takes id ∨ ev.EndsUnder id) evs

/-- **Another call took the record**: it ended under the same id while the record stood. -/
def Robbed (evs : List Event) (id : String) (key : Nat) : Prop :=
  Since (fun before ev => Recorded before id key ∧ ev.EndsUnder id ∧ ¬ ev.Ends key)
    (fun _ => False) evs

section Records

variable {evs : List Event} {e e' : Engine} {ev : Event} {c d : Call} {id : String} {key : Nat}
  {patience limit : Nat}

theorem recorded_snoc : Recorded (evs ++ [ev]) id key ↔
    ev = .started id (.ok key) ∨ Recorded evs id key ∧ ¬ ev.Takes id ∧ ¬ ev.EndsUnder id := by
  rw [← not_or]
  exact since_snoc

theorem recorded_snoc_of_idle (hstart : ev ≠ .started id (.ok key)) (htakes : ¬ ev.Takes id)
    (hunder : ¬ ev.EndsUnder id) : Recorded (evs ++ [ev]) id key ↔ Recorded evs id key :=
  since_snoc_of_idle hstart (not_or.2 ⟨htakes, hunder⟩)

theorem robbed_snoc : Robbed (evs ++ [ev]) id key ↔
    (Recorded evs id key ∧ ev.EndsUnder id ∧ ¬ ev.Ends key) ∨ Robbed evs id key := by
  unfold Robbed
  rw [since_snoc, and_iff_left not_false]

theorem Recorded.started (h : Recorded evs id key) : .started id (.ok key) ∈ evs := by
  obtain ⟨before, ev, after, rfl, rfl, -⟩ := h
  exact List.mem_append_right _ List.mem_cons_self

theorem Robbed.started (h : Robbed evs id key) : .started id (.ok key) ∈ evs := by
  obtain ⟨before, ev, after, rfl, ⟨hrec, -⟩, -⟩ := h
  exact List.mem_append_left _ hrec.started

/-! ## 2. The engine and its records -/

/-- **The table and the abandoned calls are as the history tells**, whatever ids the callers
choose. -/
structure Account (evs : List Event) (e : Engine) : Prop where
  sound : Sound e
  used : ∀ id key, .started id (.ok key) ∈ evs → key < e.nextKey
  recorded : ∀ id key, e.pending.get? id = some key ↔ Recorded evs id key
  robbed : ∀ c ∈ e.calls, c.mailbox = .abandoned ↔ Robbed evs c.id c.key

theorem account_new (patience limit : Nat) : Account [] (new patience limit) where
  sound := sound_new patience limit
  used id key h := absurd h List.not_mem_nil
  recorded id key := by
    constructor
    · intro h
      cases h
    · intro h
      exact absurd h not_since_nil
  robbed c hc := absurd hc List.not_mem_nil

/-- An event that ends no call robs none. -/
theorem robbed_snoc_of_not_ends (hends : ∀ id, ¬ ev.EndsUnder id) :
    Robbed (evs ++ [ev]) id key ↔ Robbed evs id key := by
  rw [robbed_snoc]
  constructor
  · intro hcase
    rcases hcase with ⟨-, hend, -⟩ | h
    · exact absurd hend (hends id)
    · exact h
  · exact .inr

/-- An event that neither admits a call, nor ends one, nor is a response that was taken. -/
theorem Account.idle (h : Account evs e) (hstart : ∀ id key, ev ≠ .started id (.ok key))
    (hends : ∀ id, ¬ ev.EndsUnder id) (htakes : ∀ id, ¬ ev.Takes id) :
    Account (evs ++ [ev]) e where
  sound := h.sound
  used id key hmem := by
    rcases List.mem_append.1 hmem with hmem | hmem
    · exact h.used id key hmem
    · exact absurd (List.mem_singleton.1 hmem).symm (hstart id key)
  recorded id key := by
    rw [h.recorded, recorded_snoc_of_idle (hstart id key) (htakes id) (hends id)]
  robbed c hc := by
    rw [robbed_snoc_of_not_ends hends]
    exact h.robbed c hc

theorem Account.admitting (h : Account evs e) (hp : e.pending.get? id = none) (action : String)
    (patience now : Nat) :
    Account (evs ++ [.started id (.ok e.nextKey)]) (e.admitting id action patience now) where
  sound := h.sound.admitting hp action patience now
  used id' key hmem := by
    rcases List.mem_append.1 hmem with hmem | hmem
    · exact Nat.lt_succ_of_lt (h.used id' key hmem)
    · cases List.mem_singleton.1 hmem
      exact Nat.lt_succ_self _
  recorded id' key := by
    show (e.pending.insert id e.nextKey).get? id' = some key ↔ _
    rw [Table.get?_insert]
    by_cases hid : id' = id
    · subst hid
      rw [if_pos rfl, recorded_snoc]
      constructor
      · intro hk
        obtain rfl : e.nextKey = key := by simpa using hk
        exact .inl rfl
      · intro hcase
        rcases hcase with heq | ⟨hrec, -⟩
        · cases heq
          rfl
        · rw [(h.recorded id' key).2 hrec] at hp
          cases hp
    · have hstart : Event.started id (.ok e.nextKey) ≠ .started id' (.ok key) :=
        Event.started_ne hid
      rw [if_neg hid, h.recorded, recorded_snoc_of_idle hstart (fun ht => ht) (fun ht => ht)]
  robbed c hc := by
    have hends : ∀ id', ¬ Event.EndsUnder id' (.started id (.ok e.nextKey)) := fun _ ht => ht
    rw [robbed_snoc_of_not_ends hends]
    rcases List.mem_append.1 hc with hc | hc
    · exact h.robbed c hc
    · rw [List.mem_singleton.1 hc]
      constructor
      · intro hm
        cases hm
      · intro hrob
        exact absurd (h.used id e.nextKey hrob.started) (Nat.lt_irrefl _)

theorem Account.sent (h : Account evs e) (key now : Nat) :
    Account (evs ++ [.sent key]) (e.sent key now) where
  sound := h.sound.sent key now
  used id k hmem := by
    rcases List.mem_append.1 hmem with hmem | hmem
    · exact h.used id k hmem
    · cases List.mem_singleton.1 hmem
  recorded id k := by
    show e.pending.get? id = some k ↔ _
    have hstart : Event.sent key ≠ .started id (.ok k) := Event.noConfusion
    rw [h.recorded, recorded_snoc_of_idle hstart (fun ht => ht) (fun ht => ht)]
  robbed d hd := by
    have hends : ∀ id', ¬ Event.EndsUnder id' (.sent key) := fun _ ht => ht
    rw [robbed_snoc_of_not_ends hends]
    obtain ⟨c, hc, rfl⟩ := mem_updateCall.1 hd
    split
    · exact h.robbed c hc
    · exact h.robbed c hc

theorem Account.delivering (h : Account evs e) {r : Envelope} (hr : r.id = some id)
    (hp : e.pending.get? id = some key) :
    Account (evs ++ [.received r true]) (e.delivering id key r) where
  sound := h.sound.delivering hp r
  used id' k hmem := by
    rcases List.mem_append.1 hmem with hmem | hmem
    · exact h.used id' k hmem
    · cases List.mem_singleton.1 hmem
  recorded id' k := by
    show (e.pending.erase id).get? id' = some k ↔ _
    rw [Table.get?_erase]
    by_cases hid : id' = id
    · subst hid
      rw [if_pos rfl]
      exact iff_of_false (Option.some_ne_none k).symm (not_since_snoc Event.noConfusion (.inl ⟨rfl, hr⟩))
    · have htakes := Event.not_takes_of_ne hr hid
      have hstart : Event.received r true ≠ .started id' (.ok k) := Event.noConfusion
      rw [if_neg hid, h.recorded, recorded_snoc_of_idle hstart htakes (fun ht => ht)]
  robbed d hd := by
    have hends : ∀ id', ¬ Event.EndsUnder id' (.received r true) := fun _ ht => ht
    rw [robbed_snoc_of_not_ends hends]
    obtain ⟨c, hc, rfl⟩ := mem_updateCall.1 hd
    split
    · rename_i hck
      -- it took the response because its mailbox was empty, so nobody had robbed it
      obtain ⟨c', hc', hk', -, hm'⟩ := (h.sound.record id key).1 hp
      have hcc : c = c' := h.sound.eq_of_key hc hc' (hck.trans hk'.symm)
      constructor
      · intro hm
        cases hm
      · intro hrob
        have hm := (h.robbed c hc).2 hrob
        rw [hcc, hm'] at hm
        cases hm
    · exact h.robbed c hc

theorem Account.withdrawing (h : Account evs e) (hc : c ∈ e.calls)
    (hends : ∀ k, ev.Ends k ↔ c.key = k) (hunder : ∀ id, ev.EndsUnder id ↔ c.id = id)
    (hstart : ∀ id k, ev ≠ .started id (.ok k)) (htakes : ∀ id, ¬ ev.Takes id) :
    Account (evs ++ [ev]) (e.withdrawing c) where
  sound := h.sound.withdrawing hc
  used id k hmem := by
    rcases List.mem_append.1 hmem with hmem | hmem
    · exact h.used id k hmem
    · exact absurd (List.mem_singleton.1 hmem).symm (hstart id k)
  recorded id k := by
    show (e.pending.erase c.id).get? id = some k ↔ _
    rw [Table.get?_erase]
    by_cases hid : id = c.id
    · rw [if_pos hid]
      exact iff_of_false (Option.some_ne_none k).symm
        (not_since_snoc (hstart id k) (.inr ((hunder id).2 hid.symm)))
    · have hother : ¬ ev.EndsUnder id := fun hend => hid ((hunder id).1 hend).symm
      rw [if_neg hid, h.recorded, recorded_snoc_of_idle (hstart id k) (htakes id) hother]
  robbed d hd := by
    obtain ⟨d', hd', hne, rfl⟩ := mem_withdrawing.1 hd
    rw [key_bereft, id_bereft, robbed_snoc, hunder, hends]
    by_cases howner : some d'.key = e.pending.get? c.id
    · obtain ⟨d₀, hd₀, hk₀, hid₀, -⟩ := (h.sound.record c.id d'.key).1 howner.symm
      have hid : c.id = d'.id := by rw [← hid₀, h.sound.eq_of_key hd₀ hd' hk₀]
      have hrec := (h.recorded c.id d'.key).1 howner.symm
      rw [bereft, if_pos howner]
      exact ⟨fun _ => .inl ⟨hid ▸ hrec, hid, Ne.symm hne⟩, fun _ => rfl⟩
    · rw [bereft_of_ne howner, h.robbed d' hd']
      constructor
      · exact .inr
      · intro hcase
        rcases hcase with ⟨hrec, hid, -⟩ | hrob
        · exact absurd ((h.recorded _ _).2 hrec).symm (by rw [← hid]; exact howner)
        · exact hrob

theorem account_step (h : Account evs e) (hs : Step e ev e') : Account (evs ++ [ev]) e' := by
  cases hs with
  | start id action patience now =>
    rcases start_cases e id action patience now with ⟨-, heq⟩ | ⟨-, -, heq⟩ | ⟨-, hp, heq⟩
    · rw [heq]
      refine h.idle (fun _ _ hev => ?_) (fun _ ht => ht) (fun _ ht => ht)
      cases hev
    · rw [heq]
      refine h.idle (fun _ _ hev => ?_) (fun _ ht => ht) (fun _ ht => ht)
      cases hev
    · rw [heq]
      exact h.admitting hp action patience now
  | sent c now _ _ => exact h.sent c.key now
  | unsent c reason hc _ =>
    rw [h.sound.release_of_mem hc]
    exact h.withdrawing hc (fun _ => Iff.rfl) (fun _ => Iff.rfl) (fun _ _ hev => by cases hev)
      (fun _ ht => ht)
  | receive r =>
    rcases accept_cases e r with ⟨id, key, hr, hp, heq⟩ | ⟨-, heq⟩
    · rw [heq]
      exact h.delivering hr hp
    · rw [heq]
      refine h.idle (fun _ _ hev => ?_) (fun _ ht => ht) (fun _ ht => ?_)
      · cases hev
      · cases ht.1
  | finish c now ending hc _ =>
    rw [h.sound.release_of_mem hc]
    exact h.withdrawing hc (fun _ => Iff.rfl) (fun _ => Iff.rfl) (fun _ _ hev => by cases hev)
      (fun _ ht => ht)
  | drop c hc =>
    rw [h.sound.release_of_mem hc]
    exact h.withdrawing hc (fun _ => Iff.rfl) (fun _ => Iff.rfl) (fun _ _ hev => by cases hev)
      (fun _ ht => ht)

theorem account_of_trace (h : Trace Step (new patience limit) evs e) : Account evs e :=
  h.invariant (account_new patience limit) fun _ _ _ _ _ hI hs => account_step hI hs

/-! ## 3. When records stay -/

/-- **No call loses its record to another one** in a run from `s`: at any moment of the run a call
that waits has its record, and no call that ended was told that it was cancelled. -/
structure Undisturbed (s : Engine) (evs : List Event) : Prop where
  stays : ∀ before after t, evs = before ++ after → Trace Step s before t →
    ∀ id key, Waits before id key → t.pending.get? id = some key
  uncancelled : ∀ c ending, .ended c ending ∈ evs → ∀ id, ending.result c ≠ .error (.cancelled id)

/-- No call ends, or is dropped, while another one waits under its id. -/
def EndsApart (evs : List Event) : Prop :=
  ∀ before ev after, evs = before ++ ev :: after →
    ∀ id key, Waits before id key → ev.EndsUnder id → ev.Ends key

theorem not_takes_of_endsUnder (h : ev.EndsUnder id) : ¬ ev.Takes id := by
  intro ht
  cases ev with
  | received r taken => exact h
  | started id' outcome => exact ht
  | sent k => exact ht
  | ended c ending => exact ht
  | dropped c => exact ht

/-- The call whose record stands ends under the id of the record. -/
theorem Account.endsUnder (h : Account evs e) (hs : Step e ev e') (hrec : Recorded evs id key)
    (hend : ev.Ends key) : ev.EndsUnder id := by
  obtain ⟨d, hd, hdk, rfl, -⟩ := (h.sound.record id key).1 ((h.recorded id key).2 hrec)
  have hsame : ∀ c ∈ e.calls, c.key = key → c.id = d.id := fun c hc hck => by
    rw [h.sound.eq_of_key hc hd (hck.trans hdk.symm)]
  cases hs with
  | start => exact hend.elim
  | sent => exact hend.elim
  | receive => exact hend.elim
  | unsent c reason hc _ => exact hsame c hc hend
  | finish c now ending hc _ => exact hsame c hc hend
  | drop c hc => exact hsame c hc hend

/-- A call whose record stands waits. -/
theorem waits_of_recorded (h : Trace Step (new patience limit) evs e)
    (hrec : Recorded evs id key) : Waits evs id key := by
  obtain ⟨before, ev, after, rfl, rfl, hafter⟩ := hrec
  refine ⟨before, _, after, rfl, rfl, fun ev' hev' hstop => ?_⟩
  rcases hstop with hend | htakes
  · obtain ⟨mid, rest, rfl⟩ := List.append_of_mem hev'
    obtain ⟨t, t', ht, hs, -⟩ :=
      h.split (List.append_assoc before (.started id (.ok key) :: mid) (ev' :: rest)).symm
    have hstands : Recorded (before ++ .started id (.ok key) :: mid) id key :=
      ⟨before, _, mid, rfl, rfl, fun x hx => hafter x (List.mem_append_left _ hx)⟩
    exact hafter ev' hev' (.inr ((account_of_trace ht).endsUnder hs hstands hend))
  · exact hafter ev' hev' (.inl htakes)

/-- If calls end apart, the record of a call that waits stands. -/
theorem EndsApart.recorded {after : List Event} (h : EndsApart (evs ++ after))
    (hw : Waits evs id key) : Recorded evs id key := by
  obtain ⟨before, ev, rest, rfl, rfl, hrest⟩ := hw
  refine ⟨before, _, rest, rfl, rfl, fun ev' hev' hstop => ?_⟩
  rcases hstop with htakes | hunder
  · exact hrest ev' hev' (.inr htakes)
  · obtain ⟨mid, last, rfl⟩ := List.append_of_mem hev'
    have hwaits : Waits (before ++ .started id (.ok key) :: mid) id key :=
      ⟨before, _, mid, rfl, rfl, fun x hx => hrest x (List.mem_append_left _ hx)⟩
    exact hrest ev' hev' (.inl (h _ ev' (last ++ after) (by simp) id key hwaits hunder))

/-- If calls end apart, no call loses its record to another one. -/
theorem EndsApart.not_robbed (h : Trace Step (new patience limit) evs e) {after : List Event}
    (hapart : EndsApart (evs ++ after)) : ¬ Robbed evs id key := by
  intro hsome
  obtain ⟨before, ev, rest, rfl, ⟨hrec, hunder, hother⟩, -⟩ := hsome
  obtain ⟨t, t', ht, -⟩ := h.split rfl
  exact hother (hapart before ev (rest ++ after) (by simp) id key (waits_of_recorded ht hrec) hunder)

/-- Only a call that was abandoned is told that it was cancelled. -/
theorem abandoned_of_cancelled {c : Call} {now : Nat} {ending : CallEnding}
    (he : c.ending? now = some ending) (h : ending.result c = .error (.cancelled id)) :
    c.mailbox = .abandoned := by
  cases ending with
  | answered r elapsed =>
    have hresult : r.result = .error (.cancelled id) := h
    unfold Envelope.result at hresult
    split at hresult
    · cases hresult
    · cases hresult
  | timedOut => cases h
  | unsent reason => cases h
  | abandoned =>
    unfold Call.ending? at he
    cases hp : c.phase with
    | sending => simp [hp] at he
    | waiting deadline =>
      cases hm : c.mailbox with
      | empty =>
        simp only [hp, hm] at he
        split at he
        · cases he
        · cases he
      | delivered r => simp [hp, hm] at he
      | abandoned => rfl

/-- **Records leave only with their response or their call, and no call is cancelled, exactly when no
call ends while another one waits under its id.** -/
theorem records_stay_iff (h : Trace Step (new patience limit) evs e) :
    Undisturbed (new patience limit) evs ↔ EndsApart evs := by
  constructor
  · intro hu before ev after heq id key hw hunder
    obtain ⟨t, t', ht, hs, -⟩ := h.split heq
    refine Classical.byContradiction fun hother => ?_
    have hwaits : Waits (before ++ [ev]) id key :=
      waits_snoc.2 (.inr ⟨hw, hother, not_takes_of_endsUnder hunder⟩)
    have hlast : Trace Step (new patience limit) (before ++ [ev]) t' := .snoc _ _ _ _ ht hs
    have hstands := hu.stays (before ++ [ev]) after t' (by simp [heq]) hlast id key hwaits
    -- yet the end of the other call has taken the record
    rcases recorded_snoc.1 (((account_of_trace hlast).recorded id key).1 hstands) with hev | hrec
    · rw [hev] at hunder
      exact hunder
    · exact hrec.2.2 hunder
  · intro hapart
    refine ⟨fun before after t heq ht id key hw => ?_, fun c ending hmem id hresult => ?_⟩
    · rw [heq] at hapart
      exact ((account_of_trace ht).recorded id key).2 (hapart.recorded hw)
    · obtain ⟨before, after, heq⟩ := List.append_of_mem hmem
      obtain ⟨t, t', ht, hs, -⟩ := h.split heq
      rw [heq] at hapart
      cases hs with
      | unsent _ reason _ _ => cases hresult
      | finish _ now _ hc he =>
        have habandoned := abandoned_of_cancelled he hresult
        exact hapart.not_robbed ht (((account_of_trace ht).robbed c hc).1 habandoned)

end Records

/-! ## 4. A record that goes with another call -/

/-- The response to the first of two calls. -/
def sharedResponse : Envelope := .response "ping" "pong" .blank "x"

/-- A call is answered early; before it returns another call is started under its id, and sent. -/
def sharedStart : List Event :=
  [.started "x" (.ok 0), .received sharedResponse true, .started "x" (.ok 1), .sent 0, .sent 1]

/-- The first call returns, and the second one is cut off. -/
def sharedEnd : List Event :=
  [.ended ⟨0, "x", "ping", 50, 0, .waiting 60, .delivered sharedResponse⟩
     (.answered sharedResponse 10),
   .ended ⟨1, "x", "ping", 50, 5, .waiting 60, .abandoned⟩ .abandoned]

theorem trace_shared : ∃ e, Trace Step (new 50 2) (sharedStart ++ sharedEnd) e := by
  have h₁ : Trace Step (new 50 2) [.started "x" (.ok 0)] _ :=
    .snoc [] _ _ _ .start (.start "x" "ping" 50 0)
  have h₂ := Trace.snoc _ _ _ _ h₁ (.receive sharedResponse)
  have h₃ := Trace.snoc _ _ _ _ h₂ (.start "x" "ping" 50 5)
  have h₄ := Trace.snoc _ _ _ _ h₃
    (.sent ⟨0, "x", "ping", 50, 0, .sending, .delivered sharedResponse⟩ 10 List.mem_cons_self rfl)
  have h₅ := Trace.snoc _ _ _ _ h₄
    (.sent ⟨1, "x", "ping", 50, 5, .sending, .empty⟩ 10
      (List.mem_cons_of_mem _ List.mem_cons_self) rfl)
  have h₆ := Trace.snoc _ _ _ _ h₅
    (.finish ⟨0, "x", "ping", 50, 0, .waiting 60, .delivered sharedResponse⟩ 10 _
      List.mem_cons_self rfl)
  exact ⟨_, Trace.snoc _ _ _ _ h₆
    (.finish ⟨1, "x", "ping", 50, 5, .waiting 60, .abandoned⟩ 10 _ List.mem_cons_self rfl)⟩

theorem records_stay_iff_shared :
    Undisturbed (new 50 2) (sharedStart ++ sharedEnd) ↔ EndsApart (sharedStart ++ sharedEnd) := by
  obtain ⟨e, h⟩ := trace_shared
  exact records_stay_iff h

/-- **A call loses its record to another one**: it was admitted and waits, and yet it is cancelled. -/
theorem record_lost : ∃ e, Trace Step (new 50 2) (sharedStart ++ sharedEnd) e ∧
    Waits sharedStart "x" 1 ∧ ¬ Undisturbed (new 50 2) (sharedStart ++ sharedEnd) := by
  obtain ⟨e, h⟩ := trace_shared
  refine ⟨e, h, ?_, fun hu => ?_⟩
  · exact ⟨[.started "x" (.ok 0), .received sharedResponse true], _, [.sent 0, .sent 1], rfl, rfl,
      by simp [Event.Ends, Event.Takes]⟩
  · exact hu.uncancelled _ .abandoned (List.mem_append_right _ (.tail _ List.mem_cons_self)) "x" rfl

end CardLink.Engine
