import CardLink.Proofs.Network.Inquiry

/-!
# When a call returns

A call is admitted on a bench, its id is nobody else's, and it is not given up. Then it returns the
first response with its id as soon as this has come and the request is sent, if it comes before the
deadline: the time of the start, the latency and the patience together. If none comes up to and
including the deadline, the call times out at the deadline. If the request cannot be sent, the call
is over at once. In each case its record is gone afterwards, and responses with its id are rejected.

* `Bench.Returns`: a call returns this at that time, told at any other time.
* `Bench.Timely`: when a call returns, by the responses so far.
* **`Bench.calls_return_in_time`**: all this of any call, among any others.

NOT here: a response that comes exactly at the deadline. Which of the two it meets first depends on
the order of what happens at that time. And a sending that takes time and then fails: an outbox fails
at the beginning of a sending or not at all, so a call that cannot be sent is over when it is
started.
-/

namespace CardLink.Bench

open Network

variable {n n' : Network} {latency : Nat} {q : Inquiry} {as : List (Nat × Envelope)} {c : Call}
  {time : Nat} {result : Except CallError String}

/-! ## 1. To return at a time -/

/-- No call waits under this id, and responses with it are rejected. -/
structure Free (x : String) (n : Network) : Prop where
  pending : n.client.engine.isPending x = false
  rejects : ∀ r : Envelope, r.id = some x →
    n.client.engine.accept r = (false, n.client.engine)

/-- A call has returned this, and its record is gone. -/
structure Over (q : Inquiry) (result : Except CallError String) (n : Network) : Prop where
  result : n.result? q.task = some (.text result)
  free : Free q.id n

/-- **A call returns this at that time**: not before, and at that time if all that is due then has
happened. -/
structure Returns (q : Inquiry) (time : Nat) (result : Except CallError String) (n : Network) :
    Prop where
  before : n.now < time → n.result? q.task = none ∧ n.settle.result? q.task = none
  settled : time ≤ n.now → Over q result n.settle
  after : time < n.now → Over q result n

/-- **When a call returns**, by the responses with its id that came in so far. -/
structure Timely (latency : Nat) (q : Inquiry) (as : List (Nat × Envelope)) (n : Network) :
    Prop where
  /-- the first response comes before the deadline: it is returned, once the request is sent -/
  answered : ∀ time r, as.head? = some (time, r) → time < q.deadline latency →
    Returns q (max time (q.started + latency)) r.result n
  /-- no response comes up to the deadline: the call times out then -/
  unanswered : (∀ a ∈ as, q.deadline latency < a.1) → Returns q (q.deadline latency) q.timeout n

theorem Returned.over (h : Returned q time result n) (htidy : Tidy latency n) :
    Over q result n where
  result := h.result
  free :=
    { pending := by
        simp [Engine.isPending, Table.contains, htidy.sound.get?_of_gone h.gone]
      rejects := fun _ hr => h.rejects htidy hr }

/-- A call that is under way is looked at in time. -/
theorem UnderWay.onTime (h : UnderWay latency q as n c) (htidy : Tidy latency n) :
    c.OnTime latency n.now := by
  obtain ⟨t, ht, -, hserves⟩ := h.task
  obtain ⟨d, hd, hserves', htime, -⟩ := htidy.served t ht
  rwa [htidy.sound.eq_of_key h.mem hd (hserves.key hserves')]

/-- Once all that is due has happened, a call that is under way is due later. -/
theorem UnderWay.due_of_quiet (h : UnderWay latency q as n c) (htidy : Tidy latency n)
    (hquiet : Quiet n) : n.now < c.due latency := by
  obtain ⟨t, ht, -, hserves⟩ := h.task
  obtain ⟨d, hd, hserves', -, order, halarm⟩ := htidy.alarm_of_quiet hquiet ht
  rw [htidy.sound.eq_of_key h.mem hd (hserves.key hserves')]
  exact hquiet.alarms t ht _ halarm

/-- **A story with one outcome tells when a call returns**, if it is not under way after that. -/
theorem Story.returns (h : Story latency q as n) (htidy : Tidy latency n)
    (hout : ∀ time' result', Outcome latency q as time' result' → time' = time ∧ result' = result)
    (hway : ∀ m c, Tidy latency m → UnderWay latency q as m c → m.now ≤ time)
    (hquiet : ∀ m c, Tidy latency m → Quiet m → UnderWay latency q as m c → m.now < time) :
    Returns q time result n := by
  have hrests := htidy.settle
  have htidy' := hrests.ticks.tidy htidy
  have hopen : ∀ m, Story latency q as m → m.now < time → m.result? q.task = none := by
    intro m hstory hbefore
    rcases hstory with ⟨c, hm⟩ | ⟨time', result', hback, hwhy⟩
    · exact hm.result
    · obtain ⟨rfl, rfl⟩ := hout _ _ hwhy
      exact absurd hback.past (Nat.not_le.2 hbefore)
  have hover : ∀ m, Tidy latency m → Story latency q as m → (∀ c, ¬ UnderWay latency q as m c) →
      Over q result m := by
    intro m hm hstory hno
    rcases hstory with ⟨c, hunder⟩ | ⟨time', result', hback, hwhy⟩
    · exact absurd hunder (hno c)
    · obtain ⟨rfl, rfl⟩ := hout _ _ hwhy
      exact hback.over hm
  have hstory := h.ticks htidy hrests.ticks
  refine ⟨fun hbefore => ⟨hopen n h hbefore, hopen _ hstory (by rwa [hrests.now])⟩,
    fun hpast => hover _ htidy' hstory fun c hm => ?_, fun hpast => hover n htidy h fun c hm => ?_⟩
  · have hlater := hquiet _ c htidy' hrests.quiet hm
    rw [hrests.now] at hlater
    exact Nat.not_le.2 hlater hpast
  · exact Nat.not_le.2 hpast (hway n c htidy hm)

/-- With a first response before the deadline. -/
theorem Story.answered (h : Story latency q as n) (htidy : Tidy latency n) {r : Envelope}
    (hfirst : as.head? = some (time, r)) (hin : time < q.deadline latency) :
    Returns q (max time (q.started + latency)) r.result n := by
  have hmail : ∀ m c, UnderWay latency q as m c → c.mailbox = .delivered r ∧
      (c.phase = .sending ∨ m.now = time) := by
    intro m c hm
    rcases hm.mail with ⟨-, rfl⟩ | ⟨time', r', hmail, hfirst', -, hphase⟩
    · cases hfirst
    · obtain ⟨rfl, rfl⟩ : time' = time ∧ r' = r := by simpa [hfirst'] using hfirst
      exact ⟨hmail, hphase⟩
  refine h.returns htidy (fun time' result' hwhy => ?_) (fun m c hm hunder => ?_)
    fun m c hm hquiet hunder => ?_
  · cases hwhy with
    | answered time' r' hfirst' =>
      obtain ⟨rfl, rfl⟩ : time' = time ∧ r' = r := by simpa [hfirst'] using hfirst
      exact ⟨rfl, rfl⟩
    | timedOut hlate => exact absurd (hlate _ (List.mem_of_mem_head? hfirst)) (Nat.not_le.2 hin)
  · rcases (hmail m c hunder).2 with hsending | hnow
    · have hle := (hunder.onTime hm).le_of_sending hsending
      rw [hunder.started] at hle
      exact Nat.le_trans hle (Nat.le_max_right _ _)
    · rw [hnow]
      exact Nat.le_max_left _ _
  · have hsending := hunder.sending_of_quiet hm hquiet (by rw [(hmail m c hunder).1]; simp)
    have hlt := hunder.due_of_quiet hm hquiet
    rw [Call.due_of_sending hsending, hunder.started] at hlt
    exact Nat.lt_of_lt_of_le hlt (Nat.le_max_right _ _)

/-- Without a response up to the deadline. -/
theorem Story.unanswered (h : Story latency q as n) (htidy : Tidy latency n)
    (hlate : ∀ a ∈ as, q.deadline latency < a.1) :
    Returns q (q.deadline latency) q.timeout n := by
  refine h.returns htidy (fun time' result' hwhy => ?_) (fun m c hm hunder => ?_)
    fun m c hm hquiet hunder => ?_
  · cases hwhy with
    | answered time' r' hfirst hin =>
      exact absurd hin (Nat.not_le.2 (hlate _ (List.mem_of_mem_head? hfirst)))
    | timedOut => exact ⟨rfl, rfl⟩
  · have hle := (hunder.onTime hm).le_deadline
    rwa [hunder.started, hunder.patience] at hle
  · have hle := (hunder.onTime hm).due_le
    rw [hunder.started, hunder.patience] at hle
    exact Nat.lt_of_lt_of_le (hunder.due_of_quiet hm hquiet) hle

theorem Story.timely (h : Story latency q as n) (htidy : Tidy latency n) :
    Timely latency q as n where
  answered _ _ hfirst hin := h.answered htidy hfirst hin
  unanswered hlate := h.unanswered htidy hlate

/-! ## 2. From the start on -/

variable {action : String} {patience : Nat} {x : String}

/-- The inquiry that is made of a call when it is started. -/
def inquiry (n : Network) (x action : String) (patience : Nat) : Inquiry :=
  ⟨n.agenda.nextId, x, action, n.now, patience⟩

/-- **A call whose request can be sent** is under way from then on. -/
theorem story_of_begun {o : Outbox} (htidy : Tidy latency n)
    (hnew : ∀ c ∈ n.client.engine.calls, c.id ≠ x) (ho : n.link = .outbox o)
    (hbegin : o.begin = .ok ()) (hadmitted : ∃ key,
      (n.client.engine.start x action patience n.now).1 = .ok key)
    (h : Opened latency n x action patience n') :
    Story latency (inquiry n x action patience) [] n' := by
  cases h with
  | refused reason hreason hagenda hsound hcalls hresults hlink =>
    obtain ⟨key, hkey⟩ := hadmitted
    rcases hreason with hrefused | ⟨o', failure, ho', hfailed, -⟩
    · rw [hkey] at hrefused
      cases hrefused
    · obtain rfl := Link.outbox.inj (ho.symm.trans ho')
      rw [hbegin] at hfailed
      cases hfailed
  | begun o' ho' hbegin' job hserves hagenda hfree hengine hresults hlink =>
    have hadm := htidy.sound.admitting hfree action patience n.now
    have hmem := newcomer_mem n x action patience
    refine .inl ⟨(n.newcomer x action patience).lookedAt latency n.now, ?_, fun d hd hid => ?_,
      Call.id_lookedAt, Call.action_lookedAt, Call.started_lookedAt, Call.patience_lookedAt,
      ⟨job, ?_, hserves⟩, ?_, .inl ⟨Call.mailbox_lookedAt, rfl⟩⟩
    · rw [hengine]
      exact hadm.lookedAt_mem hmem latency n.now
    · rw [hengine] at hd
      rcases (hadm.mem_lookedAt hmem).1 hd with heq | ⟨hd, hkey⟩
      · exact heq
      · rcases List.mem_append.1 hd with hd | hd
        · exact absurd hid (hnew d hd)
        · rw [List.mem_singleton.1 hd] at hkey
          exact absurd rfl hkey
    · rw [hagenda]
      show (n.agenda.spawn job).2.job? n.agenda.nextId = some job
      rw [Agenda.job?_spawn, htidy.job?_next, if_pos rfl]
      rfl
    · unfold result?
      rw [hresults]
      exact lookup_fresh htidy.results

/-- **A call whose request cannot be sent** has returned at once. -/
theorem returned_of_unsent {o : Outbox} {failure : TransportError} (htidy : Tidy latency n)
    (hnew : ∀ c ∈ n.client.engine.calls, c.id ≠ x) (ho : n.link = .outbox o)
    (hfailed : o.begin = .error failure) (hadmitted : ∃ key,
      (n.client.engine.start x action patience n.now).1 = .ok key)
    (h : Opened latency n x action patience n') :
    Returned (inquiry n x action patience) n.now (.error (.transport failure)) n' := by
  cases h with
  | refused reason hreason hagenda hsound hcalls hresults hlink =>
    obtain ⟨key, hkey⟩ := hadmitted
    rcases hreason with hrefused | ⟨o', failure', ho', hfailed', rfl⟩
    · rw [hkey] at hrefused
      cases hrefused
    · obtain rfl := Link.outbox.inj (ho.symm.trans ho')
      obtain rfl := Except.error.inj (hfailed.symm.trans hfailed')
      refine ⟨?_, ?_, fun d hd => ?_, ?_, ?_⟩
      · exact (Agenda.job?_of_tasks ((congrArg Agenda.tasks hagenda).trans rfl) _).trans
          htidy.job?_next
      · rw [hagenda]
        exact Nat.lt_succ_self _
      · rw [hcalls] at hd
        exact hnew d hd
      · unfold result?
        rw [hresults]
        exact lookup_append_self (lookup_fresh htidy.results) _
      · exact Nat.le_of_eq ((congrArg Agenda.now hagenda).trans rfl).symm
  | begun o' ho' hbegin job hserves hagenda hfree hengine hresults hlink =>
    obtain rfl := Link.outbox.inj (ho.symm.trans ho')
    rw [hfailed] at hbegin
    cases hbegin

/-- **What each step keeps** for an inquiry holds along a run in which nobody starts another call
under its id or gives it up. -/
theorem keep_of_trace {P : List (Nat × Act) → Network → Prop} {acts : List (Nat × Act)}
    (h0 : P [] n) (htidy : Tidy latency n) (hrun : Trace Step n acts n')
    (hreuse : ∀ time, (time, .called q.id) ∉ acts)
    (hcancel : ∀ time, (time, .cancelled q.task) ∉ acts)
    (hstep : ∀ acts m act m', Tidy latency m → P acts m → Step m act m' →
      act.2 ≠ .called q.id → act.2 ≠ .cancelled q.task → P (acts ++ [act]) m') :
    Tidy latency n' ∧ P acts n' := by
  induction hrun with
  | start => exact ⟨htidy, h0⟩
  | snoc acts m act m' _ hs ih =>
    obtain ⟨hm, hP⟩ := ih (fun time hin => hreuse time (List.mem_append_left _ hin))
      fun time hin => hcancel time (List.mem_append_left _ hin)
    obtain ⟨time, what⟩ := act
    refine ⟨tidy_step hm hs, hstep acts m _ m' hm hP hs ?_ ?_⟩
    · rintro rfl
      exact hreuse time (by simp)
    · rintro rfl
      exact hcancel time (by simp)

/-! ## 3. Any call -/

/-- **What becomes of a call** that was admitted in `n`, after these acts. -/
structure Fate (latency : Nat) (n : Network) (q : Inquiry) (acts : List (Nat × Act))
    (n' : Network) : Prop where
  link : ∃ o, n.link = .outbox o ∧ o.latency = latency
  /-- its request can be sent, which takes the latency -/
  sent : ∀ o, n.link = .outbox o → o.begin = .ok () → Timely latency q (arrivals q.id acts) n'
  /-- its request cannot be sent: it is over at once -/
  unsent : ∀ o failure, n.link = .outbox o → o.begin = .error failure →
    Over q (.error (.transport failure)) n' ∧ Over q (.error (.transport failure)) n'.settle
  /-- time may pass to any moment -/
  clock : ∀ time, (n'.runUntil time).now = max n'.now time

theorem tidy_of_trace {acts : List (Nat × Act)} (htidy : Tidy latency n)
    (hrun : Trace Step n acts n') : Tidy latency n' :=
  hrun.invariant (I := fun _ m => Tidy latency m) htidy fun _ _ _ _ _ hm hs => tidy_step hm hs

/-- **Every admitted call returns in time**, whatever else is done to the bench, unless somebody
starts another call under its id or gives it up. -/
theorem calls_return_in_time {o : Outbox} {standard limit : Nat} {metrics : Option Metrics}
    {before after : List (Nat × Act)}
    (hbefore : Trace Step (bench o ⟨.new standard limit, metrics⟩) before n)
    (action body : String) (route : Route) (id : Option String) (patience : Nat)
    (hadmitted : ∃ key, (n.client.engine.start (n.chooseId id).1 action patience n.now).1 = .ok key)
    (hnew : ∀ c ∈ n.client.engine.calls, c.id ≠ (n.chooseId id).1)
    (hafter : Trace Step (n.launch .client action body route id patience .text).2 after n')
    (hreuse : ∀ time, (time, .called (n.chooseId id).1) ∉ after)
    (hcancel : ∀ time,
      (time, .cancelled (n.launch .client action body route id patience .text).1) ∉ after) :
    Fate o.latency n ⟨(n.launch .client action body route id patience .text).1, (n.chooseId id).1,
      action, n.now, patience⟩ after n' := by
  have htidy := tidy_of_trace (tidy_bench o standard limit metrics) hbefore
  obtain ⟨htask, hopened⟩ :=
    opened_client htidy.link htidy.sound action body route id patience
  rw [htask] at hcancel ⊢
  generalize (n.chooseId id).1 = x at *
  have hfirst := htidy.opened hopened
  refine ⟨htidy.link, fun o' ho hbegin => ?_, fun o' failure ho hfailed => ?_, fun time => ?_⟩
  · have hstory := story_of_begun htidy hnew ho hbegin hadmitted hopened
    obtain ⟨htidy', hstory'⟩ := keep_of_trace (q := inquiry n x action patience)
      (P := fun acts => Story o.latency (inquiry n x action patience) (arrivals x acts))
      hstory hfirst hafter hreuse hcancel fun acts m act m' hm hS hs h₁ h₂ => by
        rw [arrivals_snoc]
        exact hS.step hm hs h₁ h₂
    exact hstory'.timely htidy'
  · have hback := returned_of_unsent htidy hnew ho hfailed hadmitted hopened
    obtain ⟨htidy', hback'⟩ := keep_of_trace (q := inquiry n x action patience)
      (P := fun _ => Returned (inquiry n x action patience) n.now (.error (.transport failure)))
      hback hfirst hafter hreuse hcancel fun _ m act m' hm hR hs h₁ h₂ => hR.step hm hs h₁ h₂
    have hrests := htidy'.settle
    exact ⟨hback'.over htidy',
      (hback'.ticks htidy' hrests.ticks).over (hrests.ticks.tidy htidy')⟩
  · exact ((tidy_of_trace hfirst hafter).runUntil time).now

/-- A bench whose outbox takes three milliseconds. -/
def slowBench : Network := bench (.new "M" 3 false) ⟨.new 1000 4, none⟩

/-- The bench once a call without any patience was started under the id `"a"`. -/
def slowCall : Network :=
  (slowBench.launch .client "transmitSet" "[]" .blank (some "a") 0 .text).2

/-- A response to it. -/
def earlyReply : Envelope := ⟨"transmitSet", "[null]", false, .blank, some "a"⟩

/-- A call without any patience. Its response comes after one millisecond, when its request is still
being sent, and is returned all the same once it is sent. -/
theorem calls_return_in_time_early :
    ∃ acts n', arrivals "a" acts = [(1, earlyReply)] ∧ n'.now = 5 ∧
      Fate 3 slowBench ⟨0, "a", "transmitSet", 0, 0⟩ acts n' ∧
      n'.result? 0 = some (.text earlyReply.result) := by
  have hbench : Tidy 3 slowBench := tidy_bench (.new "M" 3 false) 1000 4 none
  have hcall : Tidy 3 slowCall :=
    tidy_step hbench (.call "transmitSet" "[]" .blank (some "a") 0)
  have hsending := hcall.runUntil 1
  have hlater := ((hsending.ticks.tidy hcall).receive earlyReply).runUntil 5
  have hwaited : Step slowCall (0, .passed 1) (slowCall.runUntil 1) := .pass 1
  have hreceived := Step.receive (n := slowCall.runUntil 1) earlyReply
  have hpassed := Step.pass (n := (slowCall.runUntil 1).updateEngine .client fun e =>
    (e.accept earlyReply).2) 5
  have hone : ((slowCall.runUntil 1).updateEngine .client fun e =>
    (e.accept earlyReply).2).now = 1 := hsending.now
  rw [show (slowCall.runUntil 1).now = 1 from hsending.now] at hreceived
  rw [hone] at hlater hpassed
  have hrun := Trace.snoc _ _ _ _ (Trace.snoc _ _ _ _ (Trace.snoc _ _ _ _ Trace.start hwaited)
    hreceived) hpassed
  have hfate := calls_return_in_time (n := slowBench) Trace.start "transmitSet" "[]" .blank
    (some "a") 0 ⟨0, rfl⟩ (fun c hc => absurd hc List.not_mem_nil) hrun (by simp) (by simp)
  have hresult := ((hfate.sent _ rfl rfl).answered 1 earlyReply rfl (by decide)).after
    (by rw [hlater.now]; decide)
  exact ⟨_, _, rfl, hlater.now, hfate, hresult.result⟩

end CardLink.Bench
