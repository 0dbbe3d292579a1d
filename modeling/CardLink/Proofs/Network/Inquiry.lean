import CardLink.Proofs.Network.Launching
import CardLink.Proofs.Network.Quiescence
import CardLink.Proofs.Trace

/-!
# One call among others

A bench runs many calls at once. One of them, an inquiry, is followed from its start on: either it
is under way, and its mailbox holds the first response with its id that came in, or it has returned,
for one of two reasons, each with its own time. What belongs to other calls does not matter for it.

* `Bench.Step`: what is done to a bench, with the time at which it is done.
* `Bench.UnderWay`, `Bench.Returned`: how an inquiry stands. `Bench.Outcome`: why it returned.
* `Bench.Aside`: what other calls and their tasks leave alone.
* `Story.tick`, **`Story.step`**: all that happens leads from one of the two to one of the two.
-/

namespace CardLink.Bench

open Network

variable {n n' : Network} {latency i : Nat} {x : String}

/-! ## 1. Steps and arrivals -/

/-- What is done to a bench. -/
inductive Act where
  /-- a call is started under this id -/
  | called (id : String)
  | cancelled (task : Nat)
  | received (response : Envelope)
  | connected (up : Bool)
  /-- time passes, up to and including this one -/
  | passed (time : Nat)

/-- **One step of a bench**, told by the time at which it is made. -/
inductive Step (n : Network) : Nat × Act → Network → Prop where
  | call (action body : String) (route : Route) (id : Option String) (patience : Nat) :
      Step n (n.now, .called (n.chooseId id).1)
        (n.launch .client action body route id patience .text).2
  | cancel (task : Nat) : Step n (n.now, .cancelled task) (n.cancel task).2
  | receive (r : Envelope) :
      Step n (n.now, .received r) (n.updateEngine .client fun e => (e.accept r).2)
  | connect (up : Bool) : Step n (n.now, .connected up) (n.setConnected up)
  | pass (time : Nat) : Step n (n.now, .passed time) (n.runUntil time)

/-- The response with this id that an act brings. -/
def Act.response? (x : String) : Act → Option Envelope
  | .received r => if r.id = some x then some r else none
  | _ => none

/-- The responses with this id that came in, with their times. -/
def arrivals (x : String) (acts : List (Nat × Act)) : List (Nat × Envelope) :=
  acts.filterMap fun act => (act.2.response? x).map fun r => (act.1, r)

theorem arrivals_snoc (x : String) (acts : List (Nat × Act)) (act : Nat × Act) :
    arrivals x (acts ++ [act]) = arrivals x acts ++ arrivals x [act] :=
  List.filterMap_append

/-- **Each step keeps a bench tidy.** -/
theorem tidy_step {act : Nat × Act} (h : Tidy latency n) (hs : Step n act n') :
    Tidy latency n' := by
  cases hs with
  | call action body route id patience =>
    exact h.opened (opened_client h.link h.sound action body route id patience).2
  | cancel task => exact h.cancel task
  | receive r => exact h.receive r
  | connect up => exact h.setConnected up
  | pass time => exact (h.runUntil time).ticks.tidy h

/-! ## 2. How an inquiry stands -/

/-- A call that is followed. -/
structure Inquiry where
  /-- the task that looks at it -/
  task : Nat
  id : String
  action : String
  started : Nat
  patience : Nat

/-- How long an inquiry may take if no response comes. -/
def Inquiry.deadline (latency : Nat) (q : Inquiry) : Nat := q.started + latency + q.patience

/-- What an inquiry returns without a response. -/
def Inquiry.timeout (q : Inquiry) : Except CallError String :=
  .error (.timeout q.action q.id (.ofMillis q.patience))

/-- **An inquiry is under way**, after these responses with its id. -/
structure UnderWay (latency : Nat) (q : Inquiry) (as : List (Nat × Envelope)) (n : Network)
    (c : Call) : Prop where
  mem : c ∈ n.client.engine.calls
  only : ∀ d ∈ n.client.engine.calls, d.id = q.id → d = c
  id : c.id = q.id
  action : c.action = q.action
  started : c.started = q.started
  patience : c.patience = q.patience
  job : ∃ job, n.agenda.job? q.task = some job ∧ Serves latency job c
  result : n.result? q.task = none
  mail : c.mailbox = .empty ∧ as = [] ∨
    ∃ time r, c.mailbox = .delivered r ∧ as.head? = some (time, r) ∧ time ≤ n.now ∧
      (c.phase = .sending ∨ n.now = time)

/-- **An inquiry has returned**, and its id is free. -/
structure Returned (q : Inquiry) (time : Nat) (result : Except CallError String)
    (n : Network) : Prop where
  job : n.agenda.job? q.task = none
  task : q.task < n.agenda.nextId
  gone : ∀ d ∈ n.client.engine.calls, d.id ≠ q.id
  result : n.result? q.task = some (.text result)
  past : time ≤ n.now

/-- **Why an inquiry returned, and when**: with the first response, which came in time, or at its
deadline, before which none came. -/
inductive Outcome (latency : Nat) (q : Inquiry) (as : List (Nat × Envelope)) :
    Nat → Except CallError String → Prop where
  | answered (time : Nat) (r : Envelope) (hfirst : as.head? = some (time, r))
      (hin : time ≤ q.deadline latency) :
      Outcome latency q as (max time (q.started + latency)) r.result
  | timedOut (hlate : ∀ a ∈ as, q.deadline latency ≤ a.1) :
      Outcome latency q as (q.deadline latency) q.timeout

/-- How an inquiry stands. -/
def Story (latency : Nat) (q : Inquiry) (as : List (Nat × Envelope)) (n : Network) : Prop :=
  (∃ c, UnderWay latency q as n c) ∨
    ∃ time result, Returned q time result n ∧ Outcome latency q as time result

variable {q : Inquiry} {as : List (Nat × Envelope)} {c : Call} {time : Nat}
  {result : Except CallError String}

/-- What comes later does not matter any more. -/
theorem Outcome.append (h : Outcome latency q as time result) {later : List (Nat × Envelope)}
    (hlater : ∀ a ∈ later, time ≤ a.1) : Outcome latency q (as ++ later) time result := by
  cases h with
  | answered time r hfirst hin =>
    exact .answered time r (by rw [List.head?_append, hfirst]; rfl) hin
  | timedOut hlate =>
    refine .timedOut fun a ha => ?_
    rcases List.mem_append.1 ha with ha | ha
    · exact hlate a ha
    · exact hlater a ha

/-! ## 3. What does not concern an inquiry -/

/-- **What happens does not concern an inquiry.** -/
structure Aside (q : Inquiry) (n n' : Network) : Prop where
  now : n'.now = n.now
  calls : Engine.SameAt q.id n.client.engine n'.client.engine
  job : n'.agenda.job? q.task = n.agenda.job? q.task
  result : n'.result? q.task = n.result? q.task
  numbers : n.agenda.nextId ≤ n'.agenda.nextId

theorem UnderWay.aside (h : UnderWay latency q as n c) (ha : Aside q n n') :
    UnderWay latency q as n' c where
  mem := (ha.calls c h.id).2 h.mem
  only d hd hid := h.only d ((ha.calls d hid).1 hd) hid
  id := h.id
  action := h.action
  started := h.started
  patience := h.patience
  job := by rw [ha.job]; exact h.job
  result := ha.result.trans h.result
  mail := by rw [ha.now]; exact h.mail

theorem Returned.aside (h : Returned q time result n) (ha : Aside q n n') :
    Returned q time result n' where
  job := ha.job.trans h.job
  task := Nat.lt_of_lt_of_le h.task ha.numbers
  gone d hd hid := h.gone d ((ha.calls d hid).1 hd) hid
  result := ha.result.trans h.result
  past := by rw [ha.now]; exact h.past

theorem Story.aside (h : Story latency q as n) (ha : Aside q n n') : Story latency q as n' := by
  rcases h with ⟨c, hway⟩ | ⟨time, result, hback, hout⟩
  · exact .inl ⟨c, hway.aside ha⟩
  · exact .inr ⟨time, result, hback.aside ha, hout⟩

/-! ### Tasks and calls of others -/

/-- All other tasks look at calls with other ids. -/
def Separate (latency : Nat) (q : Inquiry) (n : Network) : Prop :=
  ∀ t ∈ n.agenda.tasks, t.id ≠ q.task → ∀ d ∈ n.client.engine.calls,
    Serves latency t.job d → d.id ≠ q.id

/-- The task of an inquiry that is under way. -/
theorem UnderWay.task (h : UnderWay latency q as n c) :
    ∃ t ∈ n.agenda.tasks, t.id = q.task ∧ Serves latency t.job c := by
  obtain ⟨job, hjob, hserves⟩ := h.job
  obtain ⟨t, ht, rfl⟩ := Option.map_eq_some_iff.1 hjob
  obtain ⟨hmem, hid⟩ := Agenda.mem_of_task? ht
  exact ⟨t, hmem, hid, hserves⟩

theorem UnderWay.separate (h : UnderWay latency q as n c) (htidy : Tidy latency n) :
    Separate latency q n := by
  intro t ht hne d hd hserves hid
  obtain rfl := h.only d hd hid
  obtain ⟨u, hu, huid, hown⟩ := h.task
  exact hne ((htidy.apart t ht u hu d d hserves hown rfl).trans huid)

theorem Returned.separate (h : Returned q time result n) : Separate latency q n :=
  fun _ _ _ d hd _ => h.gone d hd

theorem UnderWay.numbered (h : UnderWay latency q as n c) (htidy : Tidy latency n) :
    q.task < n.agenda.nextId := by
  obtain ⟨t, ht, hid, -⟩ := h.task
  rw [← hid]
  exact htidy.fresh t ht

theorem Returned.no_task (h : Returned q time result n) (htidy : Tidy latency n) {t : Task Job}
    (ht : t ∈ n.agenda.tasks) : t.id ≠ q.task := by
  intro hid
  have hjob := h.job
  unfold Agenda.job? at hjob
  rw [← hid, htidy.task? ht] at hjob
  cases hjob

/-- What concerns only the queue and alarms. -/
theorem aside_of_akin {a : Agenda Job} (h : n.agenda.Akin a) (hnow : a.now = n.now) :
    Aside q n { n with agenda := a } where
  now := hnow
  calls := .refl _ _
  job := h.job? q.task
  result := rfl
  numbers := Nat.le_of_eq h.nextId.symm

/-- What the turn of a task makes of the jobs. -/
theorem job?_of_tends {d : Call} {rest : List Nat} {k : Nat} (h : Tends latency n i rest d n')
    (hne : k ≠ i) : n'.agenda.job? k = n.agenda.job? k := by
  cases h with
  | waits hending job order next hjob hagenda hengine hresults hlink =>
    refine (Agenda.job?_of_tasks (congrArg Agenda.tasks hagenda) k).trans
      ((Agenda.job?_update (f := fun t =>
        ⟨t.id, job, some ⟨(d.lookedAt latency n.now).due latency, order⟩⟩) (fun _ => rfl)
        i k).trans ?_)
    rw [if_neg hne]
  | ends ending hending hagenda hengine hresults hlink =>
    have hremoved := Agenda.job?_remove (a := n.agenda) i k
    rw [if_neg hne] at hremoved
    exact (Agenda.job?_of_tasks (congrArg Agenda.tasks hagenda) k).trans hremoved

/-- The turn of another task. -/
theorem aside_of_tends {d : Call} {rest : List Nat} (htidy : Tidy latency n)
    (hd : d ∈ n.client.engine.calls) (hid : d.id ≠ q.id) (hne : q.task ≠ i)
    (h : Tends latency n i rest d n') : Aside q n n' := by
  have hjob := job?_of_tends h hne
  have hlooked : Engine.SameAt q.id n.client.engine (n.client.engine.lookedAt latency n.now d) :=
    Engine.sameAt_lookedAt htidy.sound hd hid
  have hnow := h.now
  cases h with
  | waits hending job order next hjob' hagenda hengine hresults hlink =>
    refine ⟨hnow, by rw [hengine]; exact hlooked, hjob, ?_, by rw [hagenda]⟩
    unfold result?
    rw [hresults]
  | ends ending hending hagenda hengine hresults hlink =>
    refine ⟨hnow, ?_, hjob, ?_, by rw [hagenda]⟩
    · rw [hengine]
      refine hlooked.trans (Engine.sameAt_withdrawing
        (htidy.sound.lookedAt latency n.now d) (htidy.sound.lookedAt_mem hd latency n.now) ?_)
      rwa [Call.id_lookedAt]
    · unfold result?
      rw [hresults]
      exact lookup_append_other rfl hne _

/-! ## 4. What happens by itself -/

/-- **What may happen by itself**: something that does not concern an inquiry, or its own task has a
turn, or the clock moves. -/
theorem tick_cases (htidy : Tidy latency n) (hsep : Separate latency q n) (ht : Tick n n') :
    Aside q n n' ∨
    (∃ t ∈ n.agenda.tasks, ∃ d ∈ n.client.engine.calls, ∃ rest, t.id = q.task ∧
      Serves latency t.job d ∧ d.OnTime latency n.now ∧ Tends latency n q.task rest d n') ∨
    ∃ time, Quiet n ∧ n' = n.mapAgenda (·.moveTo time) := by
  cases ht with
  | awaken => exact .inl (aside_of_akin (n.agenda.akin_wakeWhere _) (Agenda.now_wakeWhere _))
  | ring => exact .inl (aside_of_akin n.agenda.akin_ring Agenda.now_ring)
  | turn i rest hready =>
    obtain ⟨t, ht, d, hd, rfl, hserves, htime, htends⟩ := htidy.tends hready
    by_cases hown : t.id = q.task
    · exact .inr (.inl ⟨t, ht, d, hd, rest, hown, hserves, htime, hown ▸ htends⟩)
    · exact .inl (aside_of_tends htidy hd (hsep t ht hown d hd hserves) (Ne.symm hown) htends)
  | clock time hquiet hdue => exact .inr (.inr ⟨time, hquiet, rfl⟩)

/-- What has returned stays so. -/
theorem Returned.tick (h : Returned q time result n) (htidy : Tidy latency n) (ht : Tick n n') :
    Returned q time result n' := by
  rcases tick_cases htidy h.separate ht with
    haside | ⟨t, ht, d, hd, rest, hown, -⟩ | ⟨later, hquiet, rfl⟩
  · exact h.aside haside
  · exact absurd hown (h.no_task htidy ht)
  · exact { h with past := Nat.le_trans h.past (Nat.le_max_left n.now later) }

/-- A call that is to be looked at again is under way. -/
theorem UnderWay.waits (h : UnderWay latency q as n c) (htidy : Tidy latency n)
    (htime : c.OnTime latency n.now) {rest : List Nat}
    (hending : (c.lookedAt latency n.now).ending? n.now = none) {job : Job} {order next : Nat}
    (hjob : Serves latency job (c.lookedAt latency n.now))
    (hagenda : n'.agenda =
      { n.agenda with
        tasks := n.agenda.tasks.map fun t =>
          if t.id = q.task then ⟨t.id, job, some ⟨(c.lookedAt latency n.now).due latency, order⟩⟩
          else t
        ready := rest
        nextOrder := next })
    (hengine : n'.client.engine = n.client.engine.lookedAt latency n.now c)
    (hresults : n'.results = n.results) : UnderWay latency q as n' (c.lookedAt latency n.now) where
  mem := by
    rw [hengine]
    exact htidy.sound.lookedAt_mem h.mem latency n.now
  only d hd hid := by
    rw [hengine] at hd
    rcases (htidy.sound.mem_lookedAt h.mem).1 hd with heq | ⟨hd, hkey⟩
    · exact heq
    · exact absurd (by rw [h.only d hd hid]) hkey
  id := Call.id_lookedAt.trans h.id
  action := Call.action_lookedAt.trans h.action
  started := Call.started_lookedAt.trans h.started
  patience := Call.patience_lookedAt.trans h.patience
  job := by
    obtain ⟨t, ht, hid, -⟩ := h.task
    refine ⟨job, ?_, hjob⟩
    have htask := htidy.task? ht
    rw [hid] at htask
    refine (Agenda.job?_of_tasks (congrArg Agenda.tasks hagenda) q.task).trans
      ((Agenda.job?_update (f := fun t =>
        ⟨t.id, job, some ⟨(c.lookedAt latency n.now).due latency, order⟩⟩) (fun _ => rfl)
        q.task q.task).trans ?_)
    rw [if_pos rfl, htask]
    rfl
  result := by
    unfold result?
    rw [hresults]
    exact h.result
  mail := by
    have hnow : n'.now = n.now := (congrArg Agenda.now hagenda).trans rfl
    rw [Call.mailbox_lookedAt, hnow]
    rcases h.mail with hnone | ⟨time, r, hmail, hfirst, hpast, -⟩
    · exact .inl hnone
    · refine .inr ⟨time, r, hmail, hfirst, hpast, .inl ?_⟩
      refine Call.phase_of_not_mailed (htime.unended hending).2 ?_
      rw [Call.mailbox_lookedAt, hmail]
      simp

/-- **A call that ends returns** what is in its mailbox, or that its time is over. -/
theorem UnderWay.outcome (h : UnderWay latency q as n c) (htime : c.OnTime latency n.now)
    {ending : CallEnding} (hending : (c.lookedAt latency n.now).ending? n.now = some ending) :
    ∃ time, time ≤ n.now ∧
      Outcome latency q as time (ending.result (c.lookedAt latency n.now)) := by
  obtain ⟨hsent, hwhy⟩ := htime.lookedAt.ended hending
  have hdeadline := htime.le_deadline
  rw [Call.mailbox_lookedAt, Call.started_lookedAt, Call.patience_lookedAt] at hwhy
  rw [Call.started_lookedAt, h.started] at hsent
  rw [h.started, h.patience] at hdeadline
  rcases h.mail with ⟨hmail, rfl⟩ | ⟨time, r, hmail, hfirst, hpast, -⟩
  · rw [hmail] at hwhy
    obtain ⟨rfl, hnow⟩ := hwhy
    rw [h.started, h.patience] at hnow
    have hresult : CallEnding.timedOut.result (c.lookedAt latency n.now) = q.timeout := by
      simp [CallEnding.result, Inquiry.timeout, h.action, h.id, h.patience]
    rw [hresult]
    exact ⟨_, Nat.le_of_eq hnow.symm, .timedOut fun a ha => absurd ha List.not_mem_nil⟩
  · rw [hmail] at hwhy
    dsimp only at hwhy
    rw [hwhy]
    exact ⟨_, Nat.max_le.2 ⟨hpast, hsent⟩, .answered time r hfirst (Nat.le_trans hpast hdeadline)⟩

/-- **The turn of its own task** lets an inquiry wait, or ends it. -/
theorem UnderWay.tends (h : UnderWay latency q as n c) (htidy : Tidy latency n)
    (htime : c.OnTime latency n.now) {rest : List Nat} (ht : Tends latency n q.task rest c n') :
    Story latency q as n' := by
  have hnow := ht.now
  cases ht with
  | waits hending job order next hjob hagenda hengine hresults hlink =>
    exact .inl ⟨_, h.waits htidy htime hending hjob hagenda hengine hresults⟩
  | ends ending hending hagenda hengine hresults hlink =>
    obtain ⟨time, hpast, hout⟩ := h.outcome htime hending
    refine .inr ⟨time, _, ⟨?_, ?_, ?_, ?_, ?_⟩, hout⟩
    · have hremoved := Agenda.job?_remove (a := n.agenda) q.task q.task
      rw [if_pos rfl] at hremoved
      exact (Agenda.job?_of_tasks (congrArg Agenda.tasks hagenda) q.task).trans hremoved
    · rw [hagenda]
      exact h.numbered htidy
    · have hid : (c.lookedAt latency n.now).id = q.id := Call.id_lookedAt.trans h.id
      rw [hengine, ← hid]
      refine Engine.gone_withdrawing fun d hd hid => ?_
      rcases (htidy.sound.mem_lookedAt h.mem).1 hd with heq | ⟨hd, hkey⟩
      · exact heq
      · rw [Call.id_lookedAt, h.id] at hid
        exact absurd (by rw [h.only d hd hid]) hkey
    · unfold result?
      rw [hresults]
      exact lookup_append_self h.result _
    · rwa [hnow]

/-- A call that has its response takes it at once, unless its request is still being sent. -/
theorem UnderWay.sending_of_quiet (h : UnderWay latency q as n c) (htidy : Tidy latency n)
    (hquiet : Quiet n) (hmail : c.mailbox ≠ .empty) : c.phase = .sending := by
  obtain ⟨t, ht, -, hserves⟩ := h.task
  refine Call.phase_of_not_mailed ?_ hmail
  rw [← canGoOn_iff htidy.sound h.mem hserves, hquiet.mail t ht]
  exact Bool.false_ne_true

/-- The clock moves while a call waits, or while its request is being sent. -/
theorem UnderWay.clock (h : UnderWay latency q as n c) (htidy : Tidy latency n) (hquiet : Quiet n)
    (later : Nat) : UnderWay latency q as (n.mapAgenda (·.moveTo later)) c := by
  refine { h with mail := ?_ }
  rcases h.mail with hnone | ⟨first, r, hmail, hfirst, hpast, -⟩
  · exact .inl hnone
  · refine .inr ⟨first, r, hmail, hfirst, Nat.le_trans hpast (Nat.le_max_left _ _), .inl ?_⟩
    exact h.sending_of_quiet htidy hquiet (by rw [hmail]; simp)

/-- **What happens by itself** keeps the story of an inquiry. -/
theorem Story.tick (h : Story latency q as n) (htidy : Tidy latency n) (ht : Tick n n') :
    Story latency q as n' := by
  rcases h with ⟨c, hway⟩ | ⟨time, result, hback, hout⟩
  · rcases tick_cases htidy (hway.separate htidy) ht with
      haside | ⟨t, ht, d, hd, rest, hown, hserves, htime, htends⟩ | ⟨later, hquiet, rfl⟩
    · exact .inl ⟨c, hway.aside haside⟩
    · obtain ⟨u, hu, huid, hown'⟩ := hway.task
      obtain rfl := htidy.eq_of_id hu ht (huid.trans hown.symm)
      obtain rfl := htidy.sound.eq_of_key hway.mem hd (hown'.key hserves)
      exact hway.tends htidy htime htends
    · exact .inl ⟨c, hway.clock htidy hquiet later⟩
  · exact .inr ⟨time, result, hback.tick htidy ht, hout⟩

theorem Returned.ticks (h : Returned q time result n) (htidy : Tidy latency n) (ht : Ticks n n') :
    Returned q time result n' :=
  ht.keep htidy h fun _ _ htidy h ht => h.tick htidy ht

theorem Story.ticks (h : Story latency q as n) (htidy : Tidy latency n) (ht : Ticks n n') :
    Story latency q as n' :=
  ht.keep htidy h fun _ _ htidy h ht => h.tick htidy ht

/-! ## 5. What is done from outside -/

/-- Another call is started. -/
theorem aside_of_opened {action : String} {patience : Nat} (htidy : Tidy latency n)
    (htask : q.task < n.agenda.nextId) (hx : x ≠ q.id)
    (h : Opened latency n x action patience n') : Aside q n n' := by
  cases h with
  | refused reason hreason hagenda hsound hcalls hresults hlink =>
    refine ⟨(congrArg Agenda.now hagenda).trans rfl, fun d _ => by rw [hcalls],
      Agenda.job?_of_tasks ((congrArg Agenda.tasks hagenda).trans rfl) _, ?_, ?_⟩
    · unfold result?
      rw [hresults]
      exact lookup_append_other rfl (Nat.ne_of_lt htask) _
    · rw [hagenda]
      exact Nat.le_succ _
  | begun o ho hbegin job hserves hagenda hfree hengine hresults hlink =>
    refine ⟨(congrArg Agenda.now hagenda).trans rfl, ?_, ?_, ?_, ?_⟩
    · rw [hengine]
      exact (Engine.sameAt_admitting hx action patience n.now).trans
        (Engine.sameAt_lookedAt (htidy.sound.admitting hfree action patience n.now)
          (newcomer_mem n x action patience) hx)
    · rw [hagenda]
      exact Agenda.job?_spawn_of_ne (Nat.ne_of_lt htask)
    · unfold result?
      rw [hresults]
    · rw [hagenda]
      exact Nat.le_succ _

/-- Another task is given up. -/
theorem aside_cancel (htidy : Tidy latency n) (hsep : Separate latency q n) (hne : i ≠ q.task) :
    Aside q n (n.cancel i).2 := by
  rcases htidy.cancel_eq i with ⟨-, heq⟩ | ⟨t, ht, d, hd, rfl, hserves, heq⟩
  · rw [heq]
    exact aside_of_akin (.of_tasks rfl rfl) rfl
  · rw [heq]
    have hremoved := Agenda.job?_remove (a := n.agenda) t.id q.task
    rw [if_neg (Ne.symm hne)] at hremoved
    have hid := hsep t ht hne d hd hserves
    exact ⟨rfl, Engine.sameAt_withdrawing htidy.sound hd hid, hremoved, rfl, Nat.le_refl _⟩

/-- The outbox does not concern calls. -/
theorem aside_setConnected (htidy : Tidy latency n) (up : Bool) :
    Aside q n (n.setConnected up) := by
  obtain ⟨o, -, heq⟩ := htidy.link.setConnected up
  rw [heq]
  exact ⟨rfl, .refl _ _, rfl, rfl, Nat.le_refl _⟩

/-- A response with another id. -/
theorem aside_accept (htidy : Tidy latency n) {r : Envelope} (hr : r.id ≠ some q.id) :
    Aside q n (n.updateEngine .client fun e => (e.accept r).2) :=
  ⟨rfl, Engine.sameAt_accept htidy.sound hr, rfl, rfl, Nat.le_refl _⟩

/-- **What may be done from outside** while nobody starts another call under the id of an inquiry or
gives the inquiry up: something that does not concern it, or a response with its id comes in, or time
passes. -/
theorem step_cases {act : Nat × Act} (htidy : Tidy latency n) (hsep : Separate latency q n)
    (htask : q.task < n.agenda.nextId) (hs : Step n act n') (hreuse : act.2 ≠ .called q.id)
    (hcancel : act.2 ≠ .cancelled q.task) :
    (Aside q n n' ∧ arrivals q.id [act] = []) ∨
    (∃ r, r.id = some q.id ∧ arrivals q.id [act] = [(n.now, r)] ∧
      n' = n.updateEngine .client fun e => (e.accept r).2) ∨
    (Ticks n n' ∧ arrivals q.id [act] = []) := by
  cases hs with
  | call action body route id patience =>
    have hopened := opened_client htidy.link htidy.sound action body route id patience
    exact .inl ⟨aside_of_opened htidy htask (fun heq => hreuse (by rw [heq])) hopened.2, rfl⟩
  | cancel task => exact .inl ⟨aside_cancel htidy hsep fun heq => hcancel (by rw [heq]), rfl⟩
  | receive r =>
    by_cases hr : r.id = some q.id
    · exact .inr (.inl ⟨r, hr, by simp [arrivals, Act.response?, hr], rfl⟩)
    · exact .inl ⟨aside_accept htidy hr, by simp [arrivals, Act.response?, hr]⟩
  | connect up => exact .inl ⟨aside_setConnected htidy up, rfl⟩
  | pass time => exact .inr (.inr ⟨(htidy.runUntil time).ticks, rfl⟩)

/-- **The first response** with the id of an inquiry is kept for it. -/
theorem UnderWay.receive (h : UnderWay latency q [] n c) (htidy : Tidy latency n)
    (hmail : c.mailbox = .empty) {r : Envelope} (hr : r.id = some q.id) :
    UnderWay latency q [(n.now, r)] (n.updateEngine .client fun e => (e.accept r).2)
      { c with mailbox := .delivered r } := by
  have hpending : n.client.engine.pending.get? q.id = some c.key :=
    (htidy.sound.record q.id c.key).2 ⟨c, h.mem, rfl, h.id, hmail⟩
  have haccept : (n.client.engine.accept r).2 = n.client.engine.delivering q.id c.key r := by
    rcases n.client.engine.accept_cases r with ⟨id, key, hid, hkey, heq⟩ | ⟨hnone, -⟩
    · obtain rfl := Option.some.inj (hid.symm.trans hr)
      obtain rfl := Option.some.inj (hkey.symm.trans hpending)
      rw [heq]
    · rw [hnone q.id hr] at hpending
      cases hpending
  have hcalls : ∀ d, d ∈ (n.client.engine.accept r).2.calls ↔
      ∃ d' ∈ n.client.engine.calls,
        (if d'.key = c.key then { d' with mailbox := .delivered r } else d') = d := by
    intro d
    rw [haccept]
    exact Engine.mem_updateCall
  refine ⟨(hcalls _).2 ⟨c, h.mem, if_pos rfl⟩, fun d hd hid => ?_, h.id, h.action, h.started,
    h.patience, h.job, h.result,
    .inr ⟨n.now, r, rfl, rfl, Nat.le_refl _, .inr rfl⟩⟩
  obtain ⟨d', hd', rfl⟩ := (hcalls d).1 hd
  by_cases hkey : d'.key = c.key
  · rw [if_pos hkey, htidy.sound.eq_of_key hd' h.mem hkey]
  · rw [if_neg hkey] at hid
    exact absurd (by rw [h.only d' hd' hid]) hkey

/-- A response with an id that nobody waits for is rejected. -/
theorem accept_of_free {e : Engine} {r : Envelope} (hr : r.id = some x)
    (hfree : e.pending.get? x = none) : e.accept r = (false, e) := by
  rcases e.accept_cases r with ⟨id, key, hid, hkey, -⟩ | ⟨-, heq⟩
  · obtain rfl := Option.some.inj (hid.symm.trans hr)
    rw [hfree] at hkey
    cases hkey
  · exact heq

/-- A call that has its response waits for none. -/
theorem UnderWay.free (h : UnderWay latency q as n c) (htidy : Tidy latency n)
    (hmail : c.mailbox ≠ .empty) : n.client.engine.pending.get? q.id = none := by
  cases hpending : n.client.engine.pending.get? q.id with
  | none => rfl
  | some key =>
    obtain ⟨d, hd, -, hid, hempty⟩ := (htidy.sound.record q.id key).1 hpending
    rw [h.only d hd hid] at hempty
    exact absurd hempty hmail

/-- A response that is rejected changes nothing. -/
theorem updateEngine_of_rejected {r : Envelope}
    (h : n.client.engine.accept r = (false, n.client.engine)) :
    (n.updateEngine .client fun e => (e.accept r).2) = n := by
  show { n with client := { n.client with engine := (n.client.engine.accept r).2 } } = n
  rw [h]

/-- A response for a call that has returned is rejected. -/
theorem Returned.rejects (h : Returned q time result n) (htidy : Tidy latency n) {r : Envelope}
    (hr : r.id = some q.id) : n.client.engine.accept r = (false, n.client.engine) :=
  accept_of_free hr (htidy.sound.get?_of_gone h.gone)

/-- **A response** keeps the story of an inquiry. -/
theorem Story.receive (h : Story latency q as n) (htidy : Tidy latency n) {r : Envelope}
    (hr : r.id = some q.id) :
    Story latency q (as ++ [(n.now, r)]) (n.updateEngine .client fun e => (e.accept r).2) := by
  rcases h with ⟨c, hway⟩ | ⟨time, result, hback, hout⟩
  · rcases hway.mail with ⟨hmail, rfl⟩ | ⟨first, r', hmail, hfirst, hpast, hphase⟩
    · exact .inl ⟨_, hway.receive htidy hmail hr⟩
    · rw [updateEngine_of_rejected (accept_of_free hr (hway.free htidy (by rw [hmail]; simp)))]
      refine .inl ⟨c, { hway with mail := .inr ⟨first, r', hmail, ?_, hpast, hphase⟩ }⟩
      rw [List.head?_append, hfirst]
      rfl
  · rw [updateEngine_of_rejected (hback.rejects htidy hr)]
    refine .inr ⟨time, result, hback, hout.append fun a ha => ?_⟩
    rw [List.mem_singleton.1 ha]
    exact hback.past

theorem Story.separate (h : Story latency q as n) (htidy : Tidy latency n) :
    Separate latency q n ∧ q.task < n.agenda.nextId := by
  rcases h with ⟨c, hway⟩ | ⟨time, result, hback, -⟩
  · exact ⟨hway.separate htidy, hway.numbered htidy⟩
  · exact ⟨hback.separate, hback.task⟩

/-- **Each step keeps the story of an inquiry**, unless it starts another call under its id or gives
the inquiry up. -/
theorem Story.step {act : Nat × Act} (h : Story latency q as n) (htidy : Tidy latency n)
    (hs : Step n act n') (hreuse : act.2 ≠ .called q.id) (hcancel : act.2 ≠ .cancelled q.task) :
    Story latency q (as ++ arrivals q.id [act]) n' := by
  obtain ⟨hsep, htask⟩ := h.separate htidy
  rcases step_cases htidy hsep htask hs hreuse hcancel with
    ⟨haside, hnone⟩ | ⟨r, hr, hone, rfl⟩ | ⟨hticks, hnone⟩
  · rw [hnone, List.append_nil]
    exact h.aside haside
  · rw [hone]
    exact h.receive htidy hr
  · rw [hnone, List.append_nil]
    exact h.ticks htidy hticks

/-- What has returned stays so, whatever is done. -/
theorem Returned.step {act : Nat × Act} (h : Returned q time result n) (htidy : Tidy latency n)
    (hs : Step n act n') (hreuse : act.2 ≠ .called q.id) (hcancel : act.2 ≠ .cancelled q.task) :
    Returned q time result n' := by
  rcases step_cases htidy h.separate h.task hs hreuse hcancel with
    ⟨haside, -⟩ | ⟨r, hr, -, rfl⟩ | ⟨hticks, -⟩
  · exact h.aside haside
  · rwa [updateEngine_of_rejected (h.rejects htidy hr)]
  · exact h.ticks htidy hticks

end CardLink.Bench
