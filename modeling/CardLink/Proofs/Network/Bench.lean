import CardLink.Proofs.Engine.Pace
import CardLink.Proofs.Network.Calls
import CardLink.Proofs.Network.Scheduling

/-!
# The tasks of a bare engine on an outbox

On a bench each task looks at a call of the bare engine that no other task looks at. A task is in the
queue, or there is mail for it, or its alarm stands at the moment at which its call is to be looked
at. So no call is ever looked at too late.

* `Network.Tidy`: the invariant.
* `Network.tends`: what a turn makes of a bench, by whether its call ends.
* `Tidy.turn`, `Tidy.awaken`, `Tidy.ring`: what happens by itself keeps the invariant.
* `Tidy.of_calls`, `Tidy.spawned`, `Tidy.ended`: so does mail for a call, and the start or the end of
  a task with its call.
-/

namespace CardLink

/-- The ticket of a call of the bare engine. -/
def Call.ticket (latency : Nat) (c : Call) (target : String) (request : Envelope) : Ticket where
  caller := .client
  key := c.key
  target := target
  request := request
  sendingUntil := if c.phase = .sending then some (c.started + latency) else none

namespace Network

variable {n n' : Network} {latency i k : Nat} {t u : Task Job} {c d : Call} {job : Job}
  {target : String} {request : Envelope}

/-! ## 1. The invariant -/

/-- A task that does this looks at a call. -/
def Serves (latency : Nat) (job : Job) (c : Call) : Prop :=
  ∃ target request, job = .call (c.ticket latency target request) .text

/-- A task looks at a call in time: it is in the queue or will be woken. -/
def Served (latency : Nat) (n : Network) (t : Task Job) : Prop :=
  ∃ c ∈ n.client.engine.calls, Serves latency t.job c ∧ c.OnTime latency n.now ∧
    (t.id ∈ n.agenda.ready ∨ c.Mailed ∨ ∃ order, t.alarm = some ⟨c.due latency, order⟩)

/-- The link is an outbox that takes its time. -/
def Linked (latency : Nat) (n : Network) : Prop := ∃ o, n.link = .outbox o ∧ o.latency = latency

/-- **All tasks look at calls of the bare engine**, each at one of its own and in time. -/
structure Tidy (latency : Nat) (n : Network) : Prop where
  link : Linked latency n
  sound : n.client.engine.Sound
  ids : (n.agenda.tasks.map (·.id)).Nodup
  fresh : ∀ t ∈ n.agenda.tasks, t.id < n.agenda.nextId
  queue : n.agenda.ready.Nodup
  queued : ∀ i ∈ n.agenda.ready, ∃ t ∈ n.agenda.tasks, t.id = i
  served : ∀ t ∈ n.agenda.tasks, Served latency n t
  apart : ∀ t ∈ n.agenda.tasks, ∀ u ∈ n.agenda.tasks, ∀ c d,
    Serves latency t.job c → Serves latency u.job d → c.key = d.key → t.id = u.id
  results : ∀ r ∈ n.results, r.1 < n.agenda.nextId

theorem tidy_bench (o : Outbox) (patience limit : Nat) (metrics : Option Metrics) :
    Tidy o.latency (bench o ⟨.new patience limit, metrics⟩) where
  link := ⟨o, rfl, rfl⟩
  sound := Engine.sound_new patience limit
  ids := List.nodup_nil
  fresh _ ht := absurd ht List.not_mem_nil
  queue := List.nodup_nil
  queued _ hi := absurd hi List.not_mem_nil
  served _ ht := absurd ht List.not_mem_nil
  apart _ ht := absurd ht List.not_mem_nil
  results _ hr := absurd hr List.not_mem_nil

theorem Serves.key (h : Serves latency job c) (h' : Serves latency job d) : c.key = d.key := by
  obtain ⟨target, request, rfl⟩ := h
  obtain ⟨target', request', heq⟩ := h'
  exact congrArg Ticket.key (Job.call.inj heq).1

theorem Serves.stays (h : Serves latency job c) (hd : Engine.Stays c d) :
    Serves latency job d := by
  obtain ⟨m, rfl, -⟩ := hd
  exact h

theorem Tidy.eq_of_id (h : Tidy latency n) (ht : t ∈ n.agenda.tasks) (hu : u ∈ n.agenda.tasks)
    (hid : t.id = u.id) : t = u :=
  List.inj_on_of_nodup_map h.ids ht hu hid

/-- The next task has no job yet. -/
theorem Tidy.job?_next (h : Tidy latency n) : n.agenda.job? n.agenda.nextId = none := by
  cases hjob : n.agenda.job? n.agenda.nextId with
  | none => rfl
  | some job =>
    obtain ⟨t, ht, -⟩ := Option.map_eq_some_iff.1 hjob
    obtain ⟨hmem, hid⟩ := Agenda.mem_of_task? ht
    exact absurd hid (Nat.ne_of_lt (h.fresh t hmem))

theorem Tidy.task? (h : Tidy latency n) (ht : t ∈ n.agenda.tasks) :
    n.agenda.task? t.id = some t := Agenda.task?_of_mem h.ids ht

/-! ## 2. A turn -/

theorem ticket_of_sending (h : c.phase = .sending) :
    c.ticket latency target request =
      ⟨.client, c.key, target, request, some (c.started + latency)⟩ := by
  unfold Call.ticket
  rw [if_pos h]

theorem ticket_of_sent (h : c.phase ≠ .sending) :
    c.ticket latency target request = ⟨.client, c.key, target, request, none⟩ := by
  unfold Call.ticket
  rw [if_neg h]

theorem ticket_lookedAt_of_sent {now : Nat} (h : c.phase = .sending ∧ c.started + latency ≤ now) :
    (c.lookedAt latency now).ticket latency target request =
      ⟨.client, c.key, target, request, none⟩ := by
  rw [Call.lookedAt, if_pos h]
  exact ticket_of_sent (by simp)

/-- A task can go on if its call has mail. -/
theorem canGoOn_iff (h : n.client.engine.Sound) (hc : c ∈ n.client.engine.calls)
    (ht : Serves latency t.job c) : n.canGoOn t = true ↔ c.Mailed := by
  obtain ⟨target, request, hjob⟩ := ht
  have hcall : (n.engine? .client).bind (·.call? c.key) = some c := h.call?_eq hc
  unfold canGoOn
  rw [hjob]
  dsimp only
  unfold hasMail Call.Mailed
  by_cases hphase : c.phase = .sending
  · rw [ticket_of_sending hphase]
    simp [hphase]
  · rw [ticket_of_sent hphase]
    simp [hcall, hphase]

/-- A network with another queue. -/
def popped (n : Network) (rest : List Nat) : Network :=
  { n with agenda := { n.agenda with ready := rest } }

/-- **A task tends to its call**: what its turn makes of a bench; `rest` is the queue without it. -/
inductive Tends (latency : Nat) (n : Network) (i : Nat) (rest : List Nat) (c : Call)
    (n' : Network) : Prop where
  | waits (hending : (c.lookedAt latency n.now).ending? n.now = none) (job : Job) (order next : Nat)
      (hjob : Serves latency job (c.lookedAt latency n.now))
      (hagenda : n'.agenda =
        { n.agenda with
          tasks := n.agenda.tasks.map fun t =>
            if t.id = i then ⟨t.id, job, some ⟨(c.lookedAt latency n.now).due latency, order⟩⟩
            else t
          ready := rest
          nextOrder := next })
      (hengine : n'.client.engine = n.client.engine.lookedAt latency n.now c)
      (hresults : n'.results = n.results) (hlink : Linked latency n')
  | ends (ending : CallEnding)
      (hending : (c.lookedAt latency n.now).ending? n.now = some ending)
      (hagenda : n'.agenda =
        { n.agenda with
          tasks := n.agenda.tasks.filter (·.id != i)
          ready := rest.filter (· != i) })
      (hengine : n'.client.engine =
        (n.client.engine.lookedAt latency n.now c).withdrawing (c.lookedAt latency n.now))
      (hresults : n'.results =
        n.results ++ [(i, .text (ending.result (c.lookedAt latency n.now)))])
      (hlink : Linked latency n')

/-- A turn takes no time. -/
theorem Tends.now {rest : List Nat} (h : Tends latency n i rest c n') : n'.now = n.now := by
  cases h with
  | waits hending job order next hjob hagenda hengine hresults hlink =>
    exact (congrArg Agenda.now hagenda).trans rfl
  | ends ending hending hagenda hengine hresults hlink =>
    exact (congrArg Agenda.now hagenda).trans rfl

/-- A look at a call whose request was sent. -/
theorem pollWaiting_client (h : n.client.engine.Sound) (hc : c ∈ n.client.engine.calls)
    {deadline : Nat} (hphase : c.phase = .waiting deadline) :
    n.pollWaiting (c.ticket latency target request) =
      match c.ending? n.now with
      | some ending => (.over (ending.result c),
          (n.updateEngine .client fun _ => n.client.engine.withdrawing c).updateMetrics .client
            ending.record)
      | none => (.under deadline (c.ticket latency target request), n) := by
  have hcall : (n.engine? .client).bind (·.call? c.key) = some c := h.call?_eq hc
  unfold pollWaiting
  simp only [Call.ticket, hcall]
  cases c.ending? n.now with
  | none => simp [hphase]
  | some ending =>
    rw [← h.release_of_mem hc]
    rfl

theorem Linked.endSending (h : Linked latency n) (target : String) (e : Envelope) :
    ∃ o : Outbox, o.latency = latency ∧ n.endSending target e = { n with link := .outbox o } := by
  obtain ⟨o, hlink, ho⟩ := h
  refine ⟨o.record target e, ho, ?_⟩
  unfold Network.endSending updateOutbox
  rw [hlink]

/-- **A look at a call of the bare engine** changes the engine at most, or ends the call. -/
theorem poll_client (hlink : Linked latency n) (h : n.client.engine.Sound)
    (hc : c ∈ n.client.engine.calls) (target : String) (request : Envelope) :
    ∃ n₁ : Network, n₁.agenda = n.agenda ∧ n₁.results = n.results ∧ Linked latency n₁ ∧
      n₁.client.engine = n.client.engine.lookedAt latency n.now c ∧
      n.poll (c.ticket latency target request) =
        match (c.lookedAt latency n.now).ending? n.now with
        | some ending => (.over (ending.result (c.lookedAt latency n.now)),
            (n₁.updateEngine .client fun _ =>
              (n.client.engine.lookedAt latency n.now c).withdrawing
                (c.lookedAt latency n.now)).updateMetrics .client ending.record)
        | none => (.under ((c.lookedAt latency n.now).due latency)
            ((c.lookedAt latency n.now).ticket latency target request), n₁) := by
  cases hphase : c.phase with
  | waiting deadline =>
    have hlooked : c.lookedAt latency n.now = c := by simp [Call.lookedAt, hphase]
    have hengine : n.client.engine.lookedAt latency n.now c = n.client.engine := by
      simp [Engine.lookedAt, hphase]
    refine ⟨n, rfl, rfl, hlink, hengine.symm, ?_⟩
    have hpoll : n.poll (c.ticket latency target request) =
        n.pollWaiting (c.ticket latency target request) := by
      simp [poll, Call.ticket, hphase]
    rw [hpoll, pollWaiting_client h hc hphase, hlooked, hengine, Call.due_of_waiting hphase]
  | sending =>
    by_cases hsent : c.started + latency ≤ n.now
    · -- the request has just been sent
      have hlooked : c.lookedAt latency n.now =
          { c with phase := .waiting (n.now + c.patience) } := by
        simp [Call.lookedAt, hphase, hsent]
      have hengine : n.client.engine.lookedAt latency n.now c =
          n.client.engine.sent c.key n.now := by
        simp [Engine.lookedAt, hphase, hsent]
      obtain ⟨o, ho, hended⟩ := hlink.endSending target request
      have hsound := h.lookedAt latency n.now c
      have hmem := h.lookedAt_mem hc latency n.now
      rw [hengine] at hsound hmem
      rw [hlooked] at hmem
      refine ⟨n.requestSent (c.ticket latency target request), ?_⟩
      have hn : n.requestSent (c.ticket latency target request) =
          { n with
            link := .outbox o
            client := { n.client with engine := n.client.engine.sent c.key n.now } } := by
        show (n.endSending target request).updateEngine .client (·.sent c.key n.now) = _
        rw [hended]
        rfl
      rw [hn]
      refine ⟨rfl, rfl, ⟨o, rfl, ho⟩, hengine.symm, ?_⟩
      have hpoll : n.poll (c.ticket latency target request) =
          (n.requestSent (c.ticket latency target request)).pollWaiting
            ((c.lookedAt latency n.now).ticket latency target request) := by
        rw [ticket_of_sending hphase, ticket_lookedAt_of_sent ⟨hphase, hsent⟩]
        simp [poll, hsent]
      rw [hpoll, hn, hlooked, hengine, pollWaiting_client hsound hmem rfl, Call.due_of_waiting rfl]
      rfl
    · have hlooked : c.lookedAt latency n.now = c := by simp [Call.lookedAt, hsent]
      have hengine : n.client.engine.lookedAt latency n.now c = n.client.engine := by
        simp [Engine.lookedAt, hsent]
      refine ⟨n, rfl, rfl, hlink, hengine.symm, ?_⟩
      rw [hlooked, Call.due_of_sending hphase, ticket_of_sending hphase]
      simp [poll, hsent, Call.ending?, hphase]

/-- **The turn of a task** lets its call wait, or ends it. -/
theorem tends (hlink : Linked latency n) (h : n.client.engine.Sound)
    (hids : (n.agenda.tasks.map (·.id)).Nodup) (hc : c ∈ n.client.engine.calls)
    (htask : n.agenda.task? i = some t) (hserves : Serves latency t.job c) (rest : List Nat) :
    Tends latency n i rest c ((n.popped rest).turn i) := by
  obtain ⟨target, request, hjob⟩ := hserves
  obtain ⟨n₁, hagenda, hresults, hlink₁, hengine, hpoll⟩ :=
    poll_client (n := n.popped rest) hlink h hc target request
  have htask' : (n.popped rest).agenda.task? i = some t := htask
  have hturn : (n.popped rest).turn i =
      (n.popped rest).turnCall i (c.ticket latency target request) .text := by
    unfold turn
    rw [htask']
    dsimp only
    rw [hjob]
  have hnow : (n.popped rest).now = n.now := rfl
  have hclient : (n.popped rest).client = n.client := rfl
  rw [hnow, hclient] at hpoll hengine
  rw [hturn]
  unfold turnCall
  rw [hpoll]
  cases hending : (c.lookedAt latency n.now).ending? n.now with
  | none =>
    obtain ⟨order, next, hset⟩ := Agenda.setJob_awaitTime (a := (n.popped rest).agenda) hids i
      ((c.lookedAt latency n.now).due latency)
      (.call ((c.lookedAt latency n.now).ticket latency target request) .text)
    refine .waits hending _ order next ⟨target, request, rfl⟩ ?_ hengine hresults hlink₁
    show (n₁.agenda.setJob i _).awaitTime i _ = _
    rw [hagenda, hset]
    rfl
  | some ending =>
    refine .ends ending hending ?_ rfl ?_ hlink₁
    · show n₁.agenda.remove i = _
      rw [hagenda]
      rfl
    · show n₁.results ++ _ = _
      rw [hresults]
      rfl

/-! ## 3. What keeps the invariant -/

/-- A task goes on to look at its call in time. -/
theorem Served.of_stays (h : Served latency n t) (hnow : n'.now = n.now)
    (hcalls : ∀ c ∈ n.client.engine.calls, Serves latency t.job c →
      ∃ c' ∈ n'.client.engine.calls, Engine.Stays c c')
    (hready : t.id ∈ n.agenda.ready → t.id ∈ n'.agenda.ready) : Served latency n' t := by
  obtain ⟨c, hc, hserves, htime, hheeds⟩ := h
  obtain ⟨c', hc', hstays⟩ := hcalls c hc hserves
  refine ⟨c', hc', hserves.stays hstays, ?_, ?_⟩
  · obtain ⟨m, rfl, -⟩ := hstays
    rw [hnow]
    exact Call.onTime_mailbox m htime
  · obtain ⟨m, rfl, hmail⟩ := hstays
    rcases hheeds with hin | hmailed | halarm
    · exact .inl (hready hin)
    · exact .inr (.inl ⟨hmailed.1, hmail hmailed.2⟩)
    · exact .inr (.inr halarm)

/-- Each of these tasks looks at a call that the task of its id looked at before. -/
theorem Tidy.apart_of_keys (h : Tidy latency n) {ts : List (Task Job)}
    (hkeys : ∀ v ∈ ts, ∃ u ∈ n.agenda.tasks, u.id = v.id ∧
      ∀ d, Serves latency v.job d → ∃ d', Serves latency u.job d' ∧ d'.key = d.key) :
    ∀ t ∈ ts, ∀ u ∈ ts, ∀ c d,
      Serves latency t.job c → Serves latency u.job d → c.key = d.key → t.id = u.id := by
  intro v hv w hw d e hvd hwe hkey
  obtain ⟨v', hv', hvid, hvkey⟩ := hkeys v hv
  obtain ⟨w', hw', hwid, hwkey⟩ := hkeys w hw
  obtain ⟨d', hvd', hdkey⟩ := hvkey d hvd
  obtain ⟨e', hwe', hekey⟩ := hwkey e hwe
  rw [← hvid, ← hwid]
  exact h.apart v' hv' w' hw' d' e' hvd' hwe' (by rw [hdkey, hekey, hkey])

/-- Tasks join the queue, some because their alarm has rung. -/
theorem Tidy.of_agenda (h : Tidy latency n) {a : Agenda Job} (f : Task Job → Task Job)
    (hf : ∀ t, (f t).id = t.id ∧ (f t).job = t.job) (hnow : a.now = n.now)
    (hnext : a.nextId = n.agenda.nextId) (htasks : a.tasks = n.agenda.tasks.map f)
    (hqueue : a.ready.Nodup) (hqueued : ∀ i ∈ a.ready, ∃ t ∈ n.agenda.tasks, t.id = i)
    (hready : ∀ i ∈ n.agenda.ready, i ∈ a.ready)
    (halarm : ∀ t ∈ n.agenda.tasks, (f t).alarm = t.alarm ∨ t.id ∈ a.ready) :
    Tidy latency { n with agenda := a } where
  link := h.link
  sound := h.sound
  ids := by
    show (a.tasks.map (·.id)).Nodup
    have hids : (n.agenda.tasks.map f).map (·.id) = n.agenda.tasks.map (·.id) := by
      rw [List.map_map]
      exact List.map_congr_left fun t _ => (hf t).1
    rw [htasks, hids]
    exact h.ids
  fresh t ht := by
    obtain ⟨u, hu, rfl⟩ := List.mem_map.1 (htasks ▸ ht)
    show (f u).id < a.nextId
    rw [(hf u).1, hnext]
    exact h.fresh u hu
  queue := hqueue
  queued i hi := by
    obtain ⟨u, hu, rfl⟩ := hqueued i hi
    refine ⟨f u, ?_, (hf u).1⟩
    show f u ∈ a.tasks
    rw [htasks]
    exact List.mem_map_of_mem hu
  served t ht := by
    obtain ⟨u, hu, rfl⟩ := List.mem_map.1 (htasks ▸ ht)
    obtain ⟨c, hc, hserves, htime, hheeds⟩ := h.served u hu
    refine ⟨c, hc, by rwa [(hf u).2], ?_, ?_⟩
    · show c.OnTime latency a.now
      rwa [hnow]
    · show (f u).id ∈ a.ready ∨ _
      rw [(hf u).1]
      rcases hheeds with hin | hmailed | hset
      · exact .inl (hready _ hin)
      · exact .inr (.inl hmailed)
      · rcases halarm u hu with hsame | hin
        · exact .inr (.inr (by rwa [hsame]))
        · exact .inl hin
  apart := h.apart_of_keys fun v hv => by
    obtain ⟨u, hu, rfl⟩ := List.mem_map.1 (htasks ▸ hv)
    exact ⟨u, hu, (hf u).1.symm, fun d hd => ⟨d, by rwa [← (hf u).2], rfl⟩⟩
  results r hr := by
    show r.1 < a.nextId
    rw [hnext]
    exact h.results r hr

/-- **Tasks with mail are woken.** -/
theorem Tidy.awaken (h : Tidy latency n) : Tidy latency n.awaken := by
  refine h.of_agenda id (fun t => ⟨rfl, rfl⟩) (Agenda.now_wakeWhere _)
    (n.agenda.akin_wakeWhere _).nextId ((Agenda.tasks_wakeWhere _).trans (List.map_id _).symm)
    (Agenda.nodup_wakeWhere _ h.queue) (fun i hi => ?_)
    (fun i hi => Agenda.mem_ready_wakeWhere.2 (.inl hi)) fun t _ => .inl rfl
  rcases Agenda.mem_ready_wakeWhere.1 hi with hin | ⟨t, ht, -, hid⟩
  · exact h.queued i hin
  · exact ⟨t, ht, hid⟩

/-- **Alarms ring.** -/
theorem Tidy.ring (h : Tidy latency n) : Tidy latency (n.mapAgenda (·.ring)) := by
  refine h.of_agenda n.agenda.rung (fun t => ⟨Agenda.id_rung t, Agenda.job_rung t⟩) Agenda.now_ring
    n.agenda.akin_ring.nextId Agenda.tasks_ring (Agenda.nodup_ring h.queue) (fun i hi => ?_)
    (fun i hi => Agenda.mem_ready_ring.2 (.inl hi)) fun t ht => ?_
  · rcases Agenda.mem_ready_ring.1 hi with hin | ⟨t, ht, -, hid⟩
    · exact h.queued i hin
    · exact ⟨t, ht, hid⟩
  · by_cases hringing : n.agenda.isRinging t
    · exact .inr (Agenda.mem_ready_ring.2 (.inr ⟨t, ht, hringing, rfl⟩))
    · left
      unfold Agenda.rung
      rw [if_neg hringing]

/-- Calls get mail, and numbers of tasks may be used up. -/
theorem Tidy.of_calls (h : Tidy latency n) (hnext : n.agenda.nextId ≤ k)
    (hagenda : n'.agenda = { n.agenda with nextId := k })
    (hresults : ∀ r ∈ n'.results, r.1 < k) (hlink : Linked latency n')
    (hsound : n'.client.engine.Sound)
    (hcalls : ∀ c ∈ n.client.engine.calls, ∃ c' ∈ n'.client.engine.calls, Engine.Stays c c') :
    Tidy latency n' where
  link := hlink
  sound := hsound
  ids := by rw [hagenda]; exact h.ids
  fresh := by rw [hagenda]; exact fun t ht => Nat.lt_of_lt_of_le (h.fresh t ht) hnext
  queue := by rw [hagenda]; exact h.queue
  queued := by rw [hagenda]; exact h.queued
  served t ht := by
    have hnow : n'.now = n.now := (congrArg Agenda.now hagenda).trans rfl
    rw [hagenda] at ht
    exact (h.served t ht).of_stays hnow (fun c hc _ => hcalls c hc) fun hin => by rwa [hagenda]
  apart := by rw [hagenda]; exact h.apart
  results := by rw [hagenda]; exact hresults

/-- A task starts with its call. -/
theorem Tidy.spawned (h : Tidy latency n) (hserves : Serves latency job c)
    (hagenda : n'.agenda = (n.agenda.spawn job).2) (hresults : n'.results = n.results)
    (hlink : Linked latency n') (hsound : n'.client.engine.Sound) (hc : c ∈ n'.client.engine.calls)
    (htime : c.OnTime latency n.now) (hnew : ∀ d ∈ n.client.engine.calls, d.key ≠ c.key)
    (hcalls : ∀ d ∈ n.client.engine.calls, ∃ d' ∈ n'.client.engine.calls, Engine.Stays d d') :
    Tidy latency n' := by
  have hnow : n'.now = n.now := (congrArg Agenda.now hagenda).trans rfl
  have htask : ∀ u ∈ n'.agenda.tasks, u ∈ n.agenda.tasks ∨ u = ⟨n.agenda.nextId, job, none⟩ := by
    intro u hu
    rw [hagenda] at hu
    exact (List.mem_append.1 hu).imp_right List.mem_singleton.1
  -- the new call is nobody else's
  have hown : ∀ u ∈ n.agenda.tasks, ∀ d, Serves latency u.job d →
      ∀ e, Serves latency job e → d.key ≠ e.key := by
    intro u hu d hud e he
    obtain ⟨d', hd', hud', -⟩ := h.served u hu
    rw [hud.key hud', he.key hserves]
    exact hnew d' hd'
  refine ⟨hlink, hsound, ?_, fun u hu => ?_, ?_, fun i hi => ?_, fun u hu => ?_,
    fun u hu v hv d e hud hve hkey => ?_, fun r hr => ?_⟩
  · rw [hagenda]
    show ((n.agenda.tasks ++ [_]).map Task.id).Nodup
    rw [List.map_append]
    refine h.ids.append (List.nodup_singleton _) (List.disjoint_singleton.2 fun hk => ?_)
    obtain ⟨u, hu, hid⟩ := List.mem_map.1 hk
    exact Nat.ne_of_lt (h.fresh u hu) hid
  · rw [hagenda]
    rcases htask u hu with hu | rfl
    · exact Nat.lt_succ_of_lt (h.fresh u hu)
    · exact Nat.lt_succ_self _
  · rw [hagenda]
    refine h.queue.append (List.nodup_singleton _) (List.disjoint_singleton.2 fun hk => ?_)
    obtain ⟨u, hu, hid⟩ := h.queued _ hk
    exact Nat.ne_of_lt (h.fresh u hu) hid
  · rw [hagenda] at hi ⊢
    rcases List.mem_append.1 hi with hi | hi
    · obtain ⟨u, hu, hid⟩ := h.queued i hi
      exact ⟨u, List.mem_append_left _ hu, hid⟩
    · refine ⟨_, List.mem_append_right _ (List.mem_singleton_self _), ?_⟩
      exact (List.mem_singleton.1 hi).symm
  · rcases htask u hu with hu | rfl
    · refine (h.served u hu).of_stays hnow (fun d hd _ => hcalls d hd) fun hin => ?_
      rw [hagenda]
      exact List.mem_append_left _ hin
    · refine ⟨c, hc, hserves, by rwa [hnow], .inl ?_⟩
      rw [hagenda]
      exact List.mem_append_right _ (List.mem_singleton_self _)
  · rcases htask u hu with hu | rfl
    · rcases htask v hv with hv | rfl
      · exact h.apart u hu v hv d e hud hve hkey
      · exact absurd hkey (hown u hu d hud e hve)
    · rcases htask v hv with hv | rfl
      · exact absurd hkey.symm (hown v hv e hve d hud)
      · rfl
  · rw [hagenda]
    rw [hresults] at hr
    exact Nat.lt_succ_of_lt (h.results r hr)

/-- A task ends with its call. -/
theorem Tidy.ended (h : Tidy latency n) (ht : t ∈ n.agenda.tasks) (hserves : Serves latency t.job c)
    (hnow : n'.now = n.now) (hnext : n'.agenda.nextId = n.agenda.nextId)
    (htasks : n'.agenda.tasks = n.agenda.tasks.filter (·.id != t.id))
    (hready : n'.agenda.ready = n.agenda.ready.filter (· != t.id)) (hlink : Linked latency n')
    (hsound : n'.client.engine.Sound)
    (hcalls : ∀ d ∈ n.client.engine.calls, d.key ≠ c.key →
      ∃ d' ∈ n'.client.engine.calls, Engine.Stays d d')
    (hresults : ∀ r ∈ n'.results, r.1 < n.agenda.nextId) : Tidy latency n' := by
  have hmem : ∀ u, u ∈ n'.agenda.tasks ↔ u ∈ n.agenda.tasks ∧ u.id ≠ t.id := by
    intro u
    rw [htasks, List.mem_filter, bne_iff_ne]
  have hin : ∀ i, i ∈ n'.agenda.ready ↔ i ∈ n.agenda.ready ∧ i ≠ t.id := by
    intro i
    rw [hready, List.mem_filter, bne_iff_ne]
  refine ⟨hlink, hsound, ?_, fun u hu => ?_, ?_, fun i hi => ?_, fun u hu => ?_,
    fun u hu v hv => ?_, fun r hr => ?_⟩
  · rw [htasks]
    exact h.ids.sublist (List.Sublist.map _ List.filter_sublist)
  · rw [hnext]
    exact h.fresh u ((hmem u).1 hu).1
  · rw [hready]
    exact h.queue.filter _
  · obtain ⟨hin', hne⟩ := (hin i).1 hi
    obtain ⟨u, hu, rfl⟩ := h.queued i hin'
    exact ⟨u, (hmem u).2 ⟨hu, hne⟩, rfl⟩
  · obtain ⟨hu', hne⟩ := (hmem u).1 hu
    refine (h.served u hu').of_stays hnow (fun d hd hud => hcalls d hd fun hkey => hne ?_)
      fun hready => (hin u.id).2 ⟨hready, hne⟩
    exact h.apart u hu' t ht d c hud hserves hkey
  · exact h.apart u ((hmem u).1 hu).1 v ((hmem v).1 hv).1
  · rw [hnext]
    exact hresults r hr

/-- A task lets its call wait. -/
theorem Tidy.waits (h : Tidy latency n) {rest : List Nat} (hready : n.agenda.ready = t.id :: rest)
    (ht : t ∈ n.agenda.tasks) (hc : c ∈ n.client.engine.calls) (hserves : Serves latency t.job c)
    (htime : c.OnTime latency n.now) {order next : Nat}
    (hjob : Serves latency job (c.lookedAt latency n.now))
    (hagenda : n'.agenda =
      { n.agenda with
        ready := rest
        tasks := n.agenda.tasks.map fun u =>
          if u.id = t.id then
            ⟨u.id, job, some ⟨(c.lookedAt latency n.now).due latency, order⟩⟩
          else u
        nextOrder := next })
    (hengine : n'.client.engine = n.client.engine.lookedAt latency n.now c)
    (hresults : n'.results = n.results) (hlink : Linked latency n') : Tidy latency n' := by
  have hqueue : (t.id :: rest).Nodup := hready ▸ h.queue
  have hmem : ∀ v ∈ n'.agenda.tasks, ∃ u ∈ n.agenda.tasks, u.id = v.id ∧
      (u.id = t.id ∧ v = ⟨u.id, job, some ⟨(c.lookedAt latency n.now).due latency, order⟩⟩ ∨
        u.id ≠ t.id ∧ v = u) := by
    intro v hv
    rw [hagenda] at hv
    obtain ⟨u, hu, rfl⟩ := List.mem_map.1 hv
    by_cases hid : u.id = t.id
    · exact ⟨u, hu, by rw [if_pos hid], .inl ⟨hid, if_pos hid⟩⟩
    · exact ⟨u, hu, by rw [if_neg hid], .inr ⟨hid, if_neg hid⟩⟩
  have hnow : n'.now = n.now := (congrArg Agenda.now hagenda).trans rfl
  refine ⟨hlink, ?_, ?_, fun v hv => ?_, ?_, fun i hi => ?_, fun v hv => ?_,
    h.apart_of_keys fun v hv => ?_, ?_⟩
  · rw [hengine]
    exact h.sound.lookedAt latency n.now c
  · have hids : n'.agenda.tasks.map (·.id) = n.agenda.tasks.map (·.id) := by
      rw [hagenda, List.map_map]
      refine List.map_congr_left fun u _ => ?_
      by_cases hid : u.id = t.id
      · simp [hid]
      · simp [hid]
    rw [hids]
    exact h.ids
  · obtain ⟨u, hu, hid, -⟩ := hmem v hv
    rw [hagenda, ← hid]
    exact h.fresh u hu
  · rw [hagenda]
    exact (List.nodup_cons.1 hqueue).2
  · rw [hagenda] at hi ⊢
    have hin : i ∈ n.agenda.ready := by
      rw [hready]
      exact List.mem_cons_of_mem _ hi
    obtain ⟨u, hu, rfl⟩ := h.queued i hin
    refine ⟨_, List.mem_map_of_mem hu, ?_⟩
    split
    · rfl
    · rfl
  · obtain ⟨u, hu, -, ⟨hut, rfl⟩ | ⟨hne, rfl⟩⟩ := hmem v hv
    · refine ⟨c.lookedAt latency n.now, ?_, hjob, ?_, .inr (.inr ⟨order, rfl⟩)⟩
      · rw [hengine]
        exact h.sound.lookedAt_mem hc latency n.now
      · rw [hnow]
        exact htime.lookedAt
    · refine (h.served v hu).of_stays hnow (fun d hd hvd => ⟨d, ?_, .refl d⟩) fun hin => ?_
      · rw [hengine]
        exact (h.sound.mem_lookedAt hc).2
          (.inr ⟨hd, fun hkey => hne (h.apart v hu t ht d c hvd hserves hkey)⟩)
      · rw [hready] at hin
        rw [hagenda]
        exact (List.mem_cons.1 hin).resolve_left hne
  · obtain ⟨u, hu, -, ⟨hut, rfl⟩ | ⟨-, rfl⟩⟩ := hmem v hv
    · exact ⟨t, ht, hut.symm,
        fun d hd => ⟨c, hserves, Call.key_lookedAt.symm.trans (hjob.key hd)⟩⟩
    · exact ⟨v, hu, rfl, fun d hd => ⟨d, hd, rfl⟩⟩
  · rw [hagenda, hresults]
    exact h.results

/-! ### Turns -/

/-- The task at the head of the queue has its turn, and looks at a call in time. -/
theorem Tidy.tends (h : Tidy latency n) {rest : List Nat} (hready : n.agenda.ready = i :: rest) :
    ∃ t ∈ n.agenda.tasks, ∃ c ∈ n.client.engine.calls, t.id = i ∧ Serves latency t.job c ∧
      c.OnTime latency n.now ∧ Tends latency n i rest c ((n.popped rest).turn i) := by
  have hin : i ∈ n.agenda.ready := by
    rw [hready]
    exact List.mem_cons_self
  obtain ⟨t, ht, rfl⟩ := h.queued i hin
  obtain ⟨c, hc, hserves, htime, -⟩ := h.served t ht
  exact ⟨t, ht, c, hc, rfl, hserves, htime,
    Network.tends h.link h.sound h.ids hc (h.task? ht) hserves rest⟩

/-- **A task has its turn.** -/
theorem Tidy.turn (h : Tidy latency n) {rest : List Nat} (hready : n.agenda.ready = i :: rest) :
    Tidy latency ((n.popped rest).turn i) := by
  obtain ⟨t, ht, c, hc, rfl, hserves, htime, htends⟩ := h.tends hready
  have hsound := h.sound.lookedAt latency n.now c
  have hmem := h.sound.lookedAt_mem hc latency n.now
  have hnow := htends.now
  cases htends with
  | waits hending job order next hjob hagenda hengine hresults hlink =>
    exact h.waits hready ht hc hserves htime hjob hagenda hengine hresults hlink
  | ends ending hending hagenda hengine hresults hlink =>
    refine h.ended ht hserves hnow ((congrArg Agenda.nextId hagenda).trans rfl)
      (congrArg Agenda.tasks hagenda) ?_ hlink ?_ (fun d hd hkey => ?_) fun r hr => ?_
    · rw [hagenda, hready]
      simp
    · rw [hengine]
      exact hsound.withdrawing hmem
    · rw [hengine]
      refine Engine.stays_withdrawing ((h.sound.mem_lookedAt hc).2 (.inr ⟨hd, hkey⟩)) ?_
      rwa [Call.key_lookedAt]
    · rw [hresults] at hr
      rcases List.mem_append.1 hr with hr | hr
      · exact h.results r hr
      · rw [List.mem_singleton.1 hr]
        exact h.fresh t ht

end Network

end CardLink
