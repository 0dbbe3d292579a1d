import CardLink.Proofs.Network.Scheduling

/-!
# A master and a slave on a hub

What a test sees of a master and one slave is a scene: the tasks beside the two receivers, the texts
on their way, the plugin and the slave. The counters behind it take no part in what happens. A turn
on a stage leads from scene to scene.

* `Network.stage`: the network that shows a scene.
* `Network.awaken_stage`: who is awake before the next turn.
* `Leads`, `Leads.trans`: some turns lead from one scene to another, whatever the counters say.
* **`settle_of_leads`**: a scene in which nobody can go on is where the network settles.
* `Network.await_of_result`, `Network.await_of_next`: a task has its result at once or at the next
  alarm.
-/

namespace CardLink

open Network

/-! ## 1. Scenes -/

/-- What is seen of a master and a slave on a hub. -/
structure Scene where
  now : Nat
  /-- the tasks that came after the two receivers -/
  others : List (Task Job)
  ready : List Nat
  nextId : Nat
  nextOrder : Nat
  /-- texts that the master has not taken yet -/
  toMaster : List String
  /-- texts that the slave has not taken yet -/
  toSlave : List String
  plugin : Plugin
  slave : Slave
  client : Client
  callIds : Nat → String
  freshIds : Nat
  results : List (Nat × Result)

/-- What nobody on the stage looks at. -/
structure Backstage where
  config : Config
  stats : DispatchStats
  metrics : Metrics
  hubMetrics : Metrics
  kept : Table Nat

namespace Network

/-- The network that shows a scene. The master has the first queue of the hub, the slave the second,
and each has a task that takes its texts. -/
def stage (master station : String) (b : Backstage) (s : Scene) : Network where
  agenda :=
    { now := s.now
      tasks := ⟨0, .pump 0 .master, none⟩ :: ⟨1, .pump 1 (.slave 0), none⟩ :: s.others
      ready := s.ready
      nextId := s.nextId
      nextOrder := s.nextOrder }
  link := .hub
    { attachments := [⟨master, s.toMaster, false⟩, ⟨station, s.toSlave, false⟩]
      current := (Table.empty.insert master 0).insert station 1
      metrics := b.hubMetrics }
  node := ⟨b.config, s.plugin, b.stats, b.metrics⟩
  slaves := [s.slave]
  client := s.client
  kept := b.kept
  callIds := s.callIds
  freshIds := s.freshIds
  results := s.results

end Network

namespace Scene

/-- The id of the next call that does not choose one. -/
def drawn (s : Scene) : String := s.callIds (s.freshIds + 1)

def engine? (s : Scene) : Caller → Option Engine
  | .client => some s.client.engine
  | .reader r => (s.plugin.reader? r).map (·.engine)
  | .slave j => ([s.slave][j]?).map (·.engine)

/-- The call of a ticket, if it has not ended. -/
def call? (s : Scene) (t : Ticket) : Option Call := (s.engine? t.caller).bind (·.call? t.key)

/-- A response waits in the mailbox of the call. -/
def hasMail (s : Scene) (t : Ticket) : Bool :=
  match t.sendingUntil, s.call? t with
  | none, some c => c.mailbox != .empty
  | _, _ => false

end Scene

/-! ## 2. Who is awake -/

/-- A task joins the queue if it can go on and does not stand there yet. -/
def joined (can : Bool) (id : Nat) (ready : List Nat) : List Nat :=
  if can = true ∧ id ∉ ready then ready ++ [id] else ready

@[simp] theorem joined_false (id : Nat) (ready : List Nat) : joined false id ready = ready := by
  simp [joined]

theorem joined_mem {can : Bool} {id : Nat} {ready : List Nat} (h : id ∈ ready) :
    joined can id ready = ready := by
  simp [joined, h]

theorem joined_new {id : Nat} {ready : List Nat} (h : id ∉ ready) :
    joined true id ready = ready ++ [id] := by
  simp [joined, h]

theorem wakeWhere_eq {J : Type} (can : Task J → Bool) (a : Agenda J) :
    a.wakeWhere can =
      { a with ready := a.tasks.foldl (fun ready t => joined (can t) t.id ready) a.ready } := by
  have hfold : ∀ (ts : List (Task J)) (ready : List Nat),
      ts.foldl (fun a t => if can t then a.wake t.id else a) { a with ready := ready } =
        { a with ready := ts.foldl (fun ready t => joined (can t) t.id ready) ready } := by
    intro ts
    induction ts with
    | nil => intro ready; rfl
    | cons t ts ih =>
      intro ready
      rw [List.foldl_cons, List.foldl_cons, ← ih]
      congr 1
      cases hcan : can t with
      | false => simp
      | true =>
        by_cases hmem : t.id ∈ ready
        · rw [joined_mem hmem, if_pos rfl, Agenda.wake, if_pos hmem]
        · rw [joined_new hmem, if_pos rfl, Agenda.wake, if_neg hmem]
  exact hfold a.tasks a.ready

namespace Scene

/-- What a task waits for has happened. -/
def canGoOn (s : Scene) (t : Task Job) : Bool :=
  match t.job with
  | .call ticket _ => s.hasMail ticket
  | _ => false

/-- All tasks beside the receivers are calls and responses on their way. -/
def Plain (s : Scene) : Prop :=
  ∀ t ∈ s.others, (∃ ticket p, t.job = .call ticket p) ∨ ∃ d target e, t.job = .respond d target e

/-- The queue of tasks before the next turn. -/
def awake (s : Scene) : List Nat :=
  s.others.foldl (fun ready t => joined (s.canGoOn t) t.id ready)
    (joined (!s.toSlave.isEmpty) 1 (joined (!s.toMaster.isEmpty) 0 s.ready))

/-- No task can go on before some time has passed. -/
structure Quiet (s : Scene) : Prop where
  plain : s.Plain
  ready : s.ready = []
  awake : s.awake = []
  later : ∀ t ∈ s.others, ∀ alarm, t.alarm = some alarm → s.now < alarm.due

/-- **Nothing is under way** but texts for the master. -/
structure Calm (s : Scene) : Prop where
  others : s.others = []
  ready : s.ready = []
  toSlave : s.toSlave = []
  /-- the first two ids are those of the receivers -/
  ids : 2 ≤ s.nextId
  results : ∀ e ∈ s.results, e.1 < s.nextId

/-- A bound on the turns at one time. -/
def budget (s : Scene) : Nat := 64 * (s.others.length + s.toMaster.length + s.toSlave.length + 3)

end Scene

namespace Network

section Stage

variable {master station : String} {b : Backstage} {s : Scene}

theorem engine?_stage (caller : Caller) :
    (stage master station b s).engine? caller = s.engine? caller := by
  cases caller <;> rfl

theorem hasMail_stage (t : Ticket) : (stage master station b s).hasMail t = s.hasMail t := by
  unfold hasMail Scene.hasMail
  rw [engine?_stage]
  rfl

theorem budget_stage : (stage master station b s).budget = s.budget := by
  simp [budget, Scene.budget, stage, hub?, Hub.queued, Number.total]
  omega

theorem canGoOn_plain (h : s.Plain) {t : Task Job} (ht : t ∈ s.others) :
    (stage master station b s).canGoOn t = s.canGoOn t := by
  unfold canGoOn Scene.canGoOn
  rcases h t ht with ⟨ticket, p, hjob⟩ | ⟨d, target, e, hjob⟩
  · rw [hjob]
    exact hasMail_stage ticket
  · rw [hjob]

/-- The queue of the hub that a node's texts go to. -/
theorem current_master (hne : master ≠ station) :
    ((Table.empty.insert master 0).insert station 1).get? master = some 0 := by
  rw [Table.get?_insert, if_neg hne, Table.get?_insert, if_pos rfl]

theorem current_station :
    ((Table.empty.insert master 0).insert station 1).get? station = some 1 := by
  rw [Table.get?_insert, if_pos rfl]

theorem canGoOn_master (hne : master ≠ station) :
    (stage master station b s).canGoOn ⟨0, .pump 0 .master, none⟩ = !s.toMaster.isEmpty := by
  simp [canGoOn, stage, hub?, Hub.isFinished, Hub.attachment?, Hub.isCurrent, current_master hne]

theorem canGoOn_slave :
    (stage master station b s).canGoOn ⟨1, .pump 1 (.slave 0), none⟩ = !s.toSlave.isEmpty := by
  simp [canGoOn, stage, hub?, Hub.isFinished, Hub.attachment?, Hub.isCurrent, current_station]

theorem foldl_joined {can can' : Task Job → Bool} {ts : List (Task Job)}
    (h : ∀ t ∈ ts, can t = can' t) (ready : List Nat) :
    ts.foldl (fun ready t => joined (can t) t.id ready) ready =
      ts.foldl (fun ready t => joined (can' t) t.id ready) ready := by
  induction ts generalizing ready with
  | nil => rfl
  | cons t ts ih =>
    rw [List.foldl_cons, List.foldl_cons, h t List.mem_cons_self]
    exact ih (fun u hu => h u (List.mem_cons_of_mem t hu)) _

/-- **Who is awake before the next turn.** -/
theorem awaken_stage (hne : master ≠ station) (h : s.Plain) :
    (stage master station b s).awaken = stage master station b { s with ready := s.awake } := by
  show { stage master station b s with
    agenda := (stage master station b s).agenda.wakeWhere (stage master station b s).canGoOn } = _
  rw [wakeWhere_eq]
  show stage master station b { s with
    ready := s.others.foldl
      (fun ready t => joined ((stage master station b s).canGoOn t) t.id ready)
      (joined ((stage master station b s).canGoOn ⟨1, .pump 1 (.slave 0), none⟩) 1
        (joined ((stage master station b s).canGoOn ⟨0, .pump 0 .master, none⟩) 0 s.ready)) } = _
  rw [canGoOn_master hne, canGoOn_slave, foldl_joined fun t ht => canGoOn_plain h ht]
  rfl

end Stage

end Network

/-! ## 3. From scene to scene -/

/-- **At most `k` turns lead from one scene to another**, whatever the counters say. -/
def Leads (master station : String) (k : Nat) (s t : Scene) : Prop :=
  ∀ b, ∃ b' j, j ≤ k ∧ ∀ i,
    (stage master station b s).turns (i + j) = (stage master station b' t).turns i

section Leads

variable {master station : String} {b : Backstage} {j k : Nat} {s t u : Scene}

theorem Leads.refl (s : Scene) : Leads master station 0 s s :=
  fun b => ⟨b, 0, Nat.le_refl 0, fun _ => rfl⟩

theorem Leads.trans (h : Leads master station j s t) (h' : Leads master station k t u) :
    Leads master station (j + k) s u := by
  intro b
  obtain ⟨b₁, j₁, hj, h₁⟩ := h b
  obtain ⟨b₂, j₂, hk, h₂⟩ := h' b₁
  refine ⟨b₂, j₂ + j₁, by omega, fun i => ?_⟩
  rw [← Nat.add_assoc, h₁, h₂]

theorem Leads.mono (h : Leads master station j s t) (hjk : j ≤ k) : Leads master station k s t := by
  intro b
  obtain ⟨b', i, hi, ht⟩ := h b
  exact ⟨b', i, Nat.le_trans hi hjk, ht⟩

theorem turns_of_pop {n : Network} {id : Nat} {agenda : Agenda Job}
    (h : n.awaken.agenda.pop = some (id, agenda)) (i : Nat) :
    n.turns (i + 1) = turns i ({ n.awaken with agenda := agenda }.turn id) := by
  simp only [turns, h]

theorem turns_of_idle {n : Network} (h : n.awaken = n) (hpop : n.agenda.pop = none)
    (hringing : n.agenda.hasRinging = false) (i : Nat) : n.turns i = n := by
  cases i with
  | zero => rfl
  | succ i => simp [turns, h, hpop, hringing]

/-- The first task in the queue has its turn. -/
theorem leads_turn (hne : master ≠ station) (hplain : s.Plain) {id : Nat} {rest : List Nat}
    (hawake : s.awake = id :: rest)
    (hturn : ∀ b, ∃ b', (stage master station b { s with ready := rest }).turn id =
      stage master station b' t) : Leads master station 1 s t := by
  intro b
  obtain ⟨b', hb'⟩ := hturn b
  have hscene := awaken_stage (b := b) hne hplain
  have hpop : (stage master station b s).awaken.agenda.pop =
      some (id, (stage master station b { s with ready := rest }).agenda) := by
    rw [hscene, hawake]
    rfl
  refine ⟨b', 1, Nat.le_refl 1, fun i => ?_⟩
  rw [turns_of_pop hpop, hscene, ← hb']
  rfl

theorem hasRinging_stage (h : ∀ t ∈ s.others, ∀ alarm, t.alarm = some alarm → s.now < alarm.due) :
    (stage master station b s).agenda.hasRinging = false := by
  have hothers : ∀ t ∈ s.others, (stage master station b s).agenda.isRinging t = false := by
    intro t ht
    unfold Agenda.isRinging
    cases halarm : t.alarm with
    | none => rfl
    | some alarm =>
      have hlater := h t ht alarm halarm
      show decide (alarm.due ≤ s.now) = false
      simp [hlater]
  show (List.any (_ :: _ :: s.others) _) = false
  simpa [Agenda.isRinging] using hothers

theorem turns_quiet (hne : master ≠ station) (h : s.Quiet) (k : Nat) :
    (stage master station b s).turns k = stage master station b s := by
  have hawake : (stage master station b s).awaken = stage master station b s := by
    rw [awaken_stage hne h.plain, h.awake, ← h.ready]
  have hpop : (stage master station b s).agenda.pop = none := by
    show Agenda.pop ⟨_, _, s.ready, _, _⟩ = none
    rw [h.ready]
    rfl
  exact turns_of_idle hawake hpop (hasRinging_stage h.later) k

/-- **A network settles where nobody can go on.** -/
theorem settle_of_leads (hne : master ≠ station) (h : Leads master station k s t) (ht : t.Quiet)
    (hk : k ≤ s.budget) (b : Backstage) :
    ∃ b', (stage master station b s).settle = stage master station b' t := by
  obtain ⟨b', j, hj, hturns⟩ := h b
  refine ⟨b', ?_⟩
  unfold settle
  rw [budget_stage, ← Nat.sub_add_cancel (Nat.le_trans hj hk), hturns, turns_quiet hne ht]

end Leads

/-! ## 4. Results -/

namespace Network

variable {n : Network} {id : Nat}

theorem lookup_append_last {results : List (Nat × Result)} {i : Nat}
    (h : ∀ e ∈ results, e.1 < i) (r : Result) : (results ++ [(i, r)]).lookup i = some r :=
  lookup_append_self (lookup_fresh h) r

theorem results_append {results : List (Nat × Result)} {i k : Nat}
    (h : ∀ e ∈ results, e.1 < i) (hk : i < k) (r : Result) :
    ∀ e ∈ results ++ [(i, r)], e.1 < k := by
  intro e he
  rcases List.mem_append.1 he with he | he
  · exact Nat.lt_trans (h e he) hk
  · rw [List.mem_singleton.1 he]
    exact hk

theorem runTask_of_result (h : (n.result? id).isSome = true) (k : Nat) : n.runTask id k = n := by
  cases k with
  | zero => rfl
  | succ k => simp [runTask, h]

/-- A task that has its result once the network has settled. -/
theorem await_of_result (h : (n.settle.result? id).isSome = true) : n.await id = n.settle :=
  runTask_of_result h _

/-- A task that has its result at the time of the next alarm. -/
theorem await_of_next {due : Nat} (h : n.settle.result? id = none)
    (hdue : n.settle.agenda.nextDue? = some due)
    (hresult : ((n.settle.moveTo due).settle.result? id).isSome = true) :
    n.await id = (n.settle.moveTo due).settle := by
  unfold await runTask
  simp only [h, hdue]
  exact runTask_of_result hresult _

end Network

end CardLink
