import CardLink.Proofs.Network.Bench

/-!
# What is done to a bench from outside

Responses come in, the outbox is connected or disconnected, tasks are given up, calls are started. A
call that is started is over at once or has a task from then on.

* `Network.Opened`: what to start a call makes of a bench, case by case.
* `Tidy.receive`, `setConnected`, `cancel`, `opened`: all of it keeps the invariant.
-/

namespace CardLink

namespace Network

variable {n n' : Network} {latency i : Nat} {t u : Task Job} {c d : Call} {job : Job}

/-! ## 1. Responses, the outbox, tasks given up -/

theorem sound_accept {e : Engine} (h : e.Sound) (r : Envelope) : (e.accept r).2.Sound := by
  rcases e.accept_cases r with ⟨id, key, -, hp, heq⟩ | ⟨-, heq⟩
  · rw [heq]
    exact h.delivering hp r
  · rw [heq]
    exact h

/-- **A response comes in.** -/
theorem Tidy.receive (h : Tidy latency n) (r : Envelope) :
    Tidy latency (n.updateEngine .client fun e => (e.accept r).2) :=
  h.of_calls (Nat.le_refl _) rfl h.results h.link (sound_accept h.sound r)
    fun _ hc => Engine.stays_accept hc r

theorem Linked.setConnected (h : Linked latency n) (up : Bool) :
    ∃ o : Outbox, o.latency = latency ∧ n.setConnected up = { n with link := .outbox o } := by
  obtain ⟨o, hlink, ho⟩ := h
  refine ⟨{ o with connected := up }, ho, ?_⟩
  unfold Network.setConnected updateOutbox
  rw [hlink]

/-- **The outbox is connected or disconnected.** -/
theorem Tidy.setConnected (h : Tidy latency n) (up : Bool) : Tidy latency (n.setConnected up) := by
  obtain ⟨o, ho, heq⟩ := h.link.setConnected up
  rw [heq]
  exact h.of_calls (Nat.le_refl _) rfl h.results ⟨o, rfl, ho⟩ h.sound
    fun c hc => ⟨c, hc, .refl c⟩

/-- To give up a task gives up its call. -/
theorem Tidy.cancel_eq (h : Tidy latency n) (i : Nat) :
    n.agenda.task? i = none ∧ (n.cancel i).2 = n ∨
    ∃ t ∈ n.agenda.tasks, ∃ c ∈ n.client.engine.calls, t.id = i ∧ Serves latency t.job c ∧
      (n.cancel i).2 = (n.updateEngine .client fun e => e.withdrawing c).endTask i := by
  unfold Network.cancel
  cases htask : n.agenda.task? i with
  | none => exact .inl ⟨rfl, rfl⟩
  | some t =>
    obtain ⟨ht, rfl⟩ := Agenda.mem_of_task? htask
    obtain ⟨c, hc, ⟨target, request, hjob⟩, -⟩ := h.served t ht
    refine .inr ⟨t, ht, c, hc, rfl, ⟨target, request, hjob⟩, ?_⟩
    dsimp only
    rw [hjob]
    show (n.updateEngine .client fun _ => n.client.engine.release c.key).endTask t.id = _
    rw [h.sound.release_of_mem hc]
    rfl

/-- **A task is given up.** -/
theorem Tidy.cancel (h : Tidy latency n) (i : Nat) : Tidy latency (n.cancel i).2 := by
  rcases h.cancel_eq i with ⟨-, heq⟩ | ⟨t, ht, c, hc, rfl, hserves, heq⟩
  · rw [heq]
    exact h
  · rw [heq]
    exact h.ended ht hserves rfl rfl rfl rfl h.link (h.sound.withdrawing hc)
      (fun d hd hkey => Engine.stays_withdrawing hd hkey) h.results

/-! ## 2. Calls -/

/-- A call that was admitted a moment ago. -/
def newcomer (n : Network) (x action : String) (patience : Nat) : Call :=
  ⟨n.client.engine.nextKey, x, action, patience, n.now, .sending, .empty⟩

theorem newcomer_mem (n : Network) (x action : String) (patience : Nat) :
    n.newcomer x action patience ∈ (n.client.engine.admitting x action patience n.now).calls :=
  List.mem_append_right _ (List.mem_singleton_self _)

/-- **What to start a call makes of a bench**: it is over at once, or it has a task. -/
inductive Opened (latency : Nat) (n : Network) (x action : String) (patience : Nat)
    (n' : Network) : Prop where
  | refused (reason : CallError)
      (hreason : (n.client.engine.start x action patience n.now).1 = .error reason ∨
        ∃ o failure, n.link = .outbox o ∧ o.begin = .error failure ∧ reason = .transport failure)
      (hagenda : n'.agenda = { n.agenda with nextId := n.agenda.nextId + 1 })
      (hsound : n'.client.engine.Sound)
      (hcalls : n'.client.engine.calls = n.client.engine.calls)
      (hresults : n'.results = n.results ++ [(n.agenda.nextId, .text (.error reason))])
      (hlink : Linked latency n')
  | begun (o : Outbox) (ho : n.link = .outbox o) (hbegin : o.begin = .ok ()) (job : Job)
      (hserves : Serves latency job ((n.newcomer x action patience).lookedAt latency n.now))
      (hagenda : n'.agenda = (n.agenda.spawn job).2)
      (hfree : n.client.engine.pending.get? x = none)
      (hengine : n'.client.engine =
        (n.client.engine.admitting x action patience n.now).lookedAt latency n.now
          (n.newcomer x action patience))
      (hresults : n'.results = n.results) (hlink : Linked latency n')

theorem Linked.beginSending (h : Linked latency n) (target : String) (e : Envelope) :
    (∃ o failure, n.link = .outbox o ∧ o.begin = .error failure ∧
      n.beginSending target e = (.error failure, n)) ∨
    ∃ o o' : Outbox, n.link = .outbox o ∧ o.begin = .ok () ∧ o'.latency = latency ∧
      n.beginSending target e =
        (.ok (if latency = 0 then none else some (n.now + latency)),
          { n with link := .outbox o' }) := by
  obtain ⟨o, hlink, rfl⟩ := h
  unfold Network.beginSending
  rw [hlink]
  dsimp only
  cases hbegin : o.begin with
  | error failure => exact .inl ⟨o, failure, rfl, hbegin, rfl⟩
  | ok u =>
    refine .inr ⟨o, ?_⟩
    by_cases hinstant : o.latency = 0
    · exact ⟨o.record target e, rfl, hbegin, rfl, by simp [hinstant]⟩
    · refine ⟨o, rfl, hbegin, rfl, ?_⟩
      rw [← hlink]
      simp [hinstant]

/-- **To start a call on the bare engine.** -/
theorem opened_client (hlink : Linked latency n) (h : n.client.engine.Sound)
    (action body : String) (route : Route) (id : Option String) (patience : Nat) :
    (n.launch .client action body route id patience .text).1 = n.agenda.nextId ∧
      Opened latency n (n.chooseId id).1 action patience
        (n.launch .client action body route id patience .text).2 := by
  obtain ⟨made, hchosen⟩ : ∃ k, n.chooseId id = ((n.chooseId id).1, { n with freshIds := k }) := by
    cases id with
    | none => exact ⟨_, rfl⟩
    | some id => exact ⟨n.freshIds, rfl⟩
  generalize (n.chooseId id).1 = x at hchosen ⊢
  unfold launch start
  rw [hchosen]
  dsimp only
  have hnow : ({ n with freshIds := made } : Network).now = n.now := rfl
  dsimp only [engine?]
  rw [hnow]
  rcases n.client.engine.start_cases x action patience n.now with
    ⟨-, hstart⟩ | ⟨-, -, hstart⟩ | ⟨-, hfree, hstart⟩
  · rw [hstart]
    exact ⟨rfl, .refused _ (.inl (by rw [hstart])) rfl h rfl rfl hlink⟩
  · rw [hstart]
    exact ⟨rfl, .refused _ (.inl (by rw [hstart])) rfl h rfl rfl hlink⟩
  · rw [hstart]
    dsimp only
    have hadmitted : Linked latency (({ n with freshIds := made } : Network).updateEngine .client
        fun _ => n.client.engine.admitting x action patience n.now) := hlink
    have hsound := h.admitting hfree action patience n.now
    have hmem := newcomer_mem n x action patience
    have hrelease : (n.client.engine.admitting x action patience n.now).release
        n.client.engine.nextKey = _ := hsound.release_of_mem hmem
    rcases hadmitted.beginSending route.target (.request action body route x) with
      ⟨o, failure, ho, hbegin, hsend⟩ | ⟨o, o', ho, hbegin, ho', hsend⟩
    · rw [hsend]
      refine ⟨rfl, .refused _ (.inr ⟨o, failure, ho, hbegin, rfl⟩) rfl ?_ ?_ rfl hlink⟩
      · show ((n.client.engine.admitting x action patience n.now).release _).Sound
        rw [hrelease]
        exact hsound.withdrawing hmem
      · show ((n.client.engine.admitting x action patience n.now).release _).calls = _
        rw [hrelease]
        exact h.withdrawing_admitting x action patience n.now
    · rw [hsend]
      have hlinked : Linked latency { n with link := .outbox o' } := ⟨o', rfl, ho'⟩
      by_cases hinstant : latency = 0
      · have hsent : (n.newcomer x action patience).phase = .sending ∧ n.now + latency ≤ n.now :=
          ⟨rfl, Nat.le_of_eq (by rw [hinstant, Nat.add_zero])⟩
        rw [if_pos hinstant]
        refine ⟨rfl, .begun o ho hbegin _ ⟨route.target, .request action body route x, ?_⟩ rfl hfree
          (Eq.symm (if_pos hsent)) rfl hlinked⟩
        rw [ticket_lookedAt_of_sent hsent]
        rfl
      · have hunsent : ¬ ((n.newcomer x action patience).phase = .sending ∧
            n.now + latency ≤ n.now) := fun hsent => hinstant (by have := hsent.2; omega)
        rw [if_neg hinstant]
        refine ⟨rfl, .begun o ho hbegin _ ⟨route.target, .request action body route x, ?_⟩ rfl hfree
          (Eq.symm (if_neg hunsent)) rfl hlinked⟩
        have hlooked : (n.newcomer x action patience).lookedAt latency n.now =
            n.newcomer x action patience := if_neg hunsent
        rw [hlooked]
        rfl

theorem onTime_newcomer (latency : Nat) (n : Network) (x action : String) (patience : Nat) :
    (n.newcomer x action patience).OnTime latency n.now :=
  ⟨.inl rfl, Nat.le_add_right _ _⟩

/-- A call that was over at once has left its number. -/
theorem Tidy.refused {reason : CallError} (h : Tidy latency n)
    (hagenda : n'.agenda = { n.agenda with nextId := n.agenda.nextId + 1 })
    (hsound : n'.client.engine.Sound) (hcalls : n'.client.engine.calls = n.client.engine.calls)
    (hresults : n'.results = n.results ++ [(n.agenda.nextId, .text (.error reason))])
    (hlink : Linked latency n') : Tidy latency n' := by
  refine h.of_calls (Nat.le_succ _) hagenda (fun r hr => ?_) hlink hsound
    fun c hc => ⟨c, by rwa [hcalls], .refl c⟩
  rw [hresults] at hr
  rcases List.mem_append.1 hr with hr | hr
  · exact Nat.lt_succ_of_lt (h.results r hr)
  · rw [List.mem_singleton.1 hr]
    exact Nat.lt_succ_self _

/-- A call that is under way has a new task. -/
theorem Tidy.begun {x action : String} {patience : Nat} (h : Tidy latency n)
    (hserves : Serves latency job ((n.newcomer x action patience).lookedAt latency n.now))
    (hagenda : n'.agenda = (n.agenda.spawn job).2) (hfree : n.client.engine.pending.get? x = none)
    (hengine : n'.client.engine =
      (n.client.engine.admitting x action patience n.now).lookedAt latency n.now
        (n.newcomer x action patience))
    (hresults : n'.results = n.results) (hlink : Linked latency n') : Tidy latency n' := by
  have hadmitted := h.sound.admitting hfree action patience n.now
  have hmem := newcomer_mem n x action patience
  have hfresh : ∀ d ∈ n.client.engine.calls, d.key ≠ (n.newcomer x action patience).key :=
    fun d hd => Nat.ne_of_lt (h.sound.fresh d hd)
  refine h.spawned hserves hagenda hresults hlink ?_ ?_
    (onTime_newcomer latency n x action patience).lookedAt (fun d hd => ?_)
    fun d hd => ⟨d, ?_, .refl d⟩
  · rw [hengine]
    exact hadmitted.lookedAt latency n.now _
  · rw [hengine]
    exact hadmitted.lookedAt_mem hmem latency n.now
  · rw [Call.key_lookedAt]
    exact hfresh d hd
  · rw [hengine, hadmitted.mem_lookedAt hmem]
    exact .inr ⟨List.mem_append_left _ hd, hfresh d hd⟩

/-- **A call is started.** -/
theorem Tidy.opened {x action : String} {patience : Nat} (h : Tidy latency n)
    (hopened : Opened latency n x action patience n') : Tidy latency n' := by
  cases hopened with
  | refused reason hreason hagenda hsound hcalls hresults hlink =>
    exact h.refused hagenda hsound hcalls hresults hlink
  | begun o ho hbegin job hserves hagenda hfree hengine hresults hlink =>
    exact h.begun hserves hagenda hfree hengine hresults hlink

end Network

end CardLink
