import Mathlib.Algebra.Order.BigOperators.Group.List
import Mathlib.Algebra.Order.Ring.Nat
import Mathlib.Logic.Relation
import CardLink.Proofs.Network.Bench

/-!
# The tasks of a bench come to rest

Each turn of a bench ends a call or lets it wait for a later time, so at each time there are only
finitely many. The clock moves only when all tasks wait, and never past the time that one of them
waits for.

* `Network.Quiet`: nobody can go on at the present time.
* `Network.Tick`: what happens by itself, one thing at a time. `Network.Ticks`: any number of these.
* `Network.load`: a measure that every turn and every ringing makes smaller.
* **`Tidy.settle`**, **`Tidy.runUntil`**: a bench settles by such ticks, and then it is quiet; so it
  does while time passes.
-/

namespace CardLink.Network

variable {n n' m : Network} {latency i k time : Nat} {t u : Task Job} {c d : Call} {rest : List Nat}

/-! ## 1. Ticks -/

/-- **Nobody can go on** before some time has passed. -/
structure Quiet (n : Network) : Prop where
  ready : n.agenda.ready = []
  mail : ∀ t ∈ n.agenda.tasks, n.canGoOn t = false
  alarms : ∀ t ∈ n.agenda.tasks, ∀ alarm, t.alarm = some alarm → n.now < alarm.due

/-- **What happens by itself.** -/
inductive Tick (n : Network) : Network → Prop where
  | awaken : Tick n n.awaken
  | turn (i : Nat) (rest : List Nat) (hready : n.agenda.ready = i :: rest) :
      Tick n ((n.popped rest).turn i)
  | ring : Tick n (n.mapAgenda (·.ring))
  | clock (time : Nat) (hquiet : Quiet n)
      (hdue : ∀ t ∈ n.agenda.tasks, ∀ alarm, t.alarm = some alarm → time ≤ alarm.due) :
      Tick n (n.mapAgenda (·.moveTo time))

/-- All that happens by itself, for some time. -/
def Ticks : Network → Network → Prop := Relation.ReflTransGen Tick

/-- A task that is not in the queue and has no mail waits for the time at which its call is due. -/
theorem Tidy.alarm_of_quiet (h : Tidy latency n) (hquiet : Quiet n) (ht : t ∈ n.agenda.tasks) :
    ∃ c ∈ n.client.engine.calls, Serves latency t.job c ∧ c.OnTime latency n.now ∧
      ∃ order, t.alarm = some ⟨c.due latency, order⟩ := by
  obtain ⟨c, hc, hserves, htime, hheeds⟩ := h.served t ht
  refine ⟨c, hc, hserves, htime, ?_⟩
  rcases hheeds with hin | hmailed | halarm
  · rw [hquiet.ready] at hin
    exact absurd hin List.not_mem_nil
  · have hmail := hquiet.mail t ht
    rw [(canGoOn_iff h.sound hc hserves).2 hmailed] at hmail
    cases hmail
  · exact halarm

/-- **The clock moves**, and no call is looked at too late. -/
theorem Tidy.clock (h : Tidy latency n) (hquiet : Quiet n)
    (hdue : ∀ t ∈ n.agenda.tasks, ∀ alarm, t.alarm = some alarm → time ≤ alarm.due) :
    Tidy latency (n.mapAgenda (·.moveTo time)) where
  link := h.link
  sound := h.sound
  ids := h.ids
  fresh := h.fresh
  queue := h.queue
  queued := h.queued
  served t ht := by
    obtain ⟨c, hc, hserves, htime, order, halarm⟩ := h.alarm_of_quiet hquiet ht
    exact ⟨c, hc, hserves,
      htime.later (Nat.le_max_left _ _) (Nat.max_le.2 ⟨htime.due, hdue t ht _ halarm⟩),
      .inr (.inr ⟨order, halarm⟩)⟩
  apart := h.apart
  results := h.results

theorem Tidy.tick (h : Tidy latency n) (ht : Tick n n') : Tidy latency n' := by
  cases ht with
  | awaken => exact h.awaken
  | turn i rest hready => exact h.turn hready
  | ring => exact h.ring
  | clock time hquiet hdue => exact h.clock hquiet hdue

theorem Ticks.tidy (h : Ticks n n') (ht : Tidy latency n) : Tidy latency n' := by
  induction h with
  | refl => exact ht
  | tail _ htick ih => exact ih.tick htick

/-- **What every tick keeps** is kept by any number of them. -/
theorem Ticks.keep {P : Network → Prop} (h : Ticks n n') (ht : Tidy latency n) (h0 : P n)
    (hstep : ∀ m m', Tidy latency m → P m → Tick m m' → P m') : P n' := by
  induction h with
  | refl => exact h0
  | tail hticks htick ih => exact hstep _ _ (Ticks.tidy hticks ht) ih htick

/-! ## 2. A measure -/

/-- A sum over a part of a list, with smaller summands. -/
theorem sum_filter_lt {α : Type} {f g : α → Nat} {p : α → Bool} {xs : List α}
    (hle : ∀ x ∈ xs, p x = true → f x ≤ g x) (hlt : ∃ x ∈ xs, p x = false ∧ 0 < g x) :
    ((xs.filter p).map f).sum < (xs.map g).sum := by
  have hsum : ((xs.filter p).map f).sum = (xs.map fun x => if p x then f x else 0).sum := by
    rw [List.sum_map_ite]
    simp
  rw [hsum]
  obtain ⟨x, hx, hpx, hpos⟩ := hlt
  refine List.sum_lt_sum _ _ (fun y hy => ?_) ⟨x, hx, by simpa [hpx] using hpos⟩
  split
  · exact hle y hy ‹_›
  · exact Nat.zero_le _

/-- How many ticks a task may still take at the present time, roughly. -/
def weight (n : Network) (t : Task Job) : Nat :=
  if n.canGoOn t then 1
  else if t.id ∈ n.agenda.ready then 3
  else if n.agenda.isRinging t then 4
  else 2

/-- A bound on the turns and ringings that can follow at the present time. -/
def load (n : Network) : Nat := (n.agenda.tasks.map n.weight).sum

theorem weight_pos (n : Network) (t : Task Job) : 0 < n.weight t := by
  unfold weight
  grind

theorem load_le (n : Network) : n.load ≤ 4 * n.agenda.tasks.length := by
  have hle : ∀ w ∈ n.agenda.tasks.map n.weight, w ≤ 4 := by
    intro w hw
    obtain ⟨t, -, rfl⟩ := List.mem_map.1 hw
    unfold weight
    grind
  have hsum := List.sum_le_card_nsmul _ 4 hle
  rw [List.length_map] at hsum
  simpa [load, Nat.mul_comm] using hsum

/-- A task whose place in the queue stays, and whose mail does. -/
theorem weight_le (hmail : n.canGoOn t = true → n'.canGoOn t = true)
    (hready : t.id ∈ n'.agenda.ready ↔ t.id ∈ n.agenda.ready) (hnow : n'.now = n.now) :
    n'.weight t ≤ n.weight t := by
  have hringing : n'.agenda.isRinging t = n.agenda.isRinging t := by
    unfold Agenda.isRinging
    have hnow' : n'.agenda.now = n.agenda.now := hnow
    rw [hnow']
  unfold weight
  rw [hringing]
  grind

/-- A task whose call stays. -/
theorem weight_of_stays (h : Tidy latency n) (hsound : n'.client.engine.Sound)
    (ht : t ∈ n.agenda.tasks)
    (hcalls : ∀ c ∈ n.client.engine.calls, Serves latency t.job c →
      ∃ c' ∈ n'.client.engine.calls, Engine.Stays c c')
    (hready : t.id ∈ n'.agenda.ready ↔ t.id ∈ n.agenda.ready) (hnow : n'.now = n.now) :
    n'.weight t ≤ n.weight t := by
  obtain ⟨c, hc, hserves, -⟩ := h.served t ht
  obtain ⟨c', hc', hstays⟩ := hcalls c hc hserves
  refine weight_le (fun hcan => ?_) hready hnow
  have hmailed := (canGoOn_iff h.sound hc hserves).1 hcan
  rw [canGoOn_iff hsound hc' (hserves.stays hstays)]
  obtain ⟨m, rfl, hm⟩ := hstays
  exact ⟨hmailed.1, hm hmailed.2⟩

theorem canGoOn_mapAgenda (f : Agenda Job → Agenda Job) (t : Task Job) :
    (n.mapAgenda f).canGoOn t = n.canGoOn t := by
  unfold canGoOn
  rfl

theorem load_awaken (h : Tidy latency n) : n.awaken.load ≤ n.load := by
  unfold load
  rw [show n.awaken.agenda.tasks = n.agenda.tasks from Agenda.tasks_wakeWhere _]
  refine List.sum_le_sum fun t ht => ?_
  have hcan : n.awaken.canGoOn t = n.canGoOn t := canGoOn_mapAgenda _ t
  by_cases hmail : n.canGoOn t = true
  · unfold weight
    rw [if_pos hmail, if_pos (hcan.trans hmail)]
  · refine weight_le (fun hmail' => absurd hmail' hmail) ?_ (Agenda.now_wakeWhere _)
    refine Agenda.mem_ready_wakeWhere.trans (or_iff_left ?_)
    rintro ⟨u, hu, hmailed, hid⟩
    rw [h.eq_of_id hu ht hid] at hmailed
    exact hmail hmailed

/-- **Alarms that ring** bring the tasks nearer to their turns. -/
theorem load_ring (h : Tidy latency n) (hready : n.agenda.ready = [])
    (hmail : ∀ t ∈ n.agenda.tasks, n.canGoOn t = false) (hringing : n.agenda.hasRinging = true) :
    (n.mapAgenda (·.ring)).load < n.load := by
  have hweight : ∀ t ∈ n.agenda.tasks, n.weight t = if n.agenda.isRinging t then 4 else 2 := by
    intro t ht
    unfold weight
    simp [hmail t ht, hready]
  have hafter : ∀ t ∈ n.agenda.tasks, (n.mapAgenda (·.ring)).weight (n.agenda.rung t) =
      if n.agenda.isRinging t then 3 else 2 := by
    intro t ht
    have hcan : (n.mapAgenda (·.ring)).canGoOn (n.agenda.rung t) = false := by
      refine (canGoOn_mapAgenda _ _).trans (Eq.trans ?_ (hmail t ht))
      unfold canGoOn
      rw [Agenda.job_rung]
    have hin : (n.agenda.rung t).id ∈ n.agenda.ring.ready ↔ n.agenda.isRinging t = true := by
      rw [Agenda.mem_ready_ring, hready, Agenda.id_rung]
      constructor
      · rintro (hin | ⟨u, hu, hrings, hid⟩)
        · exact absurd hin List.not_mem_nil
        · rwa [← h.eq_of_id hu ht hid]
      · exact fun hrings => .inr ⟨t, ht, hrings, rfl⟩
    have hquiet : (n.agenda.ring).isRinging (n.agenda.rung t) = false := by
      unfold Agenda.rung
      split
      · rfl
      · rename_i hrings
        unfold Agenda.isRinging at hrings ⊢
        rw [Agenda.now_ring]
        simpa using hrings
    unfold weight
    rw [hcan]
    show (if false = true then 1 else if (n.agenda.rung t).id ∈ n.agenda.ring.ready then 3
      else if (n.agenda.ring).isRinging (n.agenda.rung t) = true then 4 else 2) = _
    rw [hquiet]
    simp only [hin, Bool.false_eq_true, if_false]
  unfold load
  show ((n.agenda.ring).tasks.map _).sum < _
  rw [Agenda.tasks_ring, List.map_map]
  obtain ⟨t, ht, hrings⟩ := List.any_eq_true.1 hringing
  refine List.sum_lt_sum _ _ (fun u hu => ?_) ⟨t, ht, ?_⟩
  · rw [Function.comp_apply, hafter u hu, hweight u hu]
    grind
  · rw [Function.comp_apply, hafter t ht, hweight t ht, if_pos hrings, if_pos hrings]
    decide

/-- A call that is to be looked at again has no mail yet. -/
theorem weight_of_unended (h : Tidy latency n) (hc : c ∈ n.client.engine.calls)
    (hserves : Serves latency t.job c) (htime : c.OnTime latency n.now)
    (hin : t.id ∈ n.agenda.ready)
    (hending : (c.lookedAt latency n.now).ending? n.now = none) : n.weight t = 3 := by
  have hmail : ¬ n.canGoOn t = true := by
    intro hcan
    have hmailed := (canGoOn_iff h.sound hc hserves).1 hcan
    have hlooked : c.lookedAt latency n.now = c := if_neg fun hsent => hmailed.1 hsent.1
    have hunended := (htime.unended hending).2
    rw [hlooked] at hunended
    exact hunended hmailed
  unfold weight
  rw [if_neg hmail, if_pos hin]

/-- **A turn** ends a task or lets it wait for a later time. -/
theorem load_turn (h : Tidy latency n) (hready : n.agenda.ready = i :: rest) :
    ((n.popped rest).turn i).load < n.load := by
  have hqueue : (i :: rest).Nodup := hready ▸ h.queue
  obtain ⟨t, ht, c, hc, rfl, hserves, htime, htends⟩ := h.tends hready
  have htidy := h.turn hready
  generalize (n.popped rest).turn t.id = n' at htends htidy ⊢
  have hin : t.id ∈ n.agenda.ready := by
    rw [hready]
    exact List.mem_cons_self
  have hlooked : ∀ d ∈ n.client.engine.calls, d.key ≠ c.key →
      d ∈ (n.client.engine.lookedAt latency n.now c).calls :=
    fun d hd hkey => (h.sound.mem_lookedAt hc).2 (.inr ⟨hd, hkey⟩)
  have hnow := htends.now
  cases htends with
  | waits hending job order next hjob hagenda hengine hresults hlink =>
    have hcalls : n'.client.engine.calls = (n.client.engine.lookedAt latency n.now c).calls :=
      congrArg Engine.calls hengine
    have hbefore := weight_of_unended h hc hserves htime hin hending
    have hafter : n'.weight
        ⟨t.id, job, some ⟨(c.lookedAt latency n.now).due latency, order⟩⟩ = 2 := by
      obtain ⟨hlater, hmail⟩ := htime.unended hending
      have hmem : c.lookedAt latency n.now ∈ n'.client.engine.calls := by
        rw [hcalls]
        exact h.sound.lookedAt_mem hc latency n.now
      unfold weight
      rw [if_neg fun hcan => hmail ((canGoOn_iff htidy.sound hmem hjob).1 hcan), hagenda,
        if_neg (List.nodup_cons.1 hqueue).1, if_neg]
      rw [Agenda.isRinging_iff]
      rintro ⟨alarm, halarm, hdue⟩
      obtain rfl := Option.some.inj halarm
      exact Nat.not_lt.2 hdue hlater
    unfold load
    rw [hagenda, List.map_map]
    refine List.sum_lt_sum _ _ (fun u hu => ?_) ⟨t, ht, ?_⟩
    · rw [Function.comp_apply]
      by_cases hid : u.id = t.id
      · obtain rfl := h.eq_of_id hu ht hid
        rw [if_pos rfl, hafter, hbefore]
        decide
      · rw [if_neg hid]
        refine weight_of_stays h htidy.sound hu (fun d hd hud => ⟨d, ?_, .refl d⟩) ?_ hnow
        · rw [hcalls]
          exact hlooked d hd fun hkey => hid (h.apart u hu t ht d c hud hserves hkey)
        · rw [hagenda, hready]
          exact (List.mem_cons.trans (or_iff_right hid)).symm
    · rw [Function.comp_apply, if_pos rfl, hafter, hbefore]
      decide
  | ends ending hending hagenda hengine hresults hlink =>
    unfold load
    rw [hagenda]
    refine sum_filter_lt (fun u hu hne => ?_) ⟨t, ht, by simp, weight_pos n t⟩
    have hne' : u.id ≠ t.id := by simpa using hne
    refine weight_of_stays h htidy.sound hu (fun d hd hud => ?_) ?_ hnow
    · rw [hengine]
      have hkey : d.key ≠ c.key := fun hkey => hne' (h.apart u hu t ht d c hud hserves hkey)
      exact Engine.stays_withdrawing (hlooked d hd hkey) (by rwa [Call.key_lookedAt])
    · rw [hagenda, hready]
      show u.id ∈ rest.filter (· != t.id) ↔ _
      simp [hne']

/-! ## 3. A bench settles -/

theorem now_turn (h : Tidy latency n) (hready : n.agenda.ready = i :: rest) :
    ((n.popped rest).turn i).now = n.now := by
  obtain ⟨t, -, c, -, -, -, -, htends⟩ := h.tends hready
  exact htends.now

theorem hasRinging_eq_false_iff (a : Agenda Job) : a.hasRinging = false ↔
    ∀ t ∈ a.tasks, ∀ alarm, t.alarm = some alarm → a.now < alarm.due := by
  unfold Agenda.hasRinging
  rw [List.any_eq_false]
  refine forall₂_congr fun t _ => ?_
  rw [Agenda.isRinging_iff]
  grind

/-- A bench has come to rest by itself. -/
structure Rests (n n' : Network) : Prop where
  ticks : Ticks n n'
  quiet : Quiet n'
  now : n'.now = n.now

/-- **The tasks take turns until nobody can go on.** -/
theorem Tidy.turns (h : Tidy latency n) (hload : n.load ≤ k) : Rests n (n.turns k) := by
  induction k generalizing n with
  | zero =>
    -- without tasks there is nothing to do
    have hnone : ∀ t, t ∉ n.agenda.tasks := by
      intro t ht
      have hle := List.single_le_sum (fun _ _ => Nat.zero_le _) _
        (List.mem_map_of_mem (f := n.weight) ht)
      have hpos := weight_pos n t
      unfold load at hload
      omega
    refine ⟨.refl, ⟨?_, fun t ht => absurd ht (hnone t), fun t ht => absurd ht (hnone t)⟩, rfl⟩
    refine List.eq_nil_iff_forall_not_mem.2 fun i hi => ?_
    obtain ⟨t, ht, -⟩ := h.queued i hi
    exact hnone t ht
  | succ k ih =>
    have hawake := h.awaken
    have hle := load_awaken h
    have hticks : Ticks n n.awaken := .single .awaken
    have hnow : n.awaken.now = n.now := Agenda.now_wakeWhere _
    unfold Network.turns
    dsimp only
    cases hpop : n.awaken.agenda.pop with
    | some popped =>
      obtain ⟨i, agenda⟩ := popped
      obtain ⟨rest, hready, rfl⟩ := Agenda.pop_eq_some hpop
      have hrests := ih (hawake.turn hready) (by have := load_turn hawake hready; omega)
      exact ⟨hticks.trans (.head (.turn i rest hready) hrests.ticks), hrests.quiet,
        hrests.now.trans ((now_turn hawake hready).trans hnow)⟩
    | none =>
      have hready := Agenda.pop_eq_none hpop
      have hmail : ∀ t ∈ n.awaken.agenda.tasks, n.awaken.canGoOn t = false := by
        intro t ht
        refine Bool.eq_false_iff.2 fun hcan => ?_
        have hin : t.id ∈ n.awaken.agenda.ready :=
          Agenda.mem_ready_wakeWhere.2 (.inr ⟨t, Agenda.tasks_wakeWhere _ ▸ ht, hcan, rfl⟩)
        rw [hready] at hin
        exact absurd hin List.not_mem_nil
      dsimp only
      cases hringing : n.awaken.agenda.hasRinging with
      | true =>
        have hrests := ih hawake.ring (by have := load_ring hawake hready hmail hringing; omega)
        exact ⟨hticks.trans (.head .ring hrests.ticks), hrests.quiet,
          hrests.now.trans (Eq.trans Agenda.now_ring hnow)⟩
      | false =>
        exact ⟨hticks, ⟨hready, hmail, (hasRinging_eq_false_iff _).1 hringing⟩, hnow⟩

/-- **A bench settles**: nothing is left to do at the present time. -/
theorem Tidy.settle (h : Tidy latency n) : Rests n n.settle := by
  have hload := load_le n
  refine h.turns (Nat.le_trans hload ?_)
  unfold budget
  omega

/-! ## 4. Time passes -/

/-- A bench has come to rest at a later time. -/
structure Passes (n : Network) (time : Nat) (n' : Network) : Prop where
  ticks : Ticks n n'
  quiet : Quiet n'
  now : n'.now = time

/-- The clock moves to a time that no task waits beyond, and all happens that is due then. -/
theorem Tidy.move (h : Tidy latency n) (hquiet : Quiet n)
    (hdue : ∀ t ∈ n.agenda.tasks, ∀ alarm, t.alarm = some alarm → time ≤ alarm.due) :
    Passes n (max n.now time) (n.moveTo time).settle := by
  have hmoved := h.clock hquiet hdue
  have hrests := hmoved.ring.settle
  refine ⟨.head (.clock time hquiet hdue) (.head .ring hrests.ticks), hrests.quiet, ?_⟩
  exact hrests.now.trans Agenda.now_ring

/-- The next alarm is one that is set, and none is set for an earlier time. -/
theorem nextDue?_eq_some {a : Agenda Job} {due : Nat} (h : a.nextDue? = some due) :
    (∃ t ∈ a.tasks, ∃ alarm, t.alarm = some alarm ∧ alarm.due = due) ∧
      ∀ t ∈ a.tasks, ∀ alarm, t.alarm = some alarm → due ≤ alarm.due := by
  obtain ⟨hmem, hleast⟩ := List.min?_eq_some_iff.1 h
  constructor
  · obtain ⟨alarm, halarm, hdue⟩ := List.mem_map.1 hmem
    obtain ⟨t, ht, hset⟩ := List.mem_filterMap.1 halarm
    exact ⟨t, ht, alarm, hset, hdue⟩
  · intro t ht alarm hset
    exact hleast _ (List.mem_map_of_mem (List.mem_filterMap.2 ⟨t, ht, hset⟩))

theorem nextDue?_eq_none {a : Agenda Job} (h : a.nextDue? = none) (ht : t ∈ a.tasks) :
    t.alarm = none := by
  have hnil := List.map_eq_nil_iff.1 (List.min?_eq_none_iff.1 h)
  exact List.filterMap_eq_nil_iff.1 hnil t ht

/-- **From alarm to alarm**: all happens that is due up to a time, and nothing else is. -/
theorem Tidy.runAlarms (h : Tidy latency n) (hquiet : Quiet n) (hk : time - n.now < k) :
    ∃ later, Passes n later (n.runAlarms time k) ∧ n.now ≤ later ∧ later ≤ max n.now time ∧
      ∀ t ∈ (n.runAlarms time k).agenda.tasks, ∀ alarm, t.alarm = some alarm →
        time < alarm.due := by
  induction k generalizing n with
  | zero => exact absurd hk (Nat.not_lt_zero _)
  | succ k ih =>
    unfold Network.runAlarms
    cases hnext : n.agenda.nextDue? with
    | none =>
      refine ⟨n.now, ⟨.refl, hquiet, rfl⟩, Nat.le_refl _, Nat.le_max_left _ _,
        fun t ht alarm halarm => ?_⟩
      rw [nextDue?_eq_none hnext ht] at halarm
      cases halarm
    | some due =>
      obtain ⟨⟨t, ht, alarm, halarm, rfl⟩, hleast⟩ := nextDue?_eq_some hnext
      have hsoon := hquiet.alarms t ht alarm halarm
      dsimp only
      by_cases hdue : alarm.due ≤ time
      · rw [if_pos hdue]
        have hmoved := h.move hquiet hleast
        have hnow : (n.moveTo alarm.due).settle.now = alarm.due := by
          rw [hmoved.now, Nat.max_eq_right (Nat.le_of_lt hsoon)]
        obtain ⟨later, hpasses, hfrom, hto, hrest⟩ :=
          ih (hmoved.ticks.tidy h) hmoved.quiet (by rw [hnow]; omega)
        refine ⟨later, ⟨hmoved.ticks.trans hpasses.ticks, hpasses.quiet, hpasses.now⟩, ?_, ?_,
          hrest⟩
        · omega
        · omega
      · rw [if_neg hdue]
        refine ⟨n.now, ⟨.refl, hquiet, rfl⟩, Nat.le_refl _, Nat.le_max_left _ _,
          fun u hu alarm' halarm' => ?_⟩
        exact Nat.lt_of_lt_of_le (Nat.lt_of_not_le hdue) (hleast u hu alarm' halarm')

/-- **Time passes on a bench.** -/
theorem Tidy.runUntil (h : Tidy latency n) (time : Nat) :
    Passes n (max n.now time) (n.runUntil time) := by
  have hsettled := h.settle
  have htidy := hsettled.ticks.tidy h
  obtain ⟨later, hpasses, hfrom, hto, hrest⟩ :=
    htidy.runAlarms hsettled.quiet (by rw [hsettled.now]; exact Nat.lt_succ_self (time - n.now))
  have hmoved := (hpasses.ticks.tidy htidy).move hpasses.quiet
    fun t ht alarm halarm => Nat.le_of_lt (hrest t ht alarm halarm)
  refine ⟨hsettled.ticks.trans (hpasses.ticks.trans hmoved.ticks), hmoved.quiet, ?_⟩
  have hnow := hmoved.now
  rw [hpasses.now] at hnow
  rw [hsettled.now] at hfrom hto
  unfold Network.runUntil
  rw [hnow]
  omega

end CardLink.Network
