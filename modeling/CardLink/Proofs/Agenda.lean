import Mathlib.Data.List.Nodup
import CardLink.Agenda

/-!
# What an operation on an agenda changes

An agenda is read by task: which task has an id, and who stands in the queue. Each operation changes
this for one task or, when alarms ring or tasks are woken, in the same way for all.

* `Agenda.task?_update`, `task?_remove`, `task?_spawn`, …: the tasks.
* `Agenda.job?`, with one lemma for each operation: what a task is at.
* `Agenda.mem_ready_wakeWhere`, `mem_ready_ring`, …: the queue.
-/

namespace CardLink.Agenda

variable {J : Type} {a : Agenda J} {t : Task J} {id k : Nat}

/-! ## 1. The tasks -/

theorem task?_of_tasks {b : Agenda J} (h : b.tasks = a.tasks) (k : Nat) :
    b.task? k = a.task? k := by
  unfold task?
  rw [h]

theorem mem_of_task? (h : a.task? k = some t) : t ∈ a.tasks ∧ t.id = k :=
  ⟨List.mem_of_find?_eq_some h, by simpa using List.find?_some h⟩

/-- If no two tasks have one id, a task is found by its id. -/
theorem task?_of_mem (hids : (a.tasks.map (·.id)).Nodup) (ht : t ∈ a.tasks) :
    a.task? t.id = some t := by
  unfold task?
  cases hfound : a.tasks.find? (·.id == t.id) with
  | none =>
    have hno := List.find?_eq_none.1 hfound t ht
    simp at hno
  | some u =>
    have hid : u.id = t.id := by simpa using List.find?_some hfound
    rw [List.inj_on_of_nodup_map hids (List.mem_of_find?_eq_some hfound) ht hid]

theorem task?_map {f : Task J → Task J} (hf : ∀ t, (f t).id = t.id) (k : Nat) :
    ({ a with tasks := a.tasks.map f } : Agenda J).task? k = (a.task? k).map f := by
  unfold task?
  rw [List.find?_map]
  congr 2
  funext t
  simp [hf]

theorem task?_update {f : Task J → Task J} (hf : ∀ t, (f t).id = t.id) (id k : Nat) :
    (a.update id f).task? k = (a.task? k).map fun t => if t.id = id then f t else t := by
  refine task?_map (fun t => ?_) k
  split
  · exact hf t
  · rfl

theorem task?_setJob (id k : Nat) (job : J) : (a.setJob id job).task? k =
    (a.task? k).map fun t => if t.id = id then { t with job := job } else t :=
  task?_update (f := fun t => { t with job := job }) (fun _ => rfl) id k

theorem task?_remove (id k : Nat) :
    (a.remove id).task? k = if k = id then none else a.task? k := by
  unfold task? remove
  rw [List.find?_filter]
  by_cases hk : k = id
  · subst hk
    rw [if_pos rfl, List.find?_eq_none]
    intro t _
    simp
  · rw [if_neg hk]
    congr 1
    funext t
    by_cases ht : t.id = k
    · simp [ht, hk]
    · simp [ht]

theorem task?_spawn (job : J) (k : Nat) :
    (a.spawn job).2.task? k =
      (a.task? k).or (if a.nextId = k then some ⟨a.nextId, job, none⟩ else none) := by
  unfold task? spawn
  rw [List.find?_append]
  congr 1
  by_cases hk : a.nextId = k
  · simp [hk]
  · simp [hk]

@[simp] theorem tasks_wake (id : Nat) : (a.wake id).tasks = a.tasks := by
  unfold wake
  split
  · rfl
  · rfl

/-- Whoever is woken, the tasks stay as they are. -/
theorem tasks_foldl_wake {α : Type} (f : α → Nat) (can : α → Bool) (xs : List α) (a : Agenda J) :
    (xs.foldl (fun a x => if can x then a.wake (f x) else a) a).tasks = a.tasks := by
  induction xs generalizing a with
  | nil => rfl
  | cons x xs ih =>
    rw [List.foldl_cons, ih]
    split
    · exact tasks_wake _
    · rfl

@[simp] theorem tasks_wakeWhere (can : Task J → Bool) : (a.wakeWhere can).tasks = a.tasks :=
  tasks_foldl_wake Task.id can a.tasks a

/-- The alarm of a task is gone if it is due. -/
def rung (a : Agenda J) (t : Task J) : Task J :=
  if a.isRinging t then { t with alarm := none } else t

@[simp] theorem id_rung (t : Task J) : (a.rung t).id = t.id := by
  unfold rung
  split
  · rfl
  · rfl

@[simp] theorem job_rung (t : Task J) : (a.rung t).job = t.job := by
  unfold rung
  split
  · rfl
  · rfl

/-- The alarms that are due, in the order in which they ring. -/
def dues (a : Agenda J) : List (Alarm × Nat) :=
  (a.tasks.filterMap fun t =>
    match t.alarm with
    | some alarm => if alarm.due ≤ a.now then some (alarm, t.id) else none
    | none => none).mergeSort fun x y => x.1.before y.1

theorem ring_eq (a : Agenda J) :
    a.ring = a.dues.foldl (fun a x => a.wake x.2) { a with tasks := a.tasks.map a.rung } := rfl

@[simp] theorem tasks_ring : a.ring.tasks = a.tasks.map a.rung := by
  rw [ring_eq]
  exact tasks_foldl_wake Prod.snd (fun _ => true) a.dues { a with tasks := a.tasks.map a.rung }

/-! ## 2. What a task is at -/

/-- The job of a task. -/
def job? (a : Agenda J) (k : Nat) : Option J := (a.task? k).map (·.job)

theorem job?_of_tasks {b : Agenda J} (h : b.tasks = a.tasks) (k : Nat) : b.job? k = a.job? k := by
  unfold job?
  rw [task?_of_tasks h]

/-- Another job for one task leaves the jobs of all others. -/
theorem job?_update {f : Task J → Task J} (hf : ∀ t, (f t).id = t.id) (id k : Nat) :
    (a.update id f).job? k = if k = id then (a.task? k).map fun t => (f t).job else a.job? k := by
  unfold job?
  rw [task?_update hf, Option.map_map]
  cases htask : a.task? k with
  | none => simp
  | some t =>
    obtain ⟨-, rfl⟩ := mem_of_task? htask
    by_cases ht : t.id = id
    · simp [ht]
    · simp [ht]

theorem job?_setJob (id k : Nat) (job : J) :
    (a.setJob id job).job? k = if k = id then (a.job? k).map fun _ => job else a.job? k := by
  refine (job?_update (f := fun t => { t with job := job }) (fun _ => rfl) id k).trans ?_
  unfold job?
  rw [Option.map_map]
  rfl

/-- An alarm does not concern the job. -/
@[simp] theorem job?_setAlarm (id due k : Nat) : (a.setAlarm id due).job? k = a.job? k :=
  (job?_update (f := fun t => { t with alarm := some ⟨due, a.nextOrder⟩ }) (fun _ => rfl) id k).trans
    (ite_self _)

@[simp] theorem job?_awaitTime (id due k : Nat) : (a.awaitTime id due).job? k = a.job? k := by
  unfold awaitTime
  split
  · split
    · rfl
    · exact job?_setAlarm id due k
  · exact job?_setAlarm id due k

theorem job?_remove (id k : Nat) : (a.remove id).job? k = if k = id then none else a.job? k := by
  unfold job?
  rw [task?_remove]
  split
  · rfl
  · rfl

/-- Among new ids a new task is found, and the old ones are. -/
theorem job?_spawn (job : J) (k : Nat) :
    (a.spawn job).2.job? k = (a.job? k).or (if a.nextId = k then some job else none) := by
  unfold job?
  rw [task?_spawn]
  cases a.task? k with
  | some t => rfl
  | none =>
    split
    · rfl
    · rfl

theorem job?_spawn_of_ne {job : J} (h : k ≠ a.nextId) : (a.spawn job).2.job? k = a.job? k := by
  rw [job?_spawn, if_neg (Ne.symm h), Option.or_none]

@[simp] theorem job?_wakeFirst (id k : Nat) : (a.wakeFirst id).job? k = a.job? k :=
  job?_of_tasks rfl k

/-- **A task gets a job and waits for a time.** -/
theorem setJob_awaitTime (hids : (a.tasks.map (·.id)).Nodup) (id due : Nat) (job : J) :
    ∃ order next, (a.setJob id job).awaitTime id due =
      { a with
        tasks := a.tasks.map fun t => if t.id = id then ⟨t.id, job, some ⟨due, order⟩⟩ else t
        nextOrder := next } := by
  have hset : (a.setJob id job).setAlarm id due =
      { a with
        tasks := a.tasks.map fun t =>
          if t.id = id then ⟨t.id, job, some ⟨due, a.nextOrder⟩⟩ else t
        nextOrder := a.nextOrder + 1 } := by
    unfold setAlarm setJob update
    simp only [List.map_map, mk.injEq, and_true, true_and]
    refine List.map_congr_left fun t _ => ?_
    by_cases ht : t.id = id
    · simp [ht]
    · simp [ht]
  unfold awaitTime
  rw [task?_setJob]
  cases htask : a.task? id with
  | none => exact ⟨_, _, hset⟩
  | some t =>
    obtain ⟨hmem, rfl⟩ := mem_of_task? htask
    cases halarm : t.alarm with
    | none => simpa [halarm] using ⟨_, _, hset⟩
    | some alarm =>
      by_cases hdue : alarm.due = due
      · -- the alarm stands at that time already
        refine ⟨alarm.order, a.nextOrder, ?_⟩
        simp only [Option.map_some, Option.bind_some, if_true, halarm, if_pos hdue]
        unfold setJob update
        simp only [mk.injEq, and_true, true_and]
        refine List.map_congr_left fun u hu => ?_
        by_cases hid : u.id = t.id
        · obtain rfl := List.inj_on_of_nodup_map hids hu hmem hid
          simp [halarm, ← hdue]
        · simp [hid]
      · simpa [halarm, hdue] using ⟨_, _, hset⟩

/-! ## 3. The queue -/

theorem mem_ready_wake : k ∈ (a.wake id).ready ↔ k ∈ a.ready ∨ k = id := by
  unfold wake
  split
  · rename_i hid
    exact ⟨.inl, fun h => h.elim (fun h => h) fun h => h ▸ hid⟩
  · simp

theorem nodup_wake (h : a.ready.Nodup) : (a.wake id).ready.Nodup := by
  unfold wake
  split
  · exact h
  · rename_i hid
    exact h.append (List.nodup_singleton _) (List.disjoint_singleton.2 hid)

@[simp] theorem now_wake : (a.wake id).now = a.now := by
  unfold wake
  split
  · rfl
  · rfl

section Fold

variable {α : Type} (f : α → Nat) (can : α → Bool) (xs : List α)

/-- Whoever is woken joins the queue. -/
theorem mem_ready_foldl_wake (a : Agenda J) :
    k ∈ (xs.foldl (fun a x => if can x then a.wake (f x) else a) a).ready ↔
      k ∈ a.ready ∨ ∃ x ∈ xs, can x ∧ f x = k := by
  induction xs generalizing a with
  | nil => simp
  | cons x xs ih =>
    rw [List.foldl_cons, ih]
    by_cases hx : can x
    · rw [if_pos hx, mem_ready_wake, or_assoc, eq_comm (a := k)]
      simp only [List.exists_mem_cons_iff, hx, true_and]
    · simp [hx]

theorem nodup_foldl_wake (a : Agenda J) (h : a.ready.Nodup) :
    (xs.foldl (fun a x => if can x then a.wake (f x) else a) a).ready.Nodup := by
  induction xs generalizing a with
  | nil => exact h
  | cons x xs ih =>
    rw [List.foldl_cons]
    refine ih _ ?_
    split
    · exact nodup_wake h
    · exact h

theorem now_foldl_wake (a : Agenda J) :
    (xs.foldl (fun a x => if can x then a.wake (f x) else a) a).now = a.now := by
  induction xs generalizing a with
  | nil => rfl
  | cons x xs ih =>
    rw [List.foldl_cons, ih]
    split
    · exact now_wake
    · rfl

end Fold

theorem mem_ready_wakeWhere {can : Task J → Bool} :
    k ∈ (a.wakeWhere can).ready ↔ k ∈ a.ready ∨ ∃ t ∈ a.tasks, can t ∧ t.id = k :=
  mem_ready_foldl_wake Task.id can a.tasks a

theorem nodup_wakeWhere (can : Task J → Bool) (h : a.ready.Nodup) : (a.wakeWhere can).ready.Nodup :=
  nodup_foldl_wake Task.id can a.tasks a h

@[simp] theorem now_wakeWhere (can : Task J → Bool) : (a.wakeWhere can).now = a.now :=
  now_foldl_wake Task.id can a.tasks a

theorem isRinging_iff : a.isRinging t ↔ ∃ alarm, t.alarm = some alarm ∧ alarm.due ≤ a.now := by
  unfold isRinging
  cases t.alarm with
  | none => simp
  | some alarm => simp

theorem mem_dues {x : Alarm × Nat} :
    x ∈ a.dues ↔ ∃ t ∈ a.tasks, t.alarm = some x.1 ∧ x.1.due ≤ a.now ∧ t.id = x.2 := by
  unfold dues
  rw [List.mem_mergeSort, List.mem_filterMap]
  refine exists_congr fun t => and_congr_right fun _ => ?_
  obtain ⟨alarm, id⟩ := x
  cases t.alarm with
  | none => simp
  | some alarm' =>
    by_cases hdue : alarm'.due ≤ a.now
    · grind
    · grind

/-- **Whose alarm rings joins the queue.** -/
theorem mem_ready_ring :
    k ∈ a.ring.ready ↔ k ∈ a.ready ∨ ∃ t ∈ a.tasks, a.isRinging t ∧ t.id = k := by
  rw [ring_eq]
  refine (mem_ready_foldl_wake Prod.snd (fun _ => true) a.dues _).trans (or_congr_right ?_)
  constructor
  · intro hrung
    obtain ⟨x, hx, -, hk⟩ := hrung
    obtain ⟨t, ht, halarm, hdue, hid⟩ := mem_dues.1 hx
    exact ⟨t, ht, isRinging_iff.2 ⟨x.1, halarm, hdue⟩, hid.trans hk⟩
  · intro hringing
    obtain ⟨t, ht, hrings, hk⟩ := hringing
    obtain ⟨alarm, halarm, hdue⟩ := isRinging_iff.1 hrings
    exact ⟨(alarm, t.id), mem_dues.2 ⟨t, ht, halarm, hdue, rfl⟩, rfl, hk⟩

theorem nodup_ring (h : a.ready.Nodup) : a.ring.ready.Nodup := by
  rw [ring_eq]
  exact nodup_foldl_wake Prod.snd (fun _ => true) a.dues { a with tasks := a.tasks.map a.rung } h

@[simp] theorem now_ring : a.ring.now = a.now := by
  rw [ring_eq]
  exact now_foldl_wake Prod.snd (fun _ => true) a.dues { a with tasks := a.tasks.map a.rung }

end CardLink.Agenda
