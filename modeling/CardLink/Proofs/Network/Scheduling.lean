import CardLink.Network.Action
import CardLink.Proofs.Agenda

/-!
# Whatever the tasks do in turn

A network settles, lets time pass or waits for the end of a task by giving turns, one at a time, and
by ringing alarms between them. What every turn keeps, and every change of the queue and the clock,
is kept by all of these.

* `Agenda.Akin`: the same tasks with the same jobs, whoever goes on next and when.
* `Network.Scheduling`: what turns and the clock keep, as a relation between networks.
* **`Scheduling.turns`**, `settle`, `runUntil`, `await`: it is kept by all that the tasks do.
-/

namespace CardLink

namespace Agenda

variable {J : Type} {a b : Agenda J}

/-- **The same tasks are at the same jobs**; when they go on may differ. -/
structure Akin (a b : Agenda J) : Prop where
  tasks : b.tasks.map (fun t => (t.id, t.job)) = a.tasks.map fun t => (t.id, t.job)
  nextId : b.nextId = a.nextId

theorem Akin.of_tasks (htasks : b.tasks = a.tasks) (hid : b.nextId = a.nextId) : Akin a b :=
  ⟨by rw [htasks], hid⟩

theorem job?_eq_find? (a : Agenda J) (k : Nat) :
    a.job? k = ((a.tasks.map fun t => (t.id, t.job)).find? (·.1 == k)).map (·.2) := by
  unfold job? task?
  rw [List.find?_map, Option.map_map]
  rfl

theorem Akin.job? (h : Akin a b) (k : Nat) : b.job? k = a.job? k := by
  rw [job?_eq_find?, h.tasks, ← job?_eq_find?]

theorem Akin.jobs (h : Akin a b) : b.tasks.map (·.job) = a.tasks.map (·.job) := by
  have hsnd := congrArg (List.map Prod.snd) h.tasks
  rw [List.map_map, List.map_map] at hsnd
  exact hsnd

/-- Whoever is woken, nothing else changes. -/
theorem nextId_foldl_wake {α : Type} (f : α → Nat) (can : α → Bool) (xs : List α) (a : Agenda J) :
    (xs.foldl (fun a x => if can x then a.wake (f x) else a) a).nextId = a.nextId := by
  induction xs generalizing a with
  | nil => rfl
  | cons x xs ih =>
    rw [List.foldl_cons, ih]
    unfold wake
    split
    · split
      · rfl
      · rfl
    · rfl

theorem akin_wakeWhere (a : Agenda J) (can : Task J → Bool) : Akin a (a.wakeWhere can) :=
  .of_tasks (tasks_wakeWhere can) (nextId_foldl_wake Task.id can a.tasks a)

theorem akin_ring (a : Agenda J) : Akin a a.ring where
  tasks := by
    rw [tasks_ring, List.map_map]
    refine List.map_congr_left fun t _ => ?_
    simp
  nextId :=
    nextId_foldl_wake Prod.snd (fun _ => true) a.dues { a with tasks := a.tasks.map a.rung }

/-- Who has the next turn is the first in the queue. -/
theorem pop_eq_some {id : Nat} (h : a.pop = some (id, b)) :
    ∃ rest, a.ready = id :: rest ∧ b = { a with ready := rest } := by
  unfold pop at h
  split at h
  · cases h
  · cases h
    exact ⟨_, ‹_›, rfl⟩

theorem pop_eq_none (h : a.pop = none) : a.ready = [] := by
  unfold pop at h
  split at h
  · assumption
  · cases h

end Agenda

namespace Network

/-! ## Results -/

section Results

variable {results : List (Nat × Result)} {i j : Nat}

theorem lookup_fresh (h : ∀ e ∈ results, e.1 < i) : results.lookup i = none := by
  rw [List.lookup_eq_none_iff]
  intro e he
  have hlt := h e he
  have hne : i ≠ e.1 := by omega
  simpa using hne

theorem lookup_append_self (h : results.lookup i = none) (r : Result) :
    (results ++ [(i, r)]).lookup i = some r := by
  rw [List.lookup_append, h]
  simp

theorem lookup_append_other {result : Option Result} (h : results.lookup i = result) (hij : i ≠ j)
    (r : Result) : (results ++ [(j, r)]).lookup i = result := by
  have hother : (i == j) = false := by simpa using hij
  rw [List.lookup_append, h]
  simp [List.lookup_cons, hother]

end Results

/-- **What turns and the clock keep**, from one network to a later one. -/
structure Scheduling (R : Network → Network → Prop) : Prop where
  refl : ∀ n, R n n
  trans : ∀ {n n' n''}, R n n' → R n' n'' → R n n''
  /-- the queue and the clock may change -/
  agenda : ∀ (n : Network) (agenda : Agenda Job), n.agenda.Akin agenda →
    R n { n with agenda := agenda }
  turn : ∀ (n : Network) (id : Nat), R n (n.turn id)

namespace Scheduling

variable {R : Network → Network → Prop} (h : Scheduling R)

include h

theorem awaken (n : Network) : R n n.awaken :=
  h.agenda n _ (n.agenda.akin_wakeWhere n.canGoOn)

theorem ring (n : Network) : R n (n.mapAgenda (·.ring)) := h.agenda n _ n.agenda.akin_ring

/-- **The tasks take turns.** -/
theorem turns (k : Nat) (n : Network) : R n (n.turns k) := by
  induction k generalizing n with
  | zero => exact h.refl n
  | succ k ih =>
    refine h.trans (h.awaken n) ?_
    unfold Network.turns
    dsimp only
    cases hpop : n.awaken.agenda.pop with
    | some popped =>
      obtain ⟨id, agenda⟩ := popped
      obtain ⟨rest, -, rfl⟩ := Agenda.pop_eq_some hpop
      have hpopped :
          R n.awaken { n.awaken with agenda := { n.awaken.agenda with ready := rest } } :=
        h.agenda _ _ (.of_tasks rfl rfl)
      exact h.trans hpopped (h.trans (h.turn _ id) (ih _))
    | none =>
      dsimp only
      split
      · exact h.trans (h.ring _) (ih _)
      · exact h.refl _

theorem settle (n : Network) : R n n.settle := h.turns _ n

theorem moveTo (time : Nat) (n : Network) : R n (n.moveTo time) :=
  h.trans (h.agenda n (n.agenda.moveTo time) (.of_tasks rfl rfl)) (h.ring _)

theorem runAlarms (time k : Nat) (n : Network) : R n (n.runAlarms time k) := by
  induction k generalizing n with
  | zero => exact h.refl n
  | succ k ih =>
    unfold Network.runAlarms
    split
    · exact h.refl n
    · split
      · exact h.trans (h.moveTo _ n) (h.trans (h.settle _) (ih _))
      · exact h.refl n

/-- **Time passes**, and all happens that falls due. -/
theorem runUntil (time : Nat) (n : Network) : R n (n.runUntil time) :=
  h.trans (h.settle n) (h.trans (h.runAlarms time _ _) (h.trans (h.moveTo time _) (h.settle _)))

theorem runTask (id k : Nat) (n : Network) : R n (n.runTask id k) := by
  induction k generalizing n with
  | zero => exact h.refl n
  | succ k ih =>
    unfold Network.runTask
    split
    · exact h.refl n
    · split
      · exact h.refl n
      · exact h.trans (h.moveTo _ n) (h.trans (h.settle _) (ih _))

/-- **A task comes to its end.** -/
theorem await (id : Nat) (n : Network) : R n (n.await id) :=
  h.trans (h.settle n) (h.runTask id _ _)

end Scheduling

end Network

end CardLink
