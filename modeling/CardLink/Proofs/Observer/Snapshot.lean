import CardLink.Observer.List
import CardLink.Proofs.Trace

/-!
# Observers that change the list they are told from

An observer is a program of its own. What it does when it is told of an event may depend on all that
it and others did before; it may look at the list that is being told, add observers to it, remove
some, itself among them, or clear it, and then it ends, well or badly. A notification is the same for
all of that: it is over a list that was taken when it began.

* `Conduct`: the programs; `Conduct.run` says what comes of one.
* `Gathering`: a list with its observers, every call and every change being noted.
* `registered`: who is registered after some changes, read off the changes alone.
* `Conduct.toList_run`: what an observer leaves of the list.
* `told_deliver`: the observers of a list are called in turn, whatever each of them does.
* `ObserverList.remove_eq_some_iff`: the earliest registration goes, and no other one.
* **`Gathering.notifies_faithfully`**: all of this, after every run.

NOT here: observers that raise events themselves.
-/

namespace CardLink

/-! ## 1. Changes -/

/-- A change of a list of observers. -/
inductive Edit (ι : Type) where
  | add (a : ι)
  | remove (a : ι)
  | clear
deriving DecidableEq, Repr

section Changes

variable {ι : Type} [DecidableEq ι]

/-- What a change makes of the registrations, the earliest of which comes first. -/
def Edit.apply (as : List ι) : Edit ι → List ι
  | .add a => as ++ [a]
  | .remove a => as.erase a
  | .clear => []

/-- **Who is registered after these changes.** -/
def registered (changes : List (Edit ι)) : List ι := changes.foldl Edit.apply []

/-- Makes a change. -/
def ObserverList.edit (l : ObserverList ι) : Edit ι → ObserverList ι
  | .add a => l.add a
  | .remove a => (l.remove a).getD l
  | .clear => l.clear

theorem ObserverList.remove_eq_none_iff {l : ObserverList ι} {a : ι} :
    l.remove a = none ↔ a ∉ l.toList := by
  rw [← Option.not_isSome_iff_eq_none, remove_isSome_iff]

/-- **The earliest registration goes**, and the others keep their order. -/
theorem ObserverList.remove_eq_some_iff {l l' : ObserverList ι} {a : ι} :
    l.remove a = some l' ↔
      ∃ before after, a ∉ before ∧ l.toList = before ++ a :: after ∧
        l'.toList = before ++ after := by
  constructor
  · intro h
    have hmem : a ∈ l.toList := remove_isSome_iff.1 (by rw [h]; rfl)
    obtain ⟨before, after, hfirst, hlist, herase⟩ := List.exists_erase_eq hmem
    exact ⟨before, after, hfirst, hlist, by rw [toList_remove h, herase]⟩
  · rintro ⟨before, after, hfirst, hlist, hlist'⟩
    have hmem : a ∈ l.toList := by
      rw [hlist]
      exact List.mem_append_right _ List.mem_cons_self
    obtain ⟨l'', hl''⟩ := Option.isSome_iff_exists.1 (remove_isSome_iff.2 hmem)
    have hsame : l''.toList = l'.toList := by
      rw [toList_remove hl'', hlist, List.erase_append_right _ hfirst, List.erase_cons_head, hlist']
    cases l'
    cases l''
    rw [hl'']
    exact congrArg some (congrArg ObserverList.mk hsame)

theorem ObserverList.toList_edit (l : ObserverList ι) (e : Edit ι) :
    (l.edit e).toList = e.apply l.toList := by
  cases e with
  | add a => rfl
  | clear => rfl
  | remove a =>
    cases h : l.remove a with
    | none =>
      have hnot := remove_eq_none_iff.1 h
      show ((l.remove a).getD l).toList = l.toList.erase a
      rw [h, List.erase_of_not_mem hnot]
      rfl
    | some l' =>
      show ((l.remove a).getD l).toList = l.toList.erase a
      rw [h]
      exact toList_remove h

end Changes

/-! ## 2. What observers do -/

/-- **What an observer does when it is told of an event.** -/
inductive Conduct (ι μ : Type) where
  /-- it comes to its end, and leaves something to be remembered -/
  | ends (outcome : Outcome) (memory : μ)
  | adds (a : ι) (next : Conduct ι μ)
  /-- it learns whether the observer was registered -/
  | removes (a : ι) (next : Bool → Conduct ι μ)
  | clears (next : Conduct ι μ)
  /-- it looks who is registered -/
  | looks (next : List ι → Conduct ι μ)

/-- What came of a call. -/
structure Aftermath (ι μ : Type) where
  outcome : Outcome
  memory : μ
  /-- the changes that were made, in order -/
  changes : List (Edit ι)
  observers : ObserverList ι

/-- One more change was made before. -/
def Aftermath.after {ι μ : Type} (e : Edit ι) (r : Aftermath ι μ) : Aftermath ι μ :=
  { r with changes := e :: r.changes }

section Conduct

variable {ι μ : Type} [DecidableEq ι]

/-- The observer does what it does, on this list. -/
def Conduct.run : Conduct ι μ → ObserverList ι → Aftermath ι μ
  | .ends outcome memory, l => ⟨outcome, memory, [], l⟩
  | .adds a next, l => (next.run (l.edit (.add a))).after (.add a)
  | .removes a next, l =>
    ((next (l.remove a).isSome).run (l.edit (.remove a))).after (.remove a)
  | .clears next, l => (next.run (l.edit .clear)).after .clear
  | .looks next, l => (next l.toList).run l

/-- **What an observer leaves of the list** is what its changes make of it. -/
theorem Conduct.toList_run (c : Conduct ι μ) (l : ObserverList ι) :
    (c.run l).observers.toList = (c.run l).changes.foldl Edit.apply l.toList := by
  induction c generalizing l with
  | ends outcome memory => rfl
  | adds a next ih => exact ih (l.edit (.add a))
  | removes a next ih =>
    have hnext := ih (l.remove a).isSome (l.edit (.remove a))
    rw [l.toList_edit] at hnext
    exact hnext
  | clears next ih => exact ih (l.edit .clear)
  | looks next ih => exact ih l.toList l

end Conduct

/-! ## 3. A list and its observers -/

/-- A call of an observer. -/
structure Visit (ε ι : Type) where
  who : ι
  event : ε
  outcome : Outcome
deriving DecidableEq, Repr

/-- A list with its observers, and what has happened to it. -/
structure Gathering (ε ι μ : Type) where
  observers : ObserverList ι
  /-- all that the observers remember -/
  memory : μ
  /-- the calls so far, in order -/
  visits : List (Visit ε ι)
  /-- the changes so far, in order, by whomever they were made -/
  changes : List (Edit ι)

namespace Gathering

variable {ε ι μ : Type} [DecidableEq ι]

/-- Nobody is registered. -/
def new (memory : μ) : Gathering ε ι μ := ⟨.empty, memory, [], []⟩

/-- A change from outside. -/
def change (g : Gathering ε ι μ) (e : Edit ι) : Gathering ε ι μ :=
  { g with observers := g.observers.edit e, changes := g.changes ++ [e] }

/-- One observer is called. -/
def tell (conduct : ι → ε → μ → Conduct ι μ) (event : ε) (a : ι) (g : Gathering ε ι μ) :
    Outcome × Gathering ε ι μ :=
  let r := (conduct a event g.memory).run g.observers
  (r.outcome,
    ⟨r.observers, r.memory, g.visits ++ [⟨a, event, r.outcome⟩], g.changes ++ r.changes⟩)

/-- The observers are notified; the number of failures is returned. -/
def notify (conduct : ι → ε → μ → Conduct ι μ) (event : ε) (g : Gathering ε ι μ) :
    Nat × Gathering ε ι μ :=
  let (outcomes, g) := ObserverList.notify (·.observers) (tell conduct event) g
  (ObserverList.failures outcomes, g)

/-- An observer is called and comes to its own end. -/
def Calls (conduct : ι → ε → μ → Conduct ι μ) (event : ε) (g : Gathering ε ι μ) (v : Visit ε ι)
    (g' : Gathering ε ι μ) : Prop :=
  v.event = event ∧ tell conduct event v.who g = (v.outcome, g')

/-! ## 4. One notification -/

/-- **These observers were called in turn**, with these outcomes. -/
structure Told (conduct : ι → ε → μ → Conduct ι μ) (event : ε) (as : List ι)
    (outcomes : List Outcome) (g g' : Gathering ε ι μ) (visits : List (Visit ε ι)) : Prop where
  calls : Trace (Calls conduct event) g visits g'
  noted : g'.visits = g.visits ++ visits
  callees : visits.map (·.who) = as
  outcomes : visits.map (·.outcome) = outcomes

section Told

variable {conduct : ι → ε → μ → Conduct ι μ} {event : ε} {g g' : Gathering ε ι μ}
  {visits : List (Visit ε ι)}

/-- **Observers are called in turn, whatever each of them does.** -/
theorem told_deliver (conduct : ι → ε → μ → Conduct ι μ) (event : ε) (as : List ι)
    (g : Gathering ε ι μ) :
    ∃ visits, Told conduct event as (ObserverList.deliver (tell conduct event) as g).1 g
      (ObserverList.deliver (tell conduct event) as g).2 visits := by
  induction as generalizing g with
  | nil => exact ⟨[], .start, (List.append_nil _).symm, rfl, rfl⟩
  | cons a as ih =>
    obtain ⟨visits, hcalls, hnoted, hcallees, houtcomes⟩ := ih (tell conduct event a g).2
    let first : Visit ε ι := ⟨a, event, (tell conduct event a g).1⟩
    have hfirst : Trace (Calls conduct event) g [first] (tell conduct event a g).2 :=
      .snoc [] g first _ .start ⟨rfl, rfl⟩
    refine ⟨first :: visits, hfirst.append hcalls, ?_, ?_, ?_⟩
    · exact hnoted.trans (List.append_assoc _ [first] visits)
    · exact congrArg (a :: ·) hcallees
    · exact congrArg (first.outcome :: ·) houtcomes

/-- All changes that observers make while they are called are in force afterwards. -/
theorem changes_of_calls (h : Trace (Calls conduct event) g visits g') :
    ∃ made, g'.changes = g.changes ++ made ∧
      g'.observers.toList = made.foldl Edit.apply g.observers.toList := by
  refine h.invariant (I := fun _ g' => ∃ made, g'.changes = g.changes ++ made ∧
    g'.observers.toList = made.foldl Edit.apply g.observers.toList)
    ⟨[], (List.append_nil _).symm, rfl⟩ fun _ t v u _ hmade hcall => ?_
  obtain ⟨made, hchanges, hlist⟩ := hmade
  obtain rfl : (tell conduct event v.who t).2 = u := congrArg Prod.snd hcall.2
  refine ⟨made ++ ((conduct v.who event t.memory).run t.observers).changes, ?_, ?_⟩
  · rw [← List.append_assoc, ← hchanges]
    rfl
  · rw [List.foldl_append, ← hlist]
    exact Conduct.toList_run _ t.observers

theorem event_of_calls (h : Trace (Calls conduct event) g visits g') :
    ∀ v ∈ visits, v.event = event := by
  refine h.invariant (I := fun visits _ => ∀ v ∈ visits, v.event = event)
    (fun v hv => absurd hv List.not_mem_nil) fun visits _ v _ _ hvisits hcall w hw => ?_
  rcases List.mem_append.1 hw with hw | hw
  · exact hvisits w hw
  · rw [List.mem_singleton.1 hw]
    exact hcall.1

theorem failures_of_told {as : List ι} {outcomes : List Outcome}
    (h : Told conduct event as outcomes g g' visits) :
    ObserverList.failures outcomes = visits.countP (·.outcome.isFailure) := by
  rw [← h.outcomes, ObserverList.failures, List.countP_map]
  rfl

end Told

/-! ## 5. Runs -/

/-- What is done to a list from outside. -/
inductive Act (ε ι : Type) where
  | changed (e : Edit ι)
  | notified (event : ε) (failures : Nat)

/-- **One step.** Whoever is called meanwhile does as it pleases. -/
inductive Step (conduct : ι → ε → μ → Conduct ι μ) (g : Gathering ε ι μ) :
    Act ε ι → Gathering ε ι μ → Prop where
  | change (e : Edit ι) : Step conduct g (.changed e) (g.change e)
  | notify (event : ε) :
    Step conduct g (.notified event (g.notify conduct event).1) (g.notify conduct event).2

/-- **A notification calls those who are registered as it begins**, each registration once, in their
order, and counts those that fail. -/
structure Notifies (conduct : ι → ε → μ → Conduct ι μ) (event : ε) (g : Gathering ε ι μ)
    (r : Nat × Gathering ε ι μ) (visits : List (Visit ε ι)) : Prop where
  /-- these calls are made, and no others -/
  noted : r.2.visits = g.visits ++ visits
  callees : visits.map (·.who) = g.observers.toList
  events : ∀ v ∈ visits, v.event = event
  /-- each call comes to its own end, in what the ones before it left behind -/
  calls : Trace (Calls conduct event) g visits r.2
  failures : r.1 = visits.countP (·.outcome.isFailure)

/-- **How a list of observers behaves.** -/
structure Faithful (conduct : ι → ε → μ → Conduct ι μ) (g : Gathering ε ι μ) : Prop where
  /-- all changes so far are in force, also those made by observers that were being told -/
  in_force : g.observers.toList = registered g.changes
  notifies : ∀ event, ∃ visits, Notifies conduct event g (g.notify conduct event) visits
  /-- the next notification calls those who are registered after all changes made in this one -/
  next : ∀ event, ∃ made, (g.notify conduct event).2.changes = g.changes ++ made ∧
    ∀ event', ∃ visits,
      Notifies conduct event' (g.notify conduct event).2
        ((g.notify conduct event).2.notify conduct event') visits ∧
      visits.map (·.who) = registered (g.changes ++ made)
  /-- there is something to remove while the observer is registered -/
  removes_iff : ∀ a, (g.observers.remove a).isSome ↔ a ∈ g.observers.toList
  /-- its earliest registration goes, and the others keep their order -/
  removes : ∀ a l, g.observers.remove a = some l ↔
    ∃ before after, a ∉ before ∧ g.observers.toList = before ++ a :: after ∧
      l.toList = before ++ after

section Runs

variable {conduct : ι → ε → μ → Conduct ι μ} {memory : μ} {acts : List (Act ε ι)} {act : Act ε ι}
  {g g' : Gathering ε ι μ}

theorem notifies_notify (conduct : ι → ε → μ → Conduct ι μ) (event : ε) (g : Gathering ε ι μ) :
    ∃ visits, Notifies conduct event g (g.notify conduct event) visits := by
  obtain ⟨visits, htold⟩ := told_deliver conduct event g.observers.toList g
  exact ⟨visits, htold.noted, htold.callees, event_of_calls htold.calls, htold.calls,
    failures_of_told htold⟩

/-- What is registered stays what the changes say, through a notification. -/
theorem changes_notify (conduct : ι → ε → μ → Conduct ι μ)
    (h : g.observers.toList = registered g.changes) (event : ε) :
    ∃ made, (g.notify conduct event).2.changes = g.changes ++ made ∧
      (g.notify conduct event).2.observers.toList = registered (g.changes ++ made) := by
  obtain ⟨visits, hnotifies⟩ := notifies_notify conduct event g
  obtain ⟨made, hchanges, hlist⟩ := changes_of_calls hnotifies.calls
  refine ⟨made, hchanges, ?_⟩
  rw [hlist, h, registered, registered, List.foldl_append]

theorem in_force_step (h : g.observers.toList = registered g.changes)
    (hs : Step conduct g act g') : g'.observers.toList = registered g'.changes := by
  cases hs with
  | change e =>
    show (g.observers.edit e).toList = registered (g.changes ++ [e])
    rw [ObserverList.toList_edit, h, registered, registered, List.foldl_append]
    rfl
  | notify event =>
    obtain ⟨made, hchanges, hlist⟩ := changes_notify conduct h event
    rw [hlist, hchanges]

theorem in_force_of_trace (h : Trace (Step conduct) (new memory) acts g) :
    g.observers.toList = registered g.changes :=
  h.invariant (I := fun _ g => g.observers.toList = registered g.changes) rfl
    fun _ _ _ _ _ hI hs => in_force_step hI hs

/-- **Notifications are faithful**, after every run and whatever the observers do. -/
theorem notifies_faithfully (h : Trace (Step conduct) (new memory) acts g) :
    Faithful conduct g where
  in_force := in_force_of_trace h
  notifies event := notifies_notify conduct event g
  next event := by
    obtain ⟨made, hchanges, hlist⟩ := changes_notify conduct (in_force_of_trace h) event
    refine ⟨made, hchanges, fun event' => ?_⟩
    obtain ⟨visits, hnotifies⟩ := notifies_notify conduct event' (g.notify conduct event).2
    exact ⟨visits, hnotifies, hnotifies.callees.trans hlist⟩
  removes_iff _ := ObserverList.remove_isSome_iff
  removes _ _ := ObserverList.remove_eq_some_iff

end Runs

/-- Observer 1 adds observer 2 and fails; observer 2 clears the list and breaks down; all others
remove themselves if somebody else is registered. -/
def rebels : Nat → String → Unit → Conduct Nat Unit
  | 1, _, _ => .adds 2 (.ends (.failed ["no"]) ())
  | 2, _, _ => .clears (.ends (.panicked none) ())
  | a, _, _ => .looks fun as =>
    if as = [a] then .ends .done () else .removes a fun _ => .ends .done ()

/-- Observer 3 is registered twice, with observers 1 and 2 between. -/
def rebellion : List (Act String Nat) :=
  [.changed (.add 3), .changed (.add 1), .changed (.add 2), .changed (.add 3), .notified "e" 2]

/-- All four are told of the event, although the list was cleared in the middle of it. -/
theorem notifies_faithfully_rebels :
    ∃ g, Trace (Step rebels) (new ()) rebellion g ∧ Faithful rebels g ∧
      g.visits.map (·.who) = [3, 1, 2, 3] ∧
      g.changes.drop 4 = [.remove 3, .add 2, .clear, .remove 3] ∧ g.observers.toList = [] := by
  have h₁ : Trace (Step rebels) (new ()) [.changed (.add 3)] _ := .snoc [] _ _ _ .start (.change _)
  have h₂ := h₁.snoc _ _ _ _ (.change (.add 1))
  have h₃ := h₂.snoc _ _ _ _ (.change (.add 2))
  have h₄ := h₃.snoc _ _ _ _ (.change (.add 3))
  have h₅ : Trace (Step rebels) (new ()) rebellion _ := h₄.snoc _ _ _ _ (.notify "e")
  exact ⟨_, h₅, notifies_faithfully h₅, rfl, rfl, rfl⟩

end Gathering

end CardLink
