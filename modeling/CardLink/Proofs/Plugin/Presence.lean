import CardLink.Proofs.Plugin.Lifecycle

/-!
# What is done to presence monitors

The monitor of a reader is started and stopped by the application, at any time and again and again.
Its task polls on its own: it begins a poll, waits for the answer, and takes it in, and meanwhile
its reader may have been given another monitor, or may be gone. Between any two such steps
everything else may happen that a plugin does.

* `Plugin.announcement`, `Plugin.polled_eq`: the event that an answer brings.
* `Presence.Step`: one step of a plugin with its monitors.
* `Presence.start_cases`: whether a monitor is started.
* **`Presence.effect`**: a step leaves monitors alone, stops one, lets one go on, or adds one.
* `Presence.quiet_of_answered`, `Presence.told_of_answered`: who is told what of an answer.
* **`Presence.hushed_step`**: nobody is told anything of anything else that is done to monitors.

NOT here: monitors that are started apart from their readers, when polls are due, and threads that
run at the same moment: a task goes on from one wait to the next without being disturbed.
-/

namespace CardLink

/-- The monitor runs, and was not told to stop. -/
structure Monitor.Live (w : Monitor) : Prop where
  going : w.stopped = false
  running : w.isRunning = true

/-- The monitor after the outcome of a poll. -/
def Monitor.taken (answer : Option Bool) (w : Monitor) : Monitor :=
  match answer with
  | none => w.rest
  | some present => if w.stopped then w.finish else (w.observe present).2.rest

namespace Plugin

/-! ## 1. What an answer brings -/

/-- **The event that the outcome of a poll brings**, if it does. -/
def announcement (p : Plugin) (m : Nat) (answer : Option Bool) : Option ReaderEvent :=
  match p.monitor? m, answer with
  | some w, some present =>
    if w.stopped then none
    else
      match Monitor.change w.last present, p.reader? w.reader with
      | some type, some r => some (.plain r.pluginName r.name type)
      | _, _ => none
  | _, _ => none

section Answers

variable {p : Plugin} {m n : Nat} {w : Monitor} {answer : Option Bool}

theorem updateMonitor_congr {f g : Monitor → Monitor} (hw : p.monitor? m = some w)
    (hfg : f w = g w) : p.updateMonitor m f = p.updateMonitor m g := by
  have hmonitors : p.monitors.modify m f = p.monitors.modify m g := by
    refine List.ext_getElem? fun k => ?_
    show (p.updateMonitor m f).monitor? k = (p.updateMonitor m g).monitor? k
    rw [monitor?_updateMonitor, monitor?_updateMonitor]
    by_cases hmk : m = k
    · rw [← hmk, hw]
      simp [hfg]
    · simp [hmk]
  unfold updateMonitor
  rw [hmonitors]

/-- **The monitor takes in the outcome, and the event is raised at its reader.** -/
theorem polled_eq (hw : p.monitor? m = some w) :
    p.polled m answer = match p.announcement m answer with
      | none => p.updateMonitor m (Monitor.taken answer)
      | some e => (p.updateMonitor m (Monitor.taken answer)).raiseReader w.reader e := by
  unfold polled announcement
  rw [hw]
  cases answer with
  | none => rfl
  | some present =>
    by_cases hstopped : w.stopped = true
    · simp only [hstopped, if_true]
      exact updateMonitor_congr hw (by simp [Monitor.taken, hstopped])
    · have htaken : p.updateMonitor m (fun _ => (w.observe present).2.rest) =
          p.updateMonitor m (Monitor.taken (some present)) :=
        updateMonitor_congr hw (by simp [Monitor.taken, hstopped])
      simp only [hstopped, Bool.false_eq_true, if_false]
      rw [htaken]
      show (match Monitor.change w.last present, p.reader? w.reader with
        | some type, some r => _
        | _, _ => _) = _
      cases Monitor.change w.last present with
      | none => rfl
      | some type => cases p.reader? w.reader <;> rfl

/-- Only a monitor that was not told to stop brings an event. -/
theorem going_of_announcement {e : ReaderEvent} (hw : p.monitor? m = some w)
    (he : p.announcement m answer = some e) : w.stopped = false := by
  unfold announcement at he
  rw [hw] at he
  cases answer with
  | none => cases he
  | some present =>
    cases hstopped : w.stopped with
    | false => rfl
    | true =>
      simp only [hstopped, if_true] at he
      cases he

end Answers

end Plugin

namespace Presence

/-! ## 2. Steps -/

/-- What is done to a plugin and its monitors, and how it ended. -/
inductive Event where
  /-- a reader is created or removed, or something that is not about monitors happens -/
  | lifecycle (ev : Plugin.Event)
  /-- a monitor was to be started for a reader -/
  | started (n : Nat) (result : Bool)
  /-- the monitor of a reader was to be stopped -/
  | stopped (n : Nat) (result : Bool)
  /-- a monitor of a reader begins a poll -/
  | asked (n m : Nat)
  /-- it has the outcome of its poll, and raises an event or does not -/
  | answered (n m : Nat) (event : Option ReaderEvent)
  /-- it comes to its end -/
  | ended (n m : Nat)

/-- A step of the monitor with this number. -/
def Event.IsOf (m : Nat) : Event → Prop
  | .asked _ k => k = m
  | .answered _ k _ => k = m
  | .ended _ k => k = m
  | _ => False

/-- The monitor that a reader holds. -/
def held (p : Plugin) (n : Nat) : Option Nat := (p.reader? n).bind (·.monitor)

/-- There is such a reader, and it is not closed. -/
def IsOpen (p : Plugin) (n : Nat) : Prop := ∃ r, p.reader? n = some r ∧ r.closed = false

/-- **Monitors and the readers that hold them are left alone.** -/
structure Alike (p q : Plugin) : Prop where
  held : ∀ n, held q n = held p n
  opened : ∀ n, IsOpen p n → IsOpen q n
  monitors : ∀ m, q.monitor? m = p.monitor? m

/-- **Nobody is told anything**, and no observer comes or goes. -/
structure Hushed (p q : Plugin) : Prop where
  readerObservers : q.readerObservers = p.readerObservers
  pluginObservers : q.pluginObservers = p.pluginObservers
  notes : q.notes = p.notes

/-- **One step of a plugin with its monitors.** A monitor begins a poll only while it rests and does
not know that it was stopped; it may come to its end for many reasons. -/
inductive Step (p : Plugin) : Event → Plugin → Prop where
  | lifecycle (ev : Plugin.Event) (q : Plugin) (hs : Plugin.Step p ev q)
      (hother : ev = .other → Alike p q) : Step p (.lifecycle ev) q
  | start (n period now : Nat) :
      Step p (.started n (p.startMonitor n period now).1) (p.startMonitor n period now).2
  | stop (n : Nat) : Step p (.stopped n (p.stopMonitor n).1) (p.stopMonitor n).2
  | ask (m due now key : Nat) (w : Monitor) (hw : p.monitor? m = some w)
      (hidle : w.state = .idle due) (hgoing : w.stopped = false) :
      Step p (.asked w.reader m) (p.updateMonitor m (·.begin due now key))
  | answer (m key : Nat) (answer : Option Bool) (w : Monitor) (hw : p.monitor? m = some w)
      (hpolling : w.state = .polling key) :
      Step p (.answered w.reader m (p.announcement m answer)) (p.polled m answer)
  | finish (m : Nat) (w : Monitor) (hw : p.monitor? m = some w) :
      Step p (.ended w.reader m) (p.updateMonitor m Monitor.finish)

/-! ## 3. What a step does -/

/-- A reader lets go of its monitor, which is told to stop. -/
structure Released (p q : Plugin) (n : Nat) : Prop where
  held : ∀ k, held q k = if n = k then none else held p k
  opened : ∀ k, n ≠ k → IsOpen p k → IsOpen q k
  monitors : ∀ m, q.monitor? m =
    (p.monitor? m).map fun w => if Presence.held p n = some m then w.stop else w

/-- A monitor goes on, or comes to its end; it does not start again. -/
structure Tended (p q : Plugin) (m : Nat) (w w' : Monitor) : Prop where
  here : p.monitor? m = some w
  held : ∀ n, held q n = held p n
  opened : ∀ n, IsOpen p n → IsOpen q n
  monitors : ∀ k, q.monitor? k = if m = k then some w' else p.monitor? k
  reader : w'.reader = w.reader
  stopped : w'.stopped = w.stopped
  running : w.isRunning = false → w'.isRunning = false

/-- An open reader without a monitor that runs is given a new one. -/
structure Added (p q : Plugin) (n : Nat) (w : Monitor) : Prop where
  free : p.isMonitoring n = false
  isOpen : IsOpen p n
  held : ∀ k, held q k = if n = k then some p.monitors.length else held p k
  opened : ∀ k, IsOpen p k → IsOpen q k
  monitors : q.monitors = p.monitors ++ [w]
  reader : w.reader = n
  going : w.stopped = false

/-- **All that a step may do to monitors.** -/
inductive Effect (p q : Plugin) : Prop where
  | alike (h : Alike p q)
  | released (n : Nat) (h : Released p q n)
  | tended (m : Nat) (w w' : Monitor) (h : Tended p q m w w')
  | added (n : Nat) (w : Monitor) (h : Added p q n w)

section Effects

variable {p q : Plugin} {ev : Event} {n m : Nat} {w : Monitor}

theorem Alike.refl (p : Plugin) : Alike p p := ⟨fun _ => rfl, fun _ => id, fun _ => rfl⟩

theorem Alike.of_eq (hreaders : q.readers = p.readers) (hmonitors : q.monitors = p.monitors) :
    Alike p q := by
  have hreader : ∀ n, q.reader? n = p.reader? n := fun n => congrArg (·[n]?) hreaders
  refine ⟨fun n => ?_, fun n hopen => ?_, fun m => congrArg (·[m]?) hmonitors⟩
  · rw [Presence.held, Presence.held, hreader]
  · rw [IsOpen, hreader]
    exact hopen

theorem alike_enroll (p : Plugin) (native slave : String) (mode : TransmissionMode)
    (options : Settings) : Alike p (p.enroll native slave mode options) := by
  refine ⟨fun n => ?_, fun n hopen => ?_, fun m => rfl⟩
  · unfold held
    cases hr : p.reader? n with
    | some r => rw [Plugin.reader?_enroll_old hr]
    | none =>
      cases hr' : (p.enroll native slave mode options).reader? n with
      | none => rfl
      | some r' =>
        rcases Plugin.reader?_enroll hr' with hold | ⟨hnew, -⟩
        · rw [hr] at hold
          cases hold
        · rw [hnew, Plugin.reader?_enroll_new] at hr'
          obtain rfl := Option.some.inj hr'
          rfl
  · obtain ⟨r, hr, hclosed⟩ := hopen
    exact ⟨r, Plugin.reader?_enroll_old hr, hclosed⟩

/-! ### A reader that lets go of its monitor -/

theorem released_stopMonitor (p : Plugin) (n : Nat) : Released p (p.stopMonitor n).2 n := by
  refine ⟨fun k => ?_, fun k hnk hopen => ?_, Plugin.monitor?_stopMonitor p n⟩
  · rw [held, Plugin.reader?_stopMonitor, held]
    cases p.reader? k with
    | none => split <;> rfl
    | some r => by_cases hnk : n = k <;> simp [hnk]
  · obtain ⟨r, hr, hclosed⟩ := hopen
    refine ⟨r, ?_, hclosed⟩
    rw [Plugin.reader?_stopMonitor, hr]
    simp [hnk]

/-- Who is closed lets go of its monitor, too. -/
theorem released_close (p : Plugin) (n : Nat) : Released p (p.close n) n := by
  have hreader : ∀ k, (p.updateReader n fun r => { r with closed := true }).reader? k = _ :=
    fun k => Plugin.reader?_updateReader p n k _
  have hheld : ∀ k, held (p.updateReader n fun r => { r with closed := true }) k = held p k := by
    intro k
    rw [held, hreader, held]
    cases p.reader? k with
    | none => rfl
    | some r => by_cases hnk : n = k <;> simp [hnk]
  have hreleased := released_stopMonitor (p.updateReader n fun r => { r with closed := true }) n
  refine ⟨fun k => ?_, fun k hnk hopen => hreleased.opened k hnk ?_, fun m => ?_⟩
  · rw [← hheld k]
    exact hreleased.held k
  · obtain ⟨r, hr, hclosed⟩ := hopen
    refine ⟨r, ?_, hclosed⟩
    rw [hreader, hr]
    simp [hnk]
  · rw [← hheld n]
    exact hreleased.monitors m

/-! ### Monitors that go on -/

theorem tended_updateMonitor {f : Monitor → Monitor} (hw : p.monitor? m = some w)
    (hreaders : q.readers = p.readers) (hmonitors : q.monitors = (p.updateMonitor m f).monitors)
    (hreader : (f w).reader = w.reader) (hstopped : (f w).stopped = w.stopped)
    (hrunning : w.isRunning = false → (f w).isRunning = false) : Tended p q m w (f w) := by
  have halike : Alike p { q with monitors := p.monitors } := .of_eq hreaders rfl
  refine ⟨hw, halike.held, halike.opened, fun k => ?_, hreader, hstopped, hrunning⟩
  have hk : q.monitor? k = (p.updateMonitor m f).monitor? k := congrArg (·[k]?) hmonitors
  rw [hk, Plugin.monitor?_updateMonitor]
  by_cases hmk : m = k
  · rw [← hmk, hw, if_pos rfl]
    exact congrArg some (if_pos rfl)
  · simp [hmk]

/-- A monitor that polls runs, and takes in what comes. -/
theorem tended_polled {key : Nat} {answer : Option Bool} (hw : p.monitor? m = some w)
    (hpolling : w.state = .polling key) :
    Tended p (p.polled m answer) m w (w.taken answer) := by
  have hrunning : w.isRunning = true := by simp [Monitor.isRunning, hpolling]
  refine tended_updateMonitor hw ?_ ?_ ?_ ?_ fun hended => ?_
  · rw [Plugin.polled_eq hw]
    cases p.announcement m answer <;> rfl
  · rw [Plugin.polled_eq hw]
    cases p.announcement m answer <;> rfl
  · unfold Monitor.taken
    repeat' split
    all_goals rfl
  · unfold Monitor.taken
    repeat' split
    all_goals rfl
  · rw [hrunning] at hended
    cases hended

/-! ### A new monitor -/

/-- The plugin in which a reader was given a new monitor. -/
def provided (p : Plugin) (n period now : Nat) : Plugin :=
  (p.addMonitor n period now).updateReader n fun r => { r with monitor := some p.monitors.length }

theorem added_provided (hopen : IsOpen p n) (hfree : p.isMonitoring n = false) (period now : Nat) :
    Added p (provided p n period now) n (.new n period now) := by
  have hreader : ∀ k, (provided p n period now).reader? k = (p.reader? k).map fun r =>
      if n = k then { r with monitor := some p.monitors.length } else r :=
    fun k => Plugin.reader?_updateReader (p.addMonitor n period now) n k _
  refine ⟨hfree, hopen, fun k => ?_, fun k hk => ?_, rfl, rfl, rfl⟩
  · rw [held, hreader]
    by_cases hnk : n = k
    · obtain ⟨r, hr, -⟩ := hopen
      rw [← hnk, hr]
      simp
    · rw [if_neg hnk, held]
      cases p.reader? k <;> simp [hnk]
  · obtain ⟨r, hr, hclosed⟩ := hk
    refine ⟨_, (hreader k).trans (congrArg _ hr), ?_⟩
    split
    · exact hclosed
    · exact hclosed

/-- **A monitor is started for an open reader without one that runs**, and only then. -/
theorem start_cases (p : Plugin) (n period now : Nat) :
    (p.startMonitor n period now = (false, p) ∧ (IsOpen p n → p.isMonitoring n = true)) ∨
    (p.startMonitor n period now = (true, provided p n period now) ∧
      Added p (provided p n period now) n (.new n period now)) := by
  unfold Plugin.startMonitor
  cases hr : p.reader? n with
  | none =>
    refine .inl ⟨rfl, fun hopen => ?_⟩
    obtain ⟨r, hr', -⟩ := hopen
    rw [hr] at hr'
    cases hr'
  | some r =>
    by_cases hrefused : (r.closed || p.isMonitoring n) = true
    · refine .inl ⟨if_pos hrefused, fun hopen => ?_⟩
      obtain ⟨r', hr', hclosed⟩ := hopen
      obtain rfl := Option.some.inj (hr.symm.trans hr')
      simpa [hclosed] using hrefused
    · obtain ⟨hopen, hfree⟩ : r.closed = false ∧ p.isMonitoring n = false := by
        simpa using hrefused
      exact .inr ⟨if_neg hrefused, added_provided ⟨r, hr, hopen⟩ hfree period now⟩

/-! ### All steps -/

/-- **A step does one of four things.** -/
theorem effect (hs : Step p ev q) : Effect p q := by
  cases hs with
  | lifecycle ev q hs hother =>
    rcases Plugin.step_cases hs with ⟨-, rfl⟩ | ⟨native, slave, mode, options, -, -, rfl⟩ |
      ⟨native, slave, n, -, -, rfl⟩ | ⟨rfl, -⟩
    · exact .alike (.refl _)
    · obtain ⟨hheld, hopened, hmonitors⟩ := alike_enroll p native slave mode options
      exact .alike ⟨hheld, hopened, hmonitors⟩
    · obtain ⟨hheld, hopened, hmonitors⟩ := released_close p n
      exact .released n ⟨hheld, hopened, hmonitors⟩
    · exact .alike (hother rfl)
  | start n period now =>
    rcases start_cases p n period now with ⟨heq, -⟩ | ⟨heq, hadded⟩
    · rw [heq]
      exact .alike (.refl p)
    · rw [heq]
      exact .added n _ hadded
  | stop n => exact .released n (released_stopMonitor p n)
  | ask m due now key w hw hidle hgoing =>
    refine .tended m w _ (tended_updateMonitor hw rfl rfl rfl rfl fun hended => ?_)
    simp [Monitor.isRunning, hidle] at hended
  | answer m key answer w hw hpolling => exact .tended m w _ (tended_polled hw hpolling)
  | finish m w hw => exact .tended m w _ (tended_updateMonitor hw rfl rfl rfl rfl fun _ => rfl)

end Effects

/-! ## 4. Who is told -/

section Told

variable {p q : Plugin} {ev : Event} {n m : Nat} {event : Option ReaderEvent} {e : ReaderEvent}

theorem Hushed.refl (p : Plugin) : Hushed p p := ⟨rfl, rfl, rfl⟩

theorem Hushed.trans {q' : Plugin} (h : Hushed p q) (h' : Hushed q q') : Hushed p q' :=
  ⟨h'.readerObservers.trans h.readerObservers, h'.pluginObservers.trans h.pluginObservers,
    h'.notes.trans h.notes⟩

/-- What an answer was, and what became of it. -/
theorem answered_inv (hs : Step p (.answered n m event) q) : ∃ w key answer,
    p.monitor? m = some w ∧ w.reader = n ∧ w.state = .polling key ∧
      event = p.announcement m answer ∧ q = p.polled m answer := by
  generalize hev : Event.answered n m event = ev at hs
  cases hs with
  | answer m' key answer w hw hpolling =>
    obtain ⟨rfl, rfl, hannounced⟩ := Event.answered.inj hev
    exact ⟨w, key, answer, hw, rfl, hpolling, hannounced, rfl⟩
  | lifecycle => cases hev
  | start => cases hev
  | stop => cases hev
  | ask => cases hev
  | finish => cases hev

/-- **An answer without an event** changes the monitor, and nothing else. -/
theorem quiet_of_answered (hs : Step p (.answered n m none) q) :
    ∃ answer, q = p.updateMonitor m (Monitor.taken answer) := by
  obtain ⟨w, key, answer, hw, -, -, hannounced, rfl⟩ := answered_inv hs
  refine ⟨answer, ?_⟩
  rw [Plugin.polled_eq hw, ← hannounced]

/-- **The event of an answer** is raised at the reader of the monitor. -/
theorem told_of_answered (hs : Step p (.answered n m (some e)) q) :
    ∃ answer, q = (p.updateMonitor m (Monitor.taken answer)).raiseReader n e := by
  obtain ⟨w, key, answer, hw, rfl, -, hannounced, rfl⟩ := answered_inv hs
  refine ⟨answer, ?_⟩
  rw [Plugin.polled_eq hw, ← hannounced]

theorem hushed_startMonitor (p : Plugin) (n period now : Nat) :
    Hushed p (p.startMonitor n period now).2 := by
  rcases start_cases p n period now with ⟨heq, -⟩ | ⟨heq, -⟩
  · rw [heq]
    exact .refl p
  · rw [heq]
    exact ⟨rfl, rfl, rfl⟩

theorem hushed_stopMonitor (p : Plugin) (n : Nat) : Hushed p (p.stopMonitor n).2 := by
  unfold Plugin.stopMonitor
  split
  · exact .refl p
  · exact ⟨rfl, rfl, rfl⟩

/-- **Nobody is told anything** of what is done to monitors, unless an answer brings an event. -/
theorem hushed_step (hs : Step p ev q) (hmonitors : ∀ ev', ev ≠ .lifecycle ev')
    (hevent : ∀ n m e, ev ≠ .answered n m (some e)) : Hushed p q := by
  cases hs with
  | lifecycle ev q => exact absurd rfl (hmonitors ev)
  | start n period now => exact hushed_startMonitor p n period now
  | stop n => exact hushed_stopMonitor p n
  | ask => exact ⟨rfl, rfl, rfl⟩
  | answer m key answer w hw hpolling =>
    cases hannounced : p.announcement m answer with
    | none =>
      rw [Plugin.polled_eq hw, hannounced]
      exact ⟨rfl, rfl, rfl⟩
    | some e =>
      rw [hannounced] at hevent
      exact absurd rfl (hevent _ m e)
  | finish => exact ⟨rfl, rfl, rfl⟩

end Told

end Presence

end CardLink
