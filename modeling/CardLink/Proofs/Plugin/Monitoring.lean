import CardLink.Proofs.Plugin.Presence

/-!
# Presence monitors come and go

A monitor that was told to stop learns it only when it looks, and it looks before it raises an
event. Until then its poll may be under way, while its reader is given another monitor or is
removed.

* `Presence.Supervised`: a monitor that runs and was not stopped is held by its reader, which is
  open.
* `Presence.Onward`: a monitor that was stopped, or has come to its end, stays so.
* `Presence.Silent`: a monitor of which nobody hears any more.
* `Presence.Gone`: a reader without monitors for good.
* **`Presence.governed_of_trace`**: the life of monitors, after every run.

NOT here: the tasks that run monitors, for which see `CardLink.Proofs.Network.Supervision`.
-/

namespace CardLink

namespace Presence

/-! ## 1. Monitors and their readers -/

/-- **A monitor that runs and was not stopped is held by its reader, which is open**; and a reader
holds none that was stopped. -/
structure Supervised (p : Plugin) : Prop where
  own : ∀ n m, held p n = some m → ∃ w, p.monitor? m = some w ∧ w.reader = n ∧ w.stopped = false
  live : ∀ m w, p.monitor? m = some w → w.Live → held p w.reader = some m ∧ IsOpen p w.reader

section Supervised

variable {p q : Plugin} {ev : Event} {n m : Nat} {w w' : Monitor}

theorem supervised_new (ids : Nat → String) (name address : String) (patience limit : Nat) :
    Supervised (.new ids name address patience limit) where
  own n m hm := by cases hm
  live m w hw := by cases hw

theorem Supervised.alike (h : Supervised p) (hq : Alike p q) : Supervised q where
  own n m hm := by
    rw [hq.held] at hm
    obtain ⟨w, hw, howner⟩ := h.own n m hm
    exact ⟨w, (hq.monitors m).trans hw, howner⟩
  live m w hw hlive := by
    rw [hq.monitors] at hw
    obtain ⟨hheld, hopen⟩ := h.live m w hw hlive
    exact ⟨(hq.held _).trans hheld, hq.opened _ hopen⟩

/-- A monitor that its reader lets go of is not live any more. -/
theorem Supervised.not_live (h : Supervised p) (hq : Released p q n) (hw : q.monitor? m = some w)
    (hreader : w.reader = n) : ¬ w.Live := by
  intro hlive
  rw [hq.monitors] at hw
  obtain ⟨w₀, hw₀, rfl⟩ := Option.map_eq_some_iff.1 hw
  split at hreader
  · rename_i hheld
    rw [if_pos hheld] at hlive
    cases hlive.going
  · rename_i hheld
    rw [if_neg hheld] at hlive
    rw [← hreader] at hheld
    exact hheld (h.live m w₀ hw₀ hlive).1

theorem Supervised.released (h : Supervised p) (hq : Released p q n) : Supervised q where
  own k m hm := by
    rw [hq.held] at hm
    split at hm
    · cases hm
    · rename_i hnk
      obtain ⟨w, hw, hreader, hgoing⟩ := h.own k m hm
      have hother : held p n ≠ some m := by
        intro hheld
        obtain ⟨w', hw', hreader', -⟩ := h.own n m hheld
        obtain rfl := Option.some.inj (hw.symm.trans hw')
        exact hnk (hreader'.symm.trans hreader)
      refine ⟨w, ?_, hreader, hgoing⟩
      rw [hq.monitors, hw]
      exact congrArg some (if_neg hother)
  live m w hw hlive := by
    have hreader : n ≠ w.reader := fun heq => h.not_live hq hw heq.symm hlive
    rw [hq.monitors] at hw
    obtain ⟨w₀, hw₀, rfl⟩ := Option.map_eq_some_iff.1 hw
    split at hlive
    · cases hlive.going
    · rename_i hheld
      rw [if_neg hheld] at hreader ⊢
      obtain ⟨hheld', hopen⟩ := h.live m w₀ hw₀ hlive
      exact ⟨(hq.held _).trans ((if_neg hreader).trans hheld'), hq.opened _ hreader hopen⟩

theorem Supervised.tended (h : Supervised p) (hq : Tended p q m w w') : Supervised q where
  own n k hk := by
    rw [hq.held] at hk
    obtain ⟨u, hu, hreader, hgoing⟩ := h.own n k hk
    by_cases hmk : m = k
    · subst hmk
      obtain rfl := Option.some.inj (hq.here.symm.trans hu)
      exact ⟨w', (hq.monitors m).trans (if_pos rfl), hq.reader.trans hreader,
        hq.stopped.trans hgoing⟩
    · exact ⟨u, (hq.monitors k).trans ((if_neg hmk).trans hu), hreader, hgoing⟩
  live k u hu hlive := by
    rw [hq.monitors] at hu
    split at hu
    · rename_i hmk
      obtain rfl := Option.some.inj hu
      have hbefore : w.Live := by
        refine ⟨hq.stopped.symm.trans hlive.going, ?_⟩
        cases hrunning : w.isRunning with
        | true => rfl
        | false => exact (hq.running hrunning).symm.trans hlive.running
      obtain ⟨hheld, hopen⟩ := h.live m w hq.here hbefore
      rw [hq.reader, hq.held, ← hmk]
      exact ⟨hheld, hq.opened _ hopen⟩
    · obtain ⟨hheld, hopen⟩ := h.live k u hu hlive
      exact ⟨(hq.held _).trans hheld, hq.opened _ hopen⟩

theorem isMonitoring_of_live (hheld : held p n = some m) (hw : p.monitor? m = some w)
    (hlive : w.Live) : p.isMonitoring n = true := by
  unfold Plugin.isMonitoring
  unfold held at hheld
  rw [hheld]
  dsimp only
  rw [hw]
  exact hlive.running

/-- **A reader counts as monitored exactly if it has a monitor that is live.** -/
theorem Supervised.isMonitoring_iff (h : Supervised p) (n : Nat) :
    p.isMonitoring n = true ↔ ∃ m w, p.monitor? m = some w ∧ w.reader = n ∧ w.Live := by
  constructor
  · intro hmonitoring
    unfold Plugin.isMonitoring at hmonitoring
    cases hheld : (p.reader? n).bind (·.monitor) with
    | none => simp [hheld] at hmonitoring
    | some m =>
      obtain ⟨w, hw, hreader, hgoing⟩ := h.own n m hheld
      refine ⟨m, w, hw, hreader, hgoing, ?_⟩
      simpa [hheld, hw] using hmonitoring
  · intro hsome
    obtain ⟨m, w, hw, rfl, hlive⟩ := hsome
    exact isMonitoring_of_live (h.live m w hw hlive).1 hw hlive

theorem Supervised.added (h : Supervised p) (hq : Added p q n w) : Supervised q := by
  have hold : ∀ m u, p.monitor? m = some u → q.monitor? m = some u := by
    intro m u hu
    show q.monitors[m]? = some u
    rw [hq.monitors, List.getElem?_append_left (List.getElem?_eq_some_iff.1 hu).1]
    exact hu
  have hnew : q.monitor? p.monitors.length = some w := by
    show q.monitors[p.monitors.length]? = some w
    rw [hq.monitors]
    exact List.getElem?_concat_length
  constructor
  · intro k m hm
    rw [hq.held] at hm
    split at hm
    · rename_i hnk
      obtain rfl := Option.some.inj hm
      exact ⟨w, hnew, hq.reader.trans hnk, hq.going⟩
    · obtain ⟨u, hu, howner⟩ := h.own k m hm
      exact ⟨u, hold m u hu, howner⟩
  · intro m u hu hlive
    have hu' : (p.monitors ++ [w])[m]? = some u := by
      rw [← hq.monitors]
      exact hu
    by_cases hlt : m < p.monitors.length
    · rw [List.getElem?_append_left hlt] at hu'
      obtain ⟨hheld, hopen⟩ := h.live m u hu' hlive
      have hother : n ≠ u.reader := by
        intro heq
        rw [← heq] at hheld
        have hbusy := isMonitoring_of_live hheld hu' hlive
        rw [hq.free] at hbusy
        cases hbusy
      exact ⟨(hq.held _).trans ((if_neg hother).trans hheld), hq.opened _ hopen⟩
    · obtain rfl : m = p.monitors.length := by
        have hlength := (List.getElem?_eq_some_iff.1 hu').1
        rw [List.length_append, List.length_singleton] at hlength
        omega
      obtain rfl := Option.some.inj (hnew.symm.trans hu)
      rw [hq.held, hq.reader, if_pos rfl]
      exact ⟨rfl, hq.opened _ hq.isOpen⟩

/-- **One step keeps it.** -/
theorem supervised_step (h : Supervised p) (hs : Step p ev q) : Supervised q := by
  rcases effect hs with hq | ⟨n, hq⟩ | ⟨m, w, w', hq⟩ | ⟨n, w, hq⟩
  · exact h.alike hq
  · exact h.released hq
  · exact h.tended hq
  · exact h.added hq

theorem supervised_of_trace {ids : Nat → String} {name address : String} {patience limit : Nat}
    {evs : List Event} (h : Trace Step (.new ids name address patience limit) evs p) :
    Supervised p :=
  h.invariant (I := fun _ p => Supervised p) (supervised_new ids name address patience limit)
    fun _ _ _ _ _ hsupervised hs => supervised_step hsupervised hs

end Supervised

/-! ## 2. Monitors only go on -/

/-- A monitor that was told to stop, or has come to its end, stays so. -/
structure Onward (w w' : Monitor) : Prop where
  reader : w'.reader = w.reader
  stopped : w.stopped = true → w'.stopped = true
  ended : w.isRunning = false → w'.isRunning = false

section Onward

variable {p q : Plugin} {ev : Event} {evs : List Event} {n m : Nat} {w : Monitor}

theorem Onward.refl (w : Monitor) : Onward w w := ⟨rfl, id, id⟩

theorem Onward.trans {w' w'' : Monitor} (h : Onward w w') (h' : Onward w' w'') : Onward w w'' :=
  ⟨h'.reader.trans h.reader, h'.stopped ∘ h.stopped, h'.ended ∘ h.ended⟩

theorem Onward.not_live {w' : Monitor} (h : Onward w w') (hw : ¬ w.Live) : ¬ w'.Live := by
  intro hlive
  refine hw ⟨?_, ?_⟩
  · cases hstopped : w.stopped with
    | false => rfl
    | true => exact (h.stopped hstopped).symm.trans hlive.going
  · cases hrunning : w.isRunning with
    | true => rfl
    | false => exact (h.ended hrunning).symm.trans hlive.running

theorem onward_step (hs : Step p ev q) (hw : p.monitor? m = some w) :
    ∃ w', q.monitor? m = some w' ∧ Onward w w' := by
  rcases effect hs with hq | ⟨n, hq⟩ | ⟨k, u, u', hq⟩ | ⟨n, u, hq⟩
  · exact ⟨w, (hq.monitors m).trans hw, .refl w⟩
  · refine ⟨_, (hq.monitors m).trans (congrArg _ hw), ?_⟩
    split
    · exact ⟨rfl, fun _ => rfl, id⟩
    · exact .refl w
  · by_cases hkm : k = m
    · subst hkm
      obtain rfl := Option.some.inj (hq.here.symm.trans hw)
      exact ⟨u', (hq.monitors k).trans (if_pos rfl), hq.reader, fun h => hq.stopped.trans h,
        hq.running⟩
    · exact ⟨w, (hq.monitors m).trans ((if_neg hkm).trans hw), .refl w⟩
  · refine ⟨w, ?_, .refl w⟩
    show q.monitors[m]? = some w
    rw [hq.monitors, List.getElem?_append_left (List.getElem?_eq_some_iff.1 hw).1]
    exact hw

theorem onward_of_trace (h : Trace Step p evs q) (hw : p.monitor? m = some w) :
    ∃ w', q.monitor? m = some w' ∧ Onward w w' := by
  refine h.invariant (I := fun _ q => ∃ w', q.monitor? m = some w' ∧ Onward w w')
    ⟨w, hw, .refl w⟩ fun _ _ _ _ _ hsome hs => ?_
  obtain ⟨w', hw', honward⟩ := hsome
  obtain ⟨w'', hw'', honward'⟩ := onward_step hs hw'
  exact ⟨w'', hw'', honward.trans honward'⟩

/-- **Only a monitor that is live raises an event.** -/
theorem live_of_answered {e : ReaderEvent} (hs : Step p (.answered n m (some e)) q) :
    ∃ w, p.monitor? m = some w ∧ w.reader = n ∧ w.Live := by
  obtain ⟨w, key, answer, hw, hreader, hpolling, hannounced, -⟩ := answered_inv hs
  refine ⟨w, hw, hreader, Plugin.going_of_announcement hw hannounced.symm, ?_⟩
  simp [Monitor.isRunning, hpolling]

/-- **An answer that nobody hears of**: the monitor takes it in, and that is all. -/
def Unheard (p : Plugin) (m : Nat) (event : Option ReaderEvent) (q : Plugin) : Prop :=
  event = none ∧ ∃ answer, q = p.updateMonitor m (Monitor.taken answer)

/-- **Nobody hears of a monitor any more**, whatever it waits for, and whatever happens. -/
def Silent (p : Plugin) (m : Nat) : Prop :=
  ∀ later q, Trace Step p later q → ∀ n event q', Step q (.answered n m event) q' →
    Unheard q m event q'

theorem unheard_of_not_live {event : Option ReaderEvent} (hs : Step p (.answered n m event) q)
    (hnot : ∀ w, p.monitor? m = some w → w.reader = n → ¬ w.Live) : Unheard p m event q := by
  cases event with
  | none => exact ⟨rfl, quiet_of_answered hs⟩
  | some e =>
    obtain ⟨w, hw, hreader, hlive⟩ := live_of_answered hs
    exact absurd hlive (hnot w hw hreader)

/-- A monitor that is not live is silent for good. -/
theorem silent_of_not_live (hw : p.monitor? m = some w) (hnot : ¬ w.Live) : Silent p m := by
  intro later q h n event q' hs
  refine unheard_of_not_live hs fun w' hw' _ => ?_
  obtain ⟨w'', hw'', honward⟩ := onward_of_trace h hw
  obtain rfl := Option.some.inj (hw''.symm.trans hw')
  exact honward.not_live hnot

end Onward

/-! ## 3. Readers that are gone -/

section Gone

variable {p q : Plugin} {ev : Event} {evs : List Event} {n : Nat} {r : Reader}

/-- Monitors are none of the registry's business. -/
theorem plugin_step (hs : Step p ev q) : ∃ ev', Plugin.Step p ev' q := by
  cases hs with
  | lifecycle ev q hs _ => exact ⟨ev, hs⟩
  | start n period now => exact ⟨_, .other _ (Plugin.apart_startMonitor p n period now)⟩
  | stop n => exact ⟨_, .other _ (Plugin.apart_stopMonitor p n)⟩
  | ask => exact ⟨_, .other _ (.of_readers rfl rfl rfl)⟩
  | answer m key answer => exact ⟨_, .other _ (Plugin.apart_polled p m answer)⟩
  | finish => exact ⟨_, .other _ (.of_readers rfl rfl rfl)⟩

theorem plugin_trace (h : Trace Step p evs q) : ∃ evs', Trace Plugin.Step p evs' q := by
  refine h.invariant (I := fun _ q => ∃ evs', Trace Plugin.Step p evs' q) ⟨[], .start⟩
    fun _ _ _ _ _ hsome hs => ?_
  obtain ⟨evs', htrace⟩ := hsome
  obtain ⟨ev', hs'⟩ := plugin_step hs
  exact ⟨evs' ++ [ev'], .snoc _ _ _ _ htrace hs'⟩

/-- **A reader is gone for good.** -/
structure Gone (p : Plugin) (n : Nat) : Prop where
  closed : ∀ later q, Trace Step p later q → ∃ r, q.reader? n = some r ∧ r.closed = true
  /-- it is given no monitor any more -/
  refuses : ∀ later q, Trace Step p later q →
    ∀ period now, (q.startMonitor n period now).1 = false
  /-- nobody hears of any monitor of it -/
  silent : ∀ later q, Trace Step p later q → ∀ m event q', Step q (.answered n m event) q' →
    Unheard q m event q'

theorem closed_of_later (h : Trace Step p evs q) (hr : p.reader? n = some r)
    (hclosed : r.closed = true) : ∃ r', q.reader? n = some r' ∧ r'.closed = true := by
  obtain ⟨evs', htrace⟩ := plugin_trace h
  obtain ⟨r', hr', -, hclosed'⟩ := Plugin.closed_of_trace htrace hr hclosed
  exact ⟨r', hr', hclosed'⟩

theorem not_open (hr : p.reader? n = some r) (hclosed : r.closed = true) : ¬ IsOpen p n := by
  intro hopen
  obtain ⟨r', hr', hopen'⟩ := hopen
  obtain rfl := Option.some.inj (hr.symm.trans hr')
  rw [hclosed] at hopen'
  cases hopen'

/-- **A reader that is closed is gone.** -/
theorem Supervised.gone (h : Supervised p) (hr : p.reader? n = some r) (hclosed : r.closed = true) :
    Gone p n := by
  refine ⟨fun later q hq => closed_of_later hq hr hclosed, fun later q hq period now => ?_,
    fun later q hq m event q' hs => ?_⟩
  · obtain ⟨r', hr', hclosed'⟩ := closed_of_later hq hr hclosed
    rcases start_cases q n period now with ⟨heq, -⟩ | ⟨-, hadded⟩
    · rw [heq]
    · exact absurd hadded.isOpen (not_open hr' hclosed')
  · obtain ⟨r', hr', hclosed'⟩ := closed_of_later hq hr hclosed
    have hsupervised : Supervised q := hq.invariant (I := fun _ q => Supervised q) h
      fun _ _ _ _ _ hsupervised hs => supervised_step hsupervised hs
    refine unheard_of_not_live hs fun w hw hreader hlive => ?_
    rw [← hreader] at hr'
    exact not_open hr' hclosed' (hsupervised.live m w hw hlive).2

end Gone

/-! ## 4. The main statement -/

/-- **The life of the monitors of a plugin.** -/
structure Governed (p : Plugin) : Prop where
  /-- a reader has one monitor at most that runs and was not told to stop -/
  single : ∀ m m' w w', p.monitor? m = some w → p.monitor? m' = some w' → w.reader = w'.reader →
    w.Live → w'.Live → m = m'
  start_iff : ∀ n period now, (p.startMonitor n period now).1 = true ↔
    IsOpen p n ∧ ¬ ∃ m w, p.monitor? m = some w ∧ w.reader = n ∧ w.Live
  /-- with a start that says so the reader has such a monitor; with another one nothing changes -/
  begins : ∀ n period now, (p.startMonitor n period now).1 = true →
    ∃ m w, (p.startMonitor n period now).2.monitor? m = some w ∧ w.reader = n ∧ w.Live
  refused : ∀ n period now, (p.startMonitor n period now).1 = false →
    (p.startMonitor n period now).2 = p
  /-- an answer without an event changes the monitor, and nothing else -/
  quiet : ∀ n m q, Step p (.answered n m none) q →
    ∃ answer, q = p.updateMonitor m (Monitor.taken answer)
  /-- the event of an answer is raised at the reader of the monitor -/
  told : ∀ n m e q, Step p (.answered n m (some e)) q →
    ∃ answer, q = (p.updateMonitor m (Monitor.taken answer)).raiseReader n e
  /-- nobody is told anything of the other steps of monitors -/
  hushed : ∀ ev q, Step p ev q → (∀ ev', ev ≠ .lifecycle ev') →
    (∀ n m e, ev ≠ .answered n m (some e)) → Hushed p q
  /-- nobody hears any more of a monitor that there is when the reader's monitor is told to stop,
  whatever it waits for -/
  stopped : ∀ n result q, Step p (.stopped n result) q →
    ∀ m w, p.monitor? m = some w → w.reader = n → Silent q m
  removed : ∀ ev q name, Step p (.lifecycle ev) q → ev.change? = some (name, .readerDisconnected) →
    ∃ n, p.registry.get? name = some n ∧ Gone q n

section Governed

variable {p q : Plugin} {ev : Event} {evs : List Event} {n m : Nat} {w : Monitor}

theorem Supervised.single (h : Supervised p) {m' : Nat} {w' : Monitor} (hw : p.monitor? m = some w)
    (hw' : p.monitor? m' = some w') (hreader : w.reader = w'.reader) (hlive : w.Live)
    (hlive' : w'.Live) : m = m' := by
  have hheld := (h.live m w hw hlive).1
  rw [hreader, (h.live m' w' hw' hlive').1] at hheld
  exact (Option.some.inj hheld).symm

theorem Supervised.start_iff (h : Supervised p) (n period now : Nat) :
    (p.startMonitor n period now).1 = true ↔
      IsOpen p n ∧ ¬ ∃ m w, p.monitor? m = some w ∧ w.reader = n ∧ w.Live := by
  rw [← h.isMonitoring_iff]
  rcases start_cases p n period now with ⟨heq, hbusy⟩ | ⟨heq, hadded⟩
  · rw [heq]
    exact iff_of_false Bool.false_ne_true fun hfree => hfree.2 (hbusy hfree.1)
  · rw [heq]
    refine iff_of_true rfl ⟨hadded.isOpen, fun hbusy => ?_⟩
    rw [hadded.free] at hbusy
    cases hbusy

theorem begins_startMonitor {period now : Nat} (h : (p.startMonitor n period now).1 = true) :
    ∃ m w, (p.startMonitor n period now).2.monitor? m = some w ∧ w.reader = n ∧ w.Live := by
  rcases start_cases p n period now with ⟨heq, -⟩ | ⟨heq, -⟩
  · rw [heq] at h
    cases h
  · rw [heq]
    exact ⟨p.monitors.length, _, List.getElem?_concat_length, rfl, rfl, rfl⟩

theorem refused_startMonitor {period now : Nat} (h : (p.startMonitor n period now).1 = false) :
    (p.startMonitor n period now).2 = p := by
  rcases start_cases p n period now with ⟨heq, -⟩ | ⟨heq, -⟩
  · rw [heq]
  · rw [heq] at h
    cases h

theorem Supervised.silenced (h : Supervised p) (n : Nat) (hw : p.monitor? m = some w)
    (hreader : w.reader = n) : Silent (p.stopMonitor n).2 m := by
  obtain ⟨w', hw', honward⟩ := onward_step (.stop n) hw
  have hnot := h.not_live (released_stopMonitor p n) hw' (honward.reader.trans hreader)
  exact silent_of_not_live hw' hnot

/-- **Monitors come and go as they should**: whenever readers are created and removed, monitors are
started and stopped, and polls begin and end, in any order. -/
theorem governed_of_trace {ids : Nat → String} {name address : String} {patience limit : Nat}
    (htrace : Trace Step (.new ids name address patience limit) evs p) : Governed p := by
  have h := supervised_of_trace htrace
  refine ⟨fun m m' w w' => h.single, h.start_iff, fun n period now => begins_startMonitor,
    fun n period now => refused_startMonitor, fun n m q => quiet_of_answered,
    fun n m e q => told_of_answered, fun ev q => hushed_step,
    fun n result q hs m w hw hreader => ?_, fun ev q name' hs hchange => ?_⟩
  · cases hs with
    | stop => exact h.silenced n hw hreader
  · obtain ⟨evs', htrace'⟩ := plugin_trace htrace
    cases hs with
    | lifecycle _ _ hs' hother =>
      obtain ⟨n, r, htaken, -, hr, hclosed, -⟩ :=
        (Plugin.orderly_of_trace htrace').freed hs' hchange
      exact ⟨n, htaken, (supervised_step h (.lifecycle ev q hs' hother)).gone hr hclosed⟩

end Governed

end Presence

end CardLink
