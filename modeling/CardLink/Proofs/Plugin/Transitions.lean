import CardLink.Proofs.Plugin.Watching
import CardLink.Proofs.Reader.Changes

/-!
# What a presence monitor reports

A monitor reports that a card came or went whenever an answer differs from the one before. A poll
that fails brings nothing and leaves the last answer as it was; an outcome that comes after the
monitor was told to stop brings nothing, either.

* `Presence.Reporting`: the invariant; `reporting_step` for one step, `Reporting.trace` for a run.
* `Presence.exists_heeded`: any row of outcomes may come.
* **`Presence.reported_of_trace`**: the reports of one monitor along a run.

NOT here: when polls are due, and what the calls of polls do. For the tasks that run monitors see
`CardLink.Proofs.Network.Supervision`.
-/

namespace CardLink

namespace Presence

open Monitor

/-! ## 1. Along a run -/

/-- **What is known of a monitor after these moments.** -/
structure Reporting (evs : List Moment) (p : Plugin) (m : Nat) (session : Session) (w : Monitor) :
    Prop where
  here : p.monitor? m = some w
  reader : ∃ r, p.reader? w.reader = some r ∧ r.session = session
  stopped : w.stopped = true ↔ .told ∈ evs
  last : w.last = latest none (heeded evs)
  events : (raised evs).map (·.eventType) = changes none (heeded evs)
  named : ∀ e ∈ raised evs,
    e = .plain e.pluginName (ReaderName.make session.native session.slave) e.eventType

section Runs

variable {evs : List Moment} {ev : Moment} {p q : Plugin} {m : Nat} {session : Session}
  {w w' : Monitor} {outcome : Option Bool}

/-- **An answer is announced if it differs from the one before.** -/
theorem announcement_eq {present : Bool} {r : Reader} (hw : p.monitor? m = some w)
    (hgoing : w.stopped = false) (hr : p.reader? w.reader = some r) :
    p.announcement m (some present) =
      (change w.last present).map fun type => .plain r.pluginName r.name type := by
  unfold Plugin.announcement
  rw [hw]
  dsimp only
  rw [hgoing, hr]
  cases change w.last present <;> rfl

theorem announcement_none (p : Plugin) (m : Nat) : p.announcement m none = none := by
  unfold Plugin.announcement
  cases p.monitor? m <;> rfl

theorem announcement_of_told (hw : p.monitor? m = some w) (htold : w.stopped = true) :
    p.announcement m outcome = none := by
  cases hsome : p.announcement m outcome with
  | none => rfl
  | some e =>
    have hgoing := Plugin.going_of_announcement hw hsome
    rw [htold] at hgoing
    cases hgoing

theorem reader_taken (outcome : Option Bool) (w : Monitor) : (w.taken outcome).reader = w.reader := by
  unfold Monitor.taken
  repeat' split
  all_goals rfl

theorem stopped_taken (outcome : Option Bool) (w : Monitor) :
    (w.taken outcome).stopped = w.stopped := by
  unfold Monitor.taken
  repeat' split
  all_goals rfl

theorem last_taken_of_told (htold : w.stopped = true) : (w.taken outcome).last = w.last := by
  cases outcome with
  | none => rfl
  | some present =>
    show (if w.stopped = true then w.finish else _).last = w.last
    rw [if_pos htold]
    rfl

theorem last_taken_some {present : Bool} (hgoing : w.stopped = false) :
    (w.taken (some present)).last = some present := by
  show (if w.stopped = true then w.finish else _).last = some present
  rw [if_neg (by simp [hgoing])]
  rfl

/-- A moment that is not about the answers of the monitor. -/
theorem Reporting.overlooked (h : Reporting evs p m session w) (hq : q.monitor? m = some w')
    (hw : Overlooked w w')
    (hreader : ∀ n r, p.reader? n = some r → ∃ r', q.reader? n = some r' ∧ r'.session = r.session) :
    Reporting (evs ++ [notice q m]) q m session w' := by
  have hnotice := notice_eq hq
  have hheeded : heeded (evs ++ [notice q m]) = heeded evs := by
    refine heeded_snoc_of_idle fun outcome event heq => ?_
    rw [hnotice] at heq
    split at heq
    · cases heq
    · cases heq
  have hraised : raised (evs ++ [notice q m]) = raised evs := by
    rw [raised_snoc, hnotice]
    split
    · exact List.append_nil _
    · exact List.append_nil _
  refine ⟨hq, ?_, ?_, ?_, ?_, ?_⟩
  · obtain ⟨r, hr, hsession⟩ := h.reader
    obtain ⟨r', hr', hsession'⟩ := hreader _ r hr
    exact ⟨r', by rw [hw.reader]; exact hr', hsession'.trans hsession⟩
  · rw [List.mem_append, List.mem_singleton, ← h.stopped, hnotice]
    cases hstopped : w'.stopped with
    | true => simp
    | false =>
      have hgoing : w.stopped ≠ true := by
        intro htold
        rw [hw.stopped htold] at hstopped
        cases hstopped
      simp [hgoing]
  · rw [hw.last, hheeded]
    exact h.last
  · rw [hraised, hheeded]
    exact h.events
  · rw [hraised]
    exact h.named

/-- An outcome concerns neither the reader nor whether the monitor was told to stop. -/
theorem Reporting.of_took (h : Reporting evs p m session w) {key : Nat}
    (hpolling : w.state = .polling key) {event : Option ReaderEvent}
    (hlast : (w.taken outcome).last = latest none (heeded (evs ++ [.took outcome event])))
    (hevents : (raised (evs ++ [.took outcome event])).map (·.eventType) =
      changes none (heeded (evs ++ [.took outcome event])))
    (hnamed : ∀ e, event = some e →
      e = .plain e.pluginName (ReaderName.make session.native session.slave) e.eventType) :
    Reporting (evs ++ [.took outcome event]) (p.polled m outcome) m session (w.taken outcome) where
  here := ((tended_polled h.here hpolling).monitors m).trans (if_pos rfl)
  reader := by
    obtain ⟨r, hr, hsession⟩ := h.reader
    obtain ⟨r', hr', hstanding⟩ := (Plugin.apart_polled p m outcome).symm.reader hr
    refine ⟨r', ?_, (congrArg Prod.fst hstanding).trans hsession⟩
    rw [reader_taken]
    exact hr'
  stopped := by
    rw [stopped_taken, h.stopped]
    simp
  last := hlast
  events := hevents
  named := by
    rw [raised_snoc]
    intro e he
    rcases List.mem_append.1 he with he | he
    · exact h.named e he
    · exact hnamed e (Option.mem_toList.1 he)

/-- **The outcome of a poll.** -/
theorem Reporting.took (h : Reporting evs p m session w) {key : Nat}
    (hpolling : w.state = .polling key) (outcome : Option Bool) :
    Reporting (evs ++ [.took outcome (p.announcement m outcome)]) (p.polled m outcome) m session
      (w.taken outcome) := by
  by_cases htold : w.stopped = true
  · -- it comes too late
    have hheeded : heeded (evs ++ [.took outcome none]) = heeded evs :=
      heeded_snoc_of_told (h.stopped.1 htold)
    rw [announcement_of_told h.here htold]
    refine h.of_took hpolling ?_ ?_ fun e he => by cases he
    · rw [last_taken_of_told htold, hheeded]
      exact h.last
    · rw [raised_snoc, hheeded, ← h.events]
      exact congrArg _ (List.append_nil _)
  · have hgoing : w.stopped = false := Bool.eq_false_iff.2 htold
    have hheeded : ∀ event, heeded (evs ++ [.took outcome event]) = heeded evs ++ [outcome] :=
      fun event => heeded_snoc_took (mt h.stopped.2 htold)
    cases outcome with
    | none =>
      rw [announcement_none]
      refine h.of_took hpolling ?_ ?_ fun e he => by cases he
      · rw [hheeded, latest_snoc_none]
        exact h.last
      · rw [raised_snoc, hheeded, changes_snoc_none, ← h.events]
        exact congrArg _ (List.append_nil _)
    | some present =>
      obtain ⟨r, hr, hsession⟩ := h.reader
      have hname : r.name = ReaderName.make session.native session.slave := by
        rw [Reader.name, hsession]
      rw [announcement_eq h.here hgoing hr, hname]
      refine h.of_took hpolling ?_ ?_ fun e he => ?_
      · rw [hheeded, last_taken_some hgoing, latest_snoc]
      · rw [hheeded, raised_snoc, List.map_append, h.events, changes_snoc, ← h.last]
        cases change w.last present <;> rfl
      · obtain ⟨type, -, rfl⟩ := Option.map_eq_some_iff.1 he
        rfl

/-- **One step goes on with the report.** -/
theorem reporting_step (h : Reporting evs p m session w) (hs : Watch m p ev q) :
    ∃ w', Reporting (evs ++ [ev]) q m session w' := by
  cases hs with
  | took key outcome u hu hpolling =>
    obtain rfl := Option.some.inj (hu.symm.trans h.here)
    exact ⟨_, h.took hpolling outcome⟩
  | other ev q hs hothers =>
    obtain ⟨w', hq, hw⟩ := overlooked_step hs hothers h.here
    obtain ⟨ev', hs'⟩ := plugin_step hs
    exact ⟨w', h.overlooked hq hw fun n r => session_step hs'⟩
  | add n period now =>
    exact ⟨w, h.overlooked (monitor?_addMonitor h.here n period now) (.refl w)
      fun n r hr => ⟨r, hr, rfl⟩⟩
  | stop k =>
    obtain ⟨w', hq, hw⟩ := overlooked_update (k := k) (f := Monitor.stop) h.here
      fun _ => ⟨rfl, rfl, fun _ => rfl⟩
    exact ⟨w', h.overlooked hq hw fun n r hr => ⟨r, hr, rfl⟩⟩

theorem reporting_new {n period now : Nat} {r : Reader}
    (hm : p.monitor? m = some (.new n period now)) (hr : p.reader? n = some r) :
    Reporting [] p m r.session (.new n period now) where
  here := hm
  reader := ⟨r, hr, rfl⟩
  stopped := iff_of_false Bool.false_ne_true List.not_mem_nil
  last := rfl
  events := rfl
  named _ he := absurd he List.not_mem_nil

theorem Reporting.trace {evs' : List Moment} (h : Reporting evs p m session w)
    (ht : Trace (Watch m) p evs' q) : ∃ w', Reporting (evs ++ evs') q m session w' := by
  refine ht.invariant (I := fun evs' q => ∃ w', Reporting (evs ++ evs') q m session w')
    ⟨w, by rw [List.append_nil]; exact h⟩ fun evs' t ev u _ hsome hs => ?_
  obtain ⟨w₁, h₁⟩ := hsome
  rw [← List.append_assoc]
  exact reporting_step h₁ hs

/-- **Any row of outcomes may come to a monitor** that waits for its next poll. -/
theorem exists_heeded {due : Nat} (hw : p.monitor? m = some w) (hidle : w.state = .idle due)
    (hgoing : w.stopped = false) (outcomes : List (Option Bool)) :
    ∃ evs q, Trace (Watch m) p evs q ∧ heeded evs = outcomes := by
  induction outcomes generalizing p w due with
  | nil => exact ⟨[], p, .start, rfl⟩
  | cons outcome rest ih =>
    have hasks : Watch m p _ (p.updateMonitor m (·.begin due due 0)) :=
      .other _ _ (.ask m due due 0 w hw hidle hgoing) fun _ _ h => Event.noConfusion h
    have hpolls : (p.updateMonitor m (·.begin due due 0)).monitor? m = some (w.begin due due 0) := by
      rw [Plugin.monitor?_updateMonitor, hw]
      exact congrArg some (if_pos rfl)
    have htakes := Watch.took 0 outcome _ hpolls rfl
    have hrests : ((p.updateMonitor m (·.begin due due 0)).polled m outcome).monitor? m =
        some ((w.begin due due 0).taken outcome) :=
      ((tended_polled hpolls rfl).monitors m).trans (if_pos rfl)
    have hwaits : ∃ due', ((w.begin due due 0).taken outcome).state = .idle due' := by
      cases outcome with
      | none => exact ⟨_, rfl⟩
      | some present =>
        refine ⟨Monitor.nextDue w.period due due, ?_⟩
        show (if w.stopped = true then (w.begin due due 0).finish else _).state = _
        rw [if_neg (by simp [hgoing])]
        rfl
    obtain ⟨due', hwaits⟩ := hwaits
    obtain ⟨evs, q, htrace, hheeded⟩ :=
      ih hrests hwaits ((stopped_taken outcome _).trans hgoing)
    have hquiet : notice (p.updateMonitor m (·.begin due due 0)) m = .unnoticed :=
      (notice_eq hpolls).trans (if_neg (by simp [Monitor.begin, hgoing]))
    refine ⟨_, q, (Trace.snoc _ _ _ _ (.snoc [] _ _ _ .start hasks) htakes).append htrace, ?_⟩
    rw [hquiet, ← hheeded]
    rfl

end Runs

/-! ## 2. The main statement -/

/-- **What one monitor reports along a run**, for a reader of this name. -/
structure Reported (evs : List Moment) (p : Plugin) (m : Nat) (name : String) : Prop where
  /-- the events tell of the changes in the outcomes that were heeded -/
  transitions : (raised evs).map (·.eventType) = Monitor.transitions (heeded evs)
  named : ∀ e ∈ raised evs, e = .plain e.pluginName name e.eventType
  /-- a card comes first, and then cards come and go by turns -/
  alternate : ∀ i e, (raised evs)[i]? = some e →
    e.eventType = if i % 2 = 0 then .inserted else .removed
  /-- one card more has come than gone if the last answer was that one is there, and none else -/
  balance : ((raised evs).map (·.eventType)).count .inserted =
    ((raised evs).map (·.eventType)).count .removed +
      if (answers (heeded evs)).getLast? = some true then 1 else 0
  /-- a poll that fails brings no event, and the monitor still knows the last answer -/
  failed : ∀ event q, Watch m p (.took none event) q → event = none ∧
    ∃ w w', p.monitor? m = some w ∧ q.monitor? m = some w' ∧ w'.last = w.last ∧
      w.last = (answers (heeded evs)).getLast?
  /-- an outcome without an event changes the monitor, and nothing else: nobody is told anything -/
  quiet : ∀ outcome q, Watch m p (.took outcome none) q →
    q = p.updateMonitor m (Monitor.taken outcome)
  /-- an event is raised at the reader of the monitor, and nothing else is told -/
  raisedThere : ∀ outcome e q, Watch m p (.took outcome (some e)) q →
    ∃ w, p.monitor? m = some w ∧
      q = (p.updateMonitor m (Monitor.taken outcome)).raiseReader w.reader e
  /-- nobody is told anything of the other steps of monitors -/
  hushed : ∀ ev q, Step p ev q → (∀ ev', ev ≠ .lifecycle ev') →
    (∀ n k e, ev ≠ .answered n k (some e)) → Hushed p q
  /-- the monitor is told to stop when its reader stops it -/
  stops : ∀ n result q, Step p (.stopped n result) q → held p n = some m → notice q m = .told
  /-- and when it is stopped apart from its reader -/
  stopsApart : notice (p.updateMonitor m Monitor.stop) m = .told

section Reported

variable {evs : List Moment} {p q : Plugin} {m : Nat} {session : Session} {w : Monitor}
  {outcome : Option Bool} {event : Option ReaderEvent}

/-- What a monitor that takes in an outcome does. -/
theorem took_inv (hs : Watch m p (.took outcome event) q) :
    event = p.announcement m outcome ∧ q = p.polled m outcome ∧
      ∃ w key, p.monitor? m = some w ∧ w.state = .polling key := by
  have hquiet : ∀ (t : Plugin), Moment.took outcome event ≠ notice t m := by
    intro t heq
    unfold notice at heq
    split at heq
    · cases heq
    · cases heq
  generalize hev : Moment.took outcome event = ev at hs
  cases hs with
  | took key outcome' w hw hpolling =>
    obtain ⟨rfl, rfl⟩ := Moment.took.inj hev
    exact ⟨rfl, rfl, w, key, hw, hpolling⟩
  | other => exact absurd hev (hquiet _)
  | add => exact absurd hev (hquiet _)
  | stop => exact absurd hev (hquiet _)

theorem Reporting.reported (h : Reporting evs p m session w) :
    Reported evs p m (ReaderName.make session.native session.slave) := by
  have hlast : w.last = (answers (heeded evs)).getLast? := by
    rw [h.last, latest, Option.or_none]
  have htransitions : (raised evs).map (·.eventType) = Monitor.transitions (heeded evs) := by
    rw [h.events, changes_eq_edges]
    rfl
  refine ⟨htransitions, h.named, fun i e he => ?_, ?_, fun event q hs => ?_,
    fun outcome q hs => ?_, fun outcome e q hs => ?_, fun ev q => hushed_step,
    fun n result q hs hheld => ?_, ?_⟩
  · have htype : (Monitor.transitions (heeded evs))[i]? = some e.eventType := by
      rw [← htransitions, List.getElem?_map, he]
      rfl
    have hparity := edges_alternate htype
    simpa using hparity
  · have hbalance := balance_edges false (answers (heeded evs))
    rw [htransitions]
    unfold Monitor.transitions
    cases hl : (answers (heeded evs)).getLast? with
    | none => simpa [hl] using hbalance
    | some present => cases present <;> simpa [hl] using hbalance
  · obtain ⟨rfl, rfl, u, key, hu, hpolling⟩ := took_inv hs
    obtain rfl := Option.some.inj (hu.symm.trans h.here)
    exact ⟨announcement_none p m, u, u.rest, hu,
      ((tended_polled hu hpolling).monitors m).trans (if_pos rfl), rfl, hlast⟩
  · obtain ⟨hnone, rfl, u, key, hu, -⟩ := took_inv hs
    rw [Plugin.polled_eq hu, ← hnone]
  · obtain ⟨he, rfl, u, key, hu, -⟩ := took_inv hs
    refine ⟨u, hu, ?_⟩
    rw [Plugin.polled_eq hu, ← he]
  · cases hs with
    | stop =>
      have hstopped : (p.stopMonitor n).2.monitor? m = some w.stop := by
        rw [(released_stopMonitor p n).monitors, h.here]
        exact congrArg some (if_pos hheld)
      exact notice_eq hstopped
  · have hstopped : (p.updateMonitor m Monitor.stop).monitor? m = some w.stop := by
      rw [Plugin.monitor?_updateMonitor, h.here]
      exact congrArg some (if_pos rfl)
    exact notice_eq hstopped

/-- **A monitor reports the changes in what it is answered**, whenever it is told to stop, and
whatever else is done to the plugin meanwhile. -/
theorem reported_of_trace {n period now : Nat} {r : Reader}
    (hm : p.monitor? m = some (.new n period now)) (hr : p.reader? n = some r)
    (ht : Trace (Watch m) p evs q) : Reported evs q m r.name := by
  obtain ⟨w, hreporting⟩ := (reporting_new hm hr).trace ht
  exact hreporting.reported

end Reported

end Presence

end CardLink
