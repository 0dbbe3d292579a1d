import CardLink.Proofs.Plugin.Monitoring

/-!
# A plugin as one of its monitors sees it

A monitor takes in the outcomes of its polls. Of all else that is done to its plugin it notices only
the order to stop.

* `Presence.Watch`: one step, and what the monitor notices of it.
* `Presence.heeded`, `Presence.raised`: the outcomes that count, and the events that come of them.
* **`Presence.watch_of_step`**: nothing that is done to a plugin is left out.
* **`Presence.overlooked_step`**: what others do leaves the last answer alone.
-/

namespace CardLink

namespace Presence

/-! ## 1. Moments -/

/-- What a monitor notices of a step. -/
inductive Moment where
  /-- by now it was told to stop -/
  | told
  /-- it took in the outcome of a poll, the answer or a failure, and raised an event or did not -/
  | took (outcome : Option Bool) (event : Option ReaderEvent)
  | unnoticed

/-- What a monitor notices while it takes in nothing: the order to stop, if there is one. -/
def notice (q : Plugin) (m : Nat) : Moment :=
  if (q.monitor? m).any (·.stopped) then .told else .unnoticed

/-- **One step of a plugin, as the monitor with this number sees it.** A monitor may be started and
stopped apart from its reader, too. -/
inductive Watch (m : Nat) (p : Plugin) : Moment → Plugin → Prop where
  | took (key : Nat) (outcome : Option Bool) (w : Monitor) (hw : p.monitor? m = some w)
      (hpolling : w.state = .polling key) :
      Watch m p (.took outcome (p.announcement m outcome)) (p.polled m outcome)
  | other (ev : Event) (q : Plugin) (hs : Step p ev q)
      (hothers : ∀ n event, ev ≠ .answered n m event) :
      Watch m p (notice q m) q
  | add (n period now : Nat) :
      Watch m p (notice (p.addMonitor n period now) m) (p.addMonitor n period now)
  | stop (k : Nat) :
      Watch m p (notice (p.updateMonitor k Monitor.stop) m) (p.updateMonitor k Monitor.stop)

/-- The outcomes that a monitor takes in before it is told to stop. -/
def heeded : List Moment → List (Option Bool)
  | [] => []
  | .told :: _ => []
  | .took outcome _ :: rest => outcome :: heeded rest
  | .unnoticed :: rest => heeded rest

/-- The event of a moment. -/
def Moment.event? : Moment → Option ReaderEvent
  | .took _ event => event
  | _ => none

/-- The events that a monitor raises. -/
def raised (evs : List Moment) : List ReaderEvent := evs.filterMap Moment.event?

section Moments

variable {evs : List Moment} {outcome : Option Bool} {event : Option ReaderEvent} {ev : Moment}

/-- Nothing is heeded any more. -/
theorem heeded_snoc_of_told (h : Moment.told ∈ evs) : heeded (evs ++ [ev]) = heeded evs := by
  induction evs with
  | nil => cases h
  | cons first rest ih =>
    cases first with
    | told => rfl
    | took outcome event =>
      have hrest : Moment.told ∈ rest := by simpa using h
      exact congrArg (outcome :: ·) (ih hrest)
    | unnoticed =>
      have hrest : Moment.told ∈ rest := by simpa using h
      exact ih hrest

theorem heeded_snoc_took (h : Moment.told ∉ evs) :
    heeded (evs ++ [.took outcome event]) = heeded evs ++ [outcome] := by
  induction evs with
  | nil => rfl
  | cons first rest ih =>
    have hrest : Moment.told ∉ rest := fun hmem => h (List.mem_cons_of_mem _ hmem)
    cases first with
    | told => exact absurd List.mem_cons_self h
    | took outcome' event' => exact congrArg (outcome' :: ·) (ih hrest)
    | unnoticed => exact ih hrest

/-- A moment without an outcome adds nothing. -/
theorem heeded_snoc_of_idle (hev : ∀ outcome event, ev ≠ .took outcome event) :
    heeded (evs ++ [ev]) = heeded evs := by
  induction evs with
  | nil =>
    cases ev with
    | took outcome event => exact absurd rfl (hev outcome event)
    | told => rfl
    | unnoticed => rfl
  | cons first rest ih =>
    cases first with
    | told => rfl
    | took outcome event => exact congrArg (outcome :: ·) ih
    | unnoticed => exact ih

theorem notice_eq {q : Plugin} {m : Nat} {w : Monitor} (hw : q.monitor? m = some w) :
    notice q m = if w.stopped then .told else .unnoticed := by
  rw [notice, hw]
  rfl

theorem raised_snoc (evs : List Moment) (ev : Moment) :
    raised (evs ++ [ev]) = raised evs ++ ev.event?.toList := by
  unfold raised
  rw [List.filterMap_append]
  cases hev : ev.event? <;> simp [hev]

end Moments

/-! ## 2. Steps -/

section Steps

variable {p q : Plugin} {ev : Event} {m : Nat} {w : Monitor}

/-- **Nothing that is done to a plugin is left out.** -/
theorem watch_of_step (m : Nat) (hs : Step p ev q) : ∃ moment, Watch m p moment q := by
  by_cases hown : ∃ n event, ev = .answered n m event
  · obtain ⟨n, event, rfl⟩ := hown
    generalize hev : Event.answered n m event = ev at hs
    cases hs with
    | answer m' key outcome w hw hpolling =>
      obtain ⟨-, rfl, -⟩ := Event.answered.inj hev
      exact ⟨_, .took key outcome w hw hpolling⟩
    | lifecycle => cases hev
    | start => cases hev
    | stop => cases hev
    | ask => cases hev
    | finish => cases hev
  · exact ⟨_, .other ev q hs fun n event heq => hown ⟨n, event, heq⟩⟩

theorem watch_of_trace (m : Nat) {evs : List Event} (h : Trace Step p evs q) :
    ∃ moments, Trace (Watch m) p moments q := by
  refine h.invariant (I := fun _ q => ∃ moments, Trace (Watch m) p moments q) ⟨[], .start⟩
    fun _ _ _ _ _ hsome hs => ?_
  obtain ⟨moments, htrace⟩ := hsome
  obtain ⟨moment, hmoment⟩ := watch_of_step m hs
  exact ⟨_, .snoc _ _ _ _ htrace hmoment⟩

/-- What is kept of a monitor as long as it takes in no outcome. -/
structure Overlooked (w w' : Monitor) : Prop where
  reader : w'.reader = w.reader
  last : w'.last = w.last
  stopped : w.stopped = true → w'.stopped = true

theorem Overlooked.refl (w : Monitor) : Overlooked w w := ⟨rfl, rfl, id⟩

/-- A change of one monitor. -/
theorem overlooked_update {k : Nat} {f : Monitor → Monitor} (hw : p.monitor? m = some w)
    (hf : k = m → Overlooked w (f w)) :
    ∃ w', (p.updateMonitor k f).monitor? m = some w' ∧ Overlooked w w' := by
  refine ⟨_, (Plugin.monitor?_updateMonitor p k m f).trans (congrArg _ hw), ?_⟩
  split
  · rename_i hkm
    exact hf hkm
  · exact .refl w

/-- A reader that lets go of its monitor. -/
theorem Released.overlooked {n : Nat} (h : Released p q n) (hw : p.monitor? m = some w) :
    ∃ w', q.monitor? m = some w' ∧ Overlooked w w' := by
  refine ⟨_, (h.monitors m).trans (congrArg _ hw), ?_⟩
  split
  · exact ⟨rfl, rfl, fun _ => rfl⟩
  · exact .refl w

theorem monitor?_addMonitor (hw : p.monitor? m = some w) (n period now : Nat) :
    (p.addMonitor n period now).monitor? m = some w := by
  show (p.monitors ++ [_])[m]? = some w
  rw [List.getElem?_append_left (List.getElem?_eq_some_iff.1 hw).1]
  exact hw

/-- **What others do is overlooked**, but for the order to stop. -/
theorem overlooked_step (hs : Step p ev q) (hothers : ∀ n event, ev ≠ .answered n m event)
    (hw : p.monitor? m = some w) : ∃ w', q.monitor? m = some w' ∧ Overlooked w w' := by
  cases hs with
  | lifecycle ev q hs hother =>
    rcases Plugin.step_cases hs with ⟨-, rfl⟩ | ⟨native, slave, mode, options, -, -, rfl⟩ |
      ⟨native, slave, n, -, -, rfl⟩ | ⟨rfl, -⟩
    · exact ⟨w, hw, .refl w⟩
    · exact ⟨w, hw, .refl w⟩
    · exact (released_close p n).overlooked hw
    · exact ⟨w, ((hother rfl).monitors m).trans hw, .refl w⟩
  | start n period now =>
    rcases start_cases p n period now with ⟨heq, -⟩ | ⟨heq, -⟩
    · rw [heq]
      exact ⟨w, hw, .refl w⟩
    · rw [heq]
      exact ⟨w, monitor?_addMonitor hw n period now, .refl w⟩
  | stop n => exact (released_stopMonitor p n).overlooked hw
  | ask k due now key u hu hidle hgoing =>
    exact overlooked_update hw fun _ => ⟨rfl, rfl, id⟩
  | answer k key outcome u hu hpolling =>
    have hkm : k ≠ m := by
      rintro rfl
      exact hothers _ _ rfl
    exact ⟨w, ((tended_polled hu hpolling).monitors m).trans ((if_neg hkm).trans hw), .refl w⟩
  | finish k u hu => exact overlooked_update hw fun _ => ⟨rfl, rfl, id⟩

/-- A reader keeps its session. -/
theorem session_step {ev : Plugin.Event} {n : Nat} {r : Reader} (hs : Plugin.Step p ev q)
    (hr : p.reader? n = some r) :
    ∃ r', q.reader? n = some r' ∧ r'.session = r.session := by
  rcases Plugin.step_cases hs with ⟨-, rfl⟩ | ⟨native, slave, mode, options, -, -, rfl⟩ |
    ⟨native, slave, k, -, -, rfl⟩ | ⟨-, happart⟩
  · exact ⟨r, hr, rfl⟩
  · exact ⟨r, Plugin.reader?_enroll_old hr, rfl⟩
  · obtain ⟨r', hr', hsession, -⟩ :=
      Plugin.unregister_of_reader hr k (ReaderName.make native slave)
    exact ⟨r', hr', hsession⟩
  · obtain ⟨r', hr', hstanding⟩ := happart.symm.reader hr
    exact ⟨r', hr', congrArg Prod.fst hstanding⟩

end Steps

end Presence

end CardLink
