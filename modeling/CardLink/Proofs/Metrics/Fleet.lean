import Mathlib.Data.List.DropRight
import CardLink.Proofs.Engine.Budget
import CardLink.Proofs.Metrics.Histogram

/-!
# Metrics that engines share

Any number of engines count their calls in the same metrics, which others count their traffic in and
which may be reset at any time. What the metrics say about calls is read off the events since the
last reset: which calls returned, and with what; and how long each took, from its start to its
return, though it may have been started before the reset.

* `Engine.StepAt`: one step of an engine, with the time at which it is made.
* `Fleet.Step`: one step of the engines and their metrics.
* `Fleet.completed`, `Fleet.timedOut`, `Fleet.trips`: what happened, from the events alone.
* `Fleet.Timed`, `Fleet.Metered`: the invariants, of the calls under way and of the metrics.
* **`Fleet.accounts_of_trace`**: the counters and their text, after every run.

NOT here: times that go forward. A clock that went back makes a round trip of no length. For the calls
of a network see `CardLink.Proofs.Network.Metering`.
-/

namespace CardLink

/-! ## 1. Steps with their times -/

namespace Engine

/-- **One step of an engine at this time.** -/
inductive StepAt (now : Nat) (e : Engine) : Event → Engine → Prop where
  | start (id action : String) (patience : Nat) :
      StepAt now e (.started id (e.start id action patience now).1)
        (e.start id action patience now).2
  | sent (c : Call) (hc : c ∈ e.calls) (hp : c.phase = .sending) :
      StepAt now e (.sent c.key) (e.sent c.key now)
  | unsent (c : Call) (reason : TransportError) (hc : c ∈ e.calls) (hp : c.phase = .sending) :
      StepAt now e (.ended c (.unsent reason)) (e.release c.key)
  | receive (r : Envelope) : StepAt now e (.received r (e.accept r).1) (e.accept r).2
  | finish (c : Call) (ending : CallEnding) (hc : c ∈ e.calls) (he : c.ending? now = some ending) :
      StepAt now e (.ended c ending) (e.release c.key)
  | drop (c : Call) (hc : c ∈ e.calls) : StepAt now e (.dropped c) (e.release c.key)

/-- What a step counts, if so many nanoseconds pass between one time and the next one. -/
def Event.count (tick : Nat) : Event → Metrics → Metrics
  | .ended _ ending => ending.count tick
  | _ => id

/-- The calls under way: the key of each, and when it was started. -/
def starts (e : Engine) : List (Nat × Nat) := e.calls.map fun c => (c.key, c.started)

section StepAt

variable {now : Nat} {e e' : Engine} {ev : Event} {c : Call} {ending : CallEnding}

theorem StepAt.step (h : StepAt now e ev e') : Step e ev e' := by
  cases h with
  | start id action patience => exact .start id action patience now
  | sent c hc hp => exact .sent c now hc hp
  | unsent c reason hc hp => exact .unsent c reason hc hp
  | receive r => exact .receive r
  | finish c ending hc he => exact .finish c now ending hc he
  | drop c hc => exact .drop c hc

theorem starts_updateCall (e : Engine) (key : Nat) {f : Call → Call}
    (hkey : ∀ c, (f c).key = c.key) (hstarted : ∀ c, (f c).started = c.started) :
    (e.updateCall key f).starts = e.starts := by
  show (e.calls.map fun c => if c.key = key then f c else c).map _ = e.calls.map _
  rw [List.map_map]
  refine List.map_congr_left fun c _ => ?_
  show ((if c.key = key then f c else c).key, (if c.key = key then f c else c).started) = _
  split
  · rw [hkey, hstarted]
  · rfl

theorem starts_withdrawing (e : Engine) (c : Call) : (e.withdrawing c).starts ⊆ e.starts := by
  intro p hp
  obtain ⟨d, hd, rfl⟩ := List.mem_map.1 hp
  obtain ⟨d', hd', -, rfl⟩ := mem_withdrawing.1 hd
  refine List.mem_map.2 ⟨d', hd', ?_⟩
  unfold bereft
  split
  · rfl
  · rfl

/-- **What a step makes of the calls under way**: it starts one now, under the next key, or it starts
none. -/
theorem StepAt.starts (h : Sound e) (hs : StepAt now e ev e') :
    (ev.admitted? = some e.nextKey ∧ e'.nextKey = e.nextKey + 1 ∧
      e'.starts = e.starts ++ [(e.nextKey, now)]) ∨
    (ev.admitted? = none ∧ e'.nextKey = e.nextKey ∧ e'.starts ⊆ e.starts) := by
  cases hs with
  | start id action patience =>
    rcases start_cases e id action patience now with ⟨-, heq⟩ | ⟨-, -, heq⟩ | ⟨-, -, heq⟩
    · rw [heq]; exact .inr ⟨rfl, rfl, List.Subset.refl _⟩
    · rw [heq]; exact .inr ⟨rfl, rfl, List.Subset.refl _⟩
    · rw [heq]; exact .inl ⟨rfl, rfl, List.map_append⟩
  | sent c hc hp =>
    refine .inr ⟨rfl, rfl, ?_⟩
    rw [Engine.sent, starts_updateCall]
    · exact List.Subset.refl _
    · exact fun _ => rfl
    · exact fun _ => rfl
  | unsent c reason hc hp =>
    rw [h.release_of_mem hc]
    exact .inr ⟨rfl, rfl, starts_withdrawing e c⟩
  | receive r =>
    rcases accept_cases e r with ⟨id, key, -, -, heq⟩ | ⟨-, heq⟩
    · refine .inr ⟨rfl, ?_, ?_⟩
      · rw [heq]; rfl
      · rw [heq, delivering, starts_updateCall]
        · exact List.Subset.refl _
        · exact fun _ => rfl
        · exact fun _ => rfl
    · rw [heq]; exact .inr ⟨rfl, rfl, List.Subset.refl _⟩
  | finish c ending hc he =>
    rw [h.release_of_mem hc]
    exact .inr ⟨rfl, rfl, starts_withdrawing e c⟩
  | drop c hc =>
    rw [h.release_of_mem hc]
    exact .inr ⟨rfl, rfl, starts_withdrawing e c⟩

/-- **Only a call under way returns**, and one with a response took the time from its start. -/
theorem StepAt.ended (h : StepAt now e (.ended c ending) e') :
    c ∈ e.calls ∧ ∀ r elapsed, ending = .answered r elapsed → elapsed = now - c.started := by
  cases h with
  | unsent _ reason hc hp => exact ⟨hc, fun r elapsed heq => by cases heq⟩
  | finish _ _ hc he =>
    refine ⟨hc, fun r elapsed heq => ?_⟩
    subst heq
    unfold Call.ending? at he
    split at he
    · cases he
    · split at he
      · cases he; rfl
      · cases he
      · split at he
        · cases he
        · cases he

end StepAt

end Engine

/-! ## 2. What a call returns, and what it counts -/

/-- The response was received: the call returned its text, or the failure that it describes. -/
def isAnswer : Except CallError String → Bool
  | .ok _ => true
  | .error (.remote _) => true
  | .error _ => false

/-- No response was received in time. -/
def isLapse : Except CallError String → Bool
  | .ok _ => false
  | .error reason => reason.isTimeout

theorem isAnswer_result (r : Envelope) : isAnswer r.result = true ∧ isLapse r.result = false := by
  unfold Envelope.result
  split
  · exact ⟨rfl, rfl⟩
  · exact ⟨rfl, rfl⟩

section Count

variable (tick : Nat) (m : Metrics) (c : Call) {now : Nat} {ending : CallEnding}

/-- **What the end of a call counts is what it returns**: a round trip if it returns a response, a
timeout if it says so, and nothing else. -/
theorem count_eq (h : ∀ r elapsed, ending = .answered r elapsed → elapsed = now - c.started) :
    ending.count tick m =
      { m with
        roundTrips :=
          if isAnswer (ending.result c) then m.roundTrips.record ⟨(now - c.started) * tick⟩
          else m.roundTrips
        callTimeouts :=
          if isLapse (ending.result c) then m.callTimeouts + 1 else m.callTimeouts } := by
  cases ending with
  | answered r elapsed =>
    obtain ⟨hanswer, hlapse⟩ := isAnswer_result r
    rw [h r elapsed rfl]
    simp only [CallEnding.count, CallEnding.result, hanswer, hlapse]
    rfl
  | timedOut => rfl
  | abandoned => rfl
  | unsent reason => rfl

end Count

/-! ## 3. Engines and their metrics -/

/-- Engines that count their calls in the same metrics. -/
structure Fleet where
  engines : List Engine
  metrics : Metrics

namespace Fleet

/-- No engines yet, and nothing counted. -/
def new (family : String) : Fleet := ⟨[], .new family⟩

/-- What happens to the engines and the metrics. -/
inductive Event where
  /-- there is one engine more, with the next number -/
  | joined
  /-- the engine with this number made a step -/
  | took (k now : Nat) (ev : Engine.Event)
  | reset
  /-- traffic was counted -/
  | traffic

/-- **One step of the engines and their metrics.** -/
inductive Step (tick : Nat) (f : Fleet) : Event → Fleet → Prop where
  | join (patience limit : Nat) :
      Step tick f .joined { f with engines := f.engines ++ [.new patience limit] }
  | take (k now : Nat) (e e' : Engine) (ev : Engine.Event) (he : f.engines[k]? = some e)
      (hs : e.StepAt now ev e') :
      Step tick f (.took k now ev) ⟨f.engines.set k e', ev.count tick f.metrics⟩
  | reset : Step tick f .reset { f with metrics := f.metrics.reset }
  | traffic (m : Metrics) (hfamily : m.family = f.metrics.family)
      (htrips : m.roundTrips = f.metrics.roundTrips)
      (htimeouts : m.callTimeouts = f.metrics.callTimeouts) :
      Step tick f .traffic { f with metrics := m }

/-! ## 4. What happened -/

/-- When this event started the call with this key, if it did. -/
def Event.start? (k key : Nat) : Event → Option Nat
  | .took k' now ev => if k' = k ∧ ev.admitted? = some key then some now else none
  | _ => none

/-- When the call with this key was started. -/
def startOf (evs : List Event) (k key : Nat) : Option Nat := evs.findSome? (Event.start? k key)

/-- A call that returned. -/
structure Return where
  /-- the number of its engine -/
  engine : Nat
  key : Nat
  time : Nat
  result : Except CallError String

/-- The call that returned with this event, if one did. -/
def Event.return? : Event → Option Return
  | .took k now (.ended c ending) => some ⟨k, c.key, now, ending.result c⟩
  | _ => none

def Event.isReset : Event → Bool
  | .reset => true
  | _ => false

/-- The events since the last reset. -/
def recent (evs : List Event) : List Event := evs.rtakeWhile fun ev => !ev.isReset

/-- The calls that returned since the last reset. -/
def returns (evs : List Event) : List Return := (recent evs).filterMap Event.return?

/-- **The calls that received their response** since the last reset. -/
def completed (evs : List Event) : List Return := (returns evs).filter fun r => isAnswer r.result

/-- **The calls that returned because no response came in time**, since the last reset. -/
def timedOut (evs : List Event) : List Return := (returns evs).filter fun r => isLapse r.result

/-- From the start of a call to its return. -/
def roundTrip? (evs : List Event) (r : Return) : Option Nat :=
  (startOf evs r.engine r.key).map (r.time - ·)

/-- **How long the calls with a response took**, one after the other. -/
def trips (evs : List Event) : List Nat := (completed evs).filterMap (roundTrip? evs)

/-- The same in nanoseconds. -/
def durations (tick : Nat) (evs : List Event) : List Duration :=
  (trips evs).map fun n => ⟨n * tick⟩

section Histories

variable {evs : List Event} {ev : Event} {k key t : Nat} {r : Return}

theorem returns_reset (evs : List Event) : returns (evs ++ [.reset]) = [] := by
  rw [returns, recent, List.rtakeWhile_concat_neg _ _ _ (by simp [Event.isReset])]
  rfl

theorem returns_snoc (h : ev.isReset = false) :
    returns (evs ++ [ev]) = returns evs ++ ev.return?.toList := by
  rw [returns, recent, List.rtakeWhile_concat_pos _ _ _ (by simp [h]), List.filterMap_append]
  rfl

theorem startOf_snoc (evs : List Event) (ev : Event) (k key : Nat) :
    startOf (evs ++ [ev]) k key = (startOf evs k key).or (ev.start? k key) := by
  rw [startOf, List.findSome?_append, List.findSome?_singleton]
  rfl

theorem startOf_of_some (h : startOf evs k key = some t) :
    startOf (evs ++ [ev]) k key = some t := by
  rw [startOf_snoc, h]
  rfl

end Histories

/-! ## 5. What every step keeps -/

/-- **The engine knows when its calls were started.** -/
structure Clocked (evs : List Event) (k : Nat) (e : Engine) : Prop where
  sound : e.Sound
  started : ∀ p ∈ e.starts, startOf evs k p.1 = some p.2
  /-- keys that are still to come -/
  unused : ∀ key, e.nextKey ≤ key → startOf evs k key = none

/-- **All engines know when their calls were started.** -/
structure Timed (evs : List Event) (engines : List Engine) : Prop where
  clocked : ∀ k e, engines[k]? = some e → Clocked evs k e
  /-- numbers that are still to come -/
  unused : ∀ k, engines.length ≤ k → ∀ key, startOf evs k key = none

/-- **The metrics of what happened.** -/
structure Metered (tick : Nat) (evs : List Event) (m : Metrics) : Prop where
  trips : m.roundTrips.Holds (durations tick evs)
  timeouts : m.callTimeouts = .ofNat (timedOut evs).length
  /-- it is known how long each call took -/
  known : ∀ r ∈ completed evs, ∃ n, roundTrip? evs r = some n

section Steps

variable {tick k now : Nat} {evs : List Event} {engines : List Engine} {e e' : Engine}
  {ev : Engine.Event} {m : Metrics} {f f' : Fleet}

/-- Nothing is started without a step of an engine. -/
theorem startOf_idle {ev : Event} (h : ∀ k key, ev.start? k key = none) (k key : Nat) :
    startOf (evs ++ [ev]) k key = startOf evs k key := by
  rw [startOf_snoc, h, Option.or_none]

theorem Clocked.of_startOf {evs' : List Event} (h : Clocked evs k e)
    (heq : ∀ key, startOf evs' k key = startOf evs k key) : Clocked evs' k e where
  sound := h.sound
  started p hp := (heq p.1).trans (h.started p hp)
  unused key hkey := (heq key).trans (h.unused key hkey)

/-- The step of one engine starts no call of another one. -/
theorem startOf_other {j : Nat} (hne : j ≠ k) (key : Nat) :
    startOf (evs ++ [.took k now ev]) j key = startOf evs j key := by
  rw [startOf_snoc, Event.start?, if_neg fun h => hne h.1.symm, Option.or_none]

theorem Clocked.step (h : Clocked evs k e) (hs : e.StepAt now ev e') :
    Clocked (evs ++ [.took k now ev]) k e' where
  sound := Engine.sound_step h.sound hs.step
  started p hp := by
    rcases hs.starts h.sound with ⟨hadmitted, -, hstarts⟩ | ⟨-, -, hsub⟩
    · rw [hstarts] at hp
      rcases List.mem_append.1 hp with hp | hp
      · exact startOf_of_some (h.started p hp)
      · rw [List.mem_singleton.1 hp, startOf_snoc, h.unused _ (Nat.le_refl _), Event.start?,
          if_pos ⟨rfl, hadmitted⟩]
        rfl
    · exact startOf_of_some (h.started p (hsub hp))
  unused key hkey := by
    rw [startOf_snoc]
    rcases hs.starts h.sound with ⟨hadmitted, hnext, -⟩ | ⟨hadmitted, hnext, -⟩
    · have hother : ¬ (k = k ∧ ev.admitted? = some key) := by
        rw [hadmitted]
        intro heq
        have := Option.some.inj heq.2
        omega
      rw [h.unused key (by omega), Event.start?, if_neg hother]
      rfl
    · have hnone : ¬ (k = k ∧ ev.admitted? = some key) := by
        rw [hadmitted]
        exact fun heq => nomatch heq.2
      rw [h.unused key (by omega), Event.start?, if_neg hnone]
      rfl

theorem Timed.idle {ev : Event} (h : Timed evs engines) (hidle : ∀ k key, ev.start? k key = none) :
    Timed (evs ++ [ev]) engines where
  clocked k e he := (h.clocked k e he).of_startOf (startOf_idle hidle k)
  unused k hk key := (startOf_idle hidle k key).trans (h.unused k hk key)

theorem Timed.join (h : Timed evs engines) (patience limit : Nat) :
    Timed (evs ++ [.joined]) (engines ++ [.new patience limit]) where
  clocked k e he := by
    refine Clocked.of_startOf ?_ (startOf_idle (fun _ _ => rfl) k)
    rcases Nat.lt_or_ge k engines.length with hk | hk
    · rw [List.getElem?_append_left hk] at he
      exact h.clocked k e he
    · have hnone := h.unused k hk
      rw [List.getElem?_append_right hk] at he
      obtain rfl := List.mem_singleton.1 (List.mem_of_getElem? he)
      exact ⟨Engine.sound_new patience limit, fun p hp => absurd hp List.not_mem_nil,
        fun key _ => hnone key⟩
  unused k hk key := by
    rw [List.length_append] at hk
    exact (startOf_idle (fun _ _ => rfl) k key).trans (h.unused k (by omega) key)

theorem Timed.take (h : Timed evs engines) (he : engines[k]? = some e)
    (hs : e.StepAt now ev e') : Timed (evs ++ [.took k now ev]) (engines.set k e') where
  clocked j d hd := by
    by_cases hj : j = k
    · subst hj
      rw [List.getElem?_set_self (List.getElem?_eq_some_iff.1 he).1] at hd
      obtain rfl := Option.some.inj hd
      exact (h.clocked j e he).step hs
    · rw [List.getElem?_set_ne (Ne.symm hj)] at hd
      exact (h.clocked j d hd).of_startOf (startOf_other hj)
  unused j hj key := by
    rw [List.length_set] at hj
    have hne : j ≠ k := by
      have := (List.getElem?_eq_some_iff.1 he).1
      omega
    exact (startOf_other hne key).trans (h.unused j hj key)

theorem Timed.step (h : Timed evs f.engines) {ev : Event} (hs : Step tick f ev f') :
    Timed (evs ++ [ev]) f'.engines := by
  cases hs with
  | join patience limit => exact h.join patience limit
  | take k now e e' ev he hs => exact h.take he hs
  | reset => exact h.idle fun _ _ => rfl
  | traffic => exact h.idle fun _ _ => rfl

/-! ### The metrics -/

/-- What was known about a call that returned is still known. -/
theorem roundTrip?_of_some {r : Return} {n : Nat} (ev : Event) (h : roundTrip? evs r = some n) :
    roundTrip? (evs ++ [ev]) r = some n := by
  obtain ⟨t, ht, rfl⟩ := Option.map_eq_some_iff.1 h
  rw [roundTrip?, startOf_of_some ht]
  rfl

/-- Later events leave the round trips of earlier calls alone. -/
theorem filterMap_roundTrip? (h : Metered tick evs m) (ev : Event) :
    (completed evs).filterMap (roundTrip? (evs ++ [ev])) = Fleet.trips evs := by
  refine List.filterMap_congr fun r hr => ?_
  obtain ⟨n, hn⟩ := h.known r hr
  rw [hn]
  exact roundTrip?_of_some ev hn

/-- The metrics stay as they are when no call returns. -/
theorem Metered.idle {ev : Event} (h : Metered tick evs m) (hreset : ev.isReset = false)
    (hreturn : ev.return? = none) : Metered tick (evs ++ [ev]) m := by
  have hreturns : returns (evs ++ [ev]) = returns evs := by
    rw [returns_snoc hreset, hreturn, Option.toList_none, List.append_nil]
  have hcompleted : completed (evs ++ [ev]) = completed evs := by rw [completed, hreturns]; rfl
  have htrips : Fleet.trips (evs ++ [ev]) = Fleet.trips evs := by
    rw [Fleet.trips, hcompleted]
    exact filterMap_roundTrip? h ev
  refine ⟨?_, ?_, fun r hr => ?_⟩
  · rw [durations, htrips]; exact h.trips
  · rw [timedOut, hreturns]; exact h.timeouts
  · rw [hcompleted] at hr
    obtain ⟨n, hn⟩ := h.known r hr
    exact ⟨n, roundTrip?_of_some ev hn⟩

theorem metered_reset (tick : Nat) (evs : List Event) (m : Metrics) :
    Metered tick (evs ++ [.reset]) m.reset := by
  have hcompleted : completed (evs ++ [.reset]) = [] := by rw [completed, returns_reset]; rfl
  refine ⟨?_, ?_, fun r hr => ?_⟩
  · rw [durations, Fleet.trips, hcompleted]; exact Histogram.holds_empty
  · rw [timedOut, returns_reset]; rfl
  · rw [hcompleted] at hr
    exact absurd hr List.not_mem_nil

/-- **A call that returns is counted as what it returns.** -/
theorem Metered.ended {c : Call} {ending : CallEnding} (h : Metered tick evs m)
    (hstart : startOf evs k c.key = some c.started)
    (helapsed : ∀ r elapsed, ending = .answered r elapsed → elapsed = now - c.started) :
    Metered tick (evs ++ [.took k now (.ended c ending)]) (ending.count tick m) := by
  have hreturns : returns (evs ++ [.took k now (.ended c ending)]) =
      returns evs ++ [⟨k, c.key, now, ending.result c⟩] := returns_snoc rfl
  have htrip : roundTrip? (evs ++ [.took k now (.ended c ending)])
      ⟨k, c.key, now, ending.result c⟩ = some (now - c.started) :=
    roundTrip?_of_some _ (by rw [roundTrip?, hstart]; rfl)
  have hcompleted : completed (evs ++ [.took k now (.ended c ending)]) = completed evs ++
      if isAnswer (ending.result c) then [⟨k, c.key, now, ending.result c⟩] else [] := by
    rw [completed, hreturns, List.filter_append, List.filter_cons]
    rfl
  rw [count_eq tick m c helapsed]
  refine ⟨?_, ?_, fun r hr => ?_⟩
  · rw [durations, Fleet.trips, hcompleted, List.filterMap_append, filterMap_roundTrip? h,
      List.map_append]
    show Histogram.Holds (if _ then _ else _) _
    split
    · rw [List.filterMap_cons, htrip]
      exact h.trips.record _
    · rw [List.filterMap_nil, List.map_nil, List.append_nil]
      exact h.trips
  · rw [timedOut, hreturns, List.filter_append, List.filter_cons, List.length_append]
    show (if isLapse (ending.result c) then m.callTimeouts + 1 else m.callTimeouts) = _
    rw [h.timeouts]
    split
    · exact (UInt64.ofNat_add _ 1).symm
    · rfl
  · rw [hcompleted] at hr
    rcases List.mem_append.1 hr with hr | hr
    · obtain ⟨n, hn⟩ := h.known r hr
      exact ⟨n, roundTrip?_of_some _ hn⟩
    · split at hr
      · rw [List.mem_singleton.1 hr]
        exact ⟨_, htrip⟩
      · exact absurd hr List.not_mem_nil

theorem Metered.step (h : Metered tick evs f.metrics) (htimed : Timed evs f.engines) {ev : Event}
    (hs : Step tick f ev f') : Metered tick (evs ++ [ev]) f'.metrics := by
  cases hs with
  | join patience limit => exact h.idle rfl rfl
  | take k now e e' ev he hs =>
    cases ev with
    | ended c ending =>
      obtain ⟨hc, helapsed⟩ := hs.ended
      have hstart := (htimed.clocked k e he).started _ (List.mem_map_of_mem hc)
      exact h.ended hstart helapsed
    | started id outcome => exact h.idle rfl rfl
    | sent key => exact h.idle rfl rfl
    | received r taken => exact h.idle rfl rfl
    | dropped c => exact h.idle rfl rfl
  | reset => exact metered_reset tick evs f.metrics
  | traffic m' hfamily htrips htimeouts =>
    have hsame : Metered tick evs m' :=
      ⟨htrips.symm ▸ h.trips, htimeouts.trans h.timeouts, h.known⟩
    exact hsame.idle rfl rfl

end Steps

/-! ## 6. After every run -/

section Runs

variable {tick : Nat} {family : String} {evs : List Event} {f : Fleet}

/-- **Both invariants hold after every run.** -/
theorem metered_of_trace (h : Trace (Step tick) (new family) evs f) :
    Timed evs f.engines ∧ Metered tick evs f.metrics := by
  refine h.invariant (I := fun evs f => Timed evs f.engines ∧ Metered tick evs f.metrics)
    ⟨⟨?_, fun _ _ _ => rfl⟩, ⟨Histogram.holds_empty, rfl, ?_⟩⟩
    fun evs f ev f' _ hI hs => ⟨hI.1.step hs, hI.2.step hI.1 hs⟩
  · exact fun k e he => by simp [new] at he
  · exact fun r hr => absurd hr List.not_mem_nil

/-- **The metrics say what became of the calls.** -/
structure Accounts (tick : Nat) (evs : List Event) (m : Metrics) : Prop where
  answers : m.callsCompleted.toNat = (completed evs).length
  lapses : m.callTimeouts.toNat = (timedOut evs).length
  /-- it is known how long each call with a response took -/
  measured : (completed evs).map (roundTrip? evs) = (Fleet.trips evs).map some
  /-- the counts for the bounds never decrease -/
  ascending : (Histogram.totals Histogram.bounds (durations tick evs)).Pairwise (· ≤ ·)
  text : m.exportText = m.countersText ++
    if completed evs = [] then ""
    else String.join (Metrics.histogramLines m.family (durations tick evs))

theorem Metered.measured {m : Metrics} (h : Metered tick evs m) :
    (completed evs).map (roundTrip? evs) = (Fleet.trips evs).map some := by
  have hsome : ∀ r ∈ completed evs, roundTrip? evs r = some ((roundTrip? evs r).getD 0) := by
    intro r hr
    obtain ⟨n, hn⟩ := h.known r hr
    rw [hn]
    rfl
  rw [Fleet.trips, List.filterMap_eq_map_iff_forall_eq_some.2 hsome, List.map_map]
  exact List.map_congr_left hsome

/-- **The metrics and their text say what became of the calls** since the last reset. -/
theorem accounts_of_trace (h : Trace (Step tick) (new family) evs f)
    (hfew : (returns evs).length < UInt64.size) : Accounts tick evs f.metrics := by
  obtain ⟨-, hm⟩ := metered_of_trace h
  have hmeasured := hm.measured
  have hlength : (durations tick evs).length = (completed evs).length := by
    have htrips := congrArg List.length hmeasured
    rw [List.length_map, List.length_map] at htrips
    rw [durations, List.length_map, htrips]
  have hcompleted : (completed evs).length < UInt64.size :=
    Nat.lt_of_le_of_lt (List.length_filter_le _ _) hfew
  have htimedOut : (timedOut evs).length < UInt64.size :=
    Nat.lt_of_le_of_lt (List.length_filter_le _ _) hfew
  refine ⟨?_, ?_, hmeasured, Histogram.totals_sorted Histogram.sorted_bounds _, ?_⟩
  · rw [Metrics.callsCompleted, hm.trips.count, UInt64.toNat_ofNat_of_lt' (hlength ▸ hcompleted),
      hlength]
  · rw [hm.timeouts, UInt64.toNat_ofNat_of_lt' htimedOut]
  · have hempty : durations tick evs = [] ↔ completed evs = [] := by
      rw [← List.length_eq_zero_iff, hlength, List.length_eq_zero_iff]
    rw [Metrics.exportText_of_holds hm.trips (hlength ▸ hcompleted)]
    simp only [hempty]

/-- Steps that count nothing leave the metrics alone. -/
theorem metrics_of_idle {g : Fleet} (h : Trace (Step tick) f evs g)
    (hidle : ∀ ev ∈ evs, ∃ k now step, ev = .took k now step ∧ step.count tick = id) :
    g.metrics = f.metrics := by
  induction h with
  | start => rfl
  | snoc evs g ev g' _ hs ih =>
    have hsame := ih fun ev hev => hidle ev (List.mem_append_left _ hev)
    obtain ⟨k, now, step, rfl, hstep⟩ :=
      hidle ev (List.mem_append_right _ (List.mem_singleton_self ev))
    cases hs with
    | take _ _ e e' _ he hs =>
      show step.count tick g.metrics = f.metrics
      rw [hstep, hsame]
      rfl

end Runs

end Fleet

end CardLink
