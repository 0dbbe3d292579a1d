import CardLink.Proofs.Engine.Invariant
import CardLink.Proofs.Plugin.Lifecycle

/-!
# Readers with calls under way

While readers come and go, calls are started, answered and ended on the engines of readers, those
that were removed among them, since an application may still hold one. A step of a plugin leaves every
engine to steps of its own; a new reader has a new engine.

* `Plugin.LiveStep`: one step of a plugin whose engines are at work.
* `Plugin.sound_engine`: every engine keeps its table of pending ids in order.
* `Plugin.unregistered_of_trace`: a reader that was removed is never registered again.
-/

namespace CardLink.Plugin

/-! ## 1. Engines of readers -/

/-- The engine of the reader with this number. -/
def engine? (p : Plugin) (n : Nat) : Option Engine := (p.reader? n).map (·.engine)

section Engines

variable {p q : Plugin} {native slave : String} {k m : Nat}

theorem engine?_updateReader (p : Plugin) (n m : Nat) {f : Reader → Reader}
    (hf : ∀ r, (f r).engine = r.engine) : (p.updateReader n f).engine? m = p.engine? m := by
  unfold engine?
  rw [reader?_updateReader, Option.map_map]
  congr 1
  funext r
  by_cases hnm : n = m
  · simp [hnm, hf]
  · simp [hnm]

theorem reader?_updateReader_of_ne (h : k ≠ m) (f : Reader → Reader) :
    (p.updateReader k f).reader? m = p.reader? m := by
  rw [reader?_updateReader]
  simp [h]

theorem engine?_updateEngine_self {engine : Engine} (he : p.engine? k = some engine)
    (f : Engine → Engine) : (p.updateEngine k f).engine? k = some (f engine) := by
  obtain ⟨r, hr, rfl⟩ := Option.map_eq_some_iff.1 he
  unfold engine? updateEngine
  rw [reader?_updateReader, hr]
  simp

theorem reader?_updateEngine_of_ne (h : m ≠ k) (f : Engine → Engine) :
    (p.updateEngine k f).reader? m = p.reader? m :=
  reader?_updateReader_of_ne (Ne.symm h) _

theorem engine?_stopMonitor (p : Plugin) (n m : Nat) :
    (p.stopMonitor n).2.engine? m = p.engine? m := by
  unfold engine?
  rw [reader?_stopMonitor]
  cases p.reader? m with
  | none => rfl
  | some r => by_cases hnm : n = m <;> simp [hnm]

theorem reader?_stopMonitor_of_ne (h : k ≠ m) : (p.stopMonitor k).2.reader? m = p.reader? m := by
  rw [reader?_stopMonitor]
  simp [h]

/-- Taking a reader out of the registry leaves all engines alone. -/
theorem engine?_unregister (p : Plugin) (k m : Nat) (name : String) :
    (p.unregister k name).engine? m = p.engine? m := by
  show ((p.updateReader k fun r => { r with closed := true }).stopMonitor k).2.engine? m = _
  rw [engine?_stopMonitor]
  exact engine?_updateReader p k m fun _ => rfl

theorem reader?_unregister_of_ne (h : k ≠ m) (name : String) :
    (p.unregister k name).reader? m = p.reader? m := by
  show ((p.updateReader k fun r => { r with closed := true }).stopMonitor k).2.reader? m = _
  rw [reader?_stopMonitor_of_ne h]
  exact reader?_updateReader_of_ne h _

theorem engine?_enroll {mode : TransmissionMode} {options : Settings} {e : Engine}
    (h : (p.enroll native slave mode options).engine? m = some e) :
    (p.engine? m).getD (.new p.patience p.limit) = e := by
  obtain ⟨r, hr, rfl⟩ := Option.map_eq_some_iff.1 h
  by_cases hlt : m < p.readers.length
  · have hold : p.reader? m = some r := by
      have hr' : (p.readers ++ [p.newcomer native slave mode options])[m]? = some r := hr
      rw [List.getElem?_append_left hlt] at hr'
      exact hr'
    simp [engine?, hold]
  · have hnone : p.reader? m = none := List.getElem?_eq_none (Nat.le_of_not_lt hlt)
    have hr' : (p.readers ++ [p.newcomer native slave mode options])[m]? = some r := hr
    rw [List.getElem?_append_right (Nat.le_of_not_lt hlt)] at hr'
    obtain rfl := List.mem_singleton.1 (List.mem_of_getElem? hr')
    simp [engine?, hnone, newcomer, Reader.new]

end Engines

/-! ## 2. Steps -/

/-- **The engines went on by steps of their own** from one state to another, those of new readers from
their beginning. -/
def EnginesGoOn (p q : Plugin) : Prop :=
  ∀ m e, q.engine? m = some e →
    ∃ evs, Trace Engine.Step ((p.engine? m).getD (.new p.patience p.limit)) evs e

/-- **One step of a plugin whose engines are at work.** -/
def LiveStep (p : Plugin) (ev : Event) (q : Plugin) : Prop := Step p ev q ∧ EnginesGoOn p q

section Steps

variable {p q : Plugin} {evs later : List Event} {ids : Nat → String} {name address : String}
  {patience limit k : Nat}

theorem EnginesGoOn.of_eq (h : ∀ m, q.engine? m = p.engine? m) : EnginesGoOn p q := by
  intro m e he
  rw [h m] at he
  exact ⟨[], by rw [he]; exact .start⟩

/-- **One engine takes one step**, and nothing else happens. -/
theorem liveStep_updateEngine {e : Engine} {ev : Engine.Event} {f : Engine → Engine}
    (he : p.engine? k = some e) (hs : Engine.Step e ev (f e)) :
    LiveStep p .other (p.updateEngine k f) := by
  refine ⟨.other _ (apart_updateEngine p k f), fun m e' he' => ?_⟩
  by_cases hm : m = k
  · subst hm
    obtain rfl := Option.some.inj ((engine?_updateEngine_self he f).symm.trans he')
    exact ⟨[ev], by rw [he]; exact .snoc [] _ _ _ .start hs⟩
  · have hsame : p.engine? m = some e' := by
      rw [← he', engine?, engine?, reader?_updateEngine_of_ne hm]
    exact ⟨[], by rw [hsame]; exact .start⟩

theorem orderly_of_live (h : Trace LiveStep (new ids name address patience limit) evs p) :
    Orderly evs p :=
  orderly_of_trace (h.mono fun _ _ _ hs => hs.1)

/-- **Every engine of a reader keeps its table in order.** -/
theorem sound_engine (h : Trace LiveStep (new ids name address patience limit) evs p) {e : Engine}
    (he : p.engine? k = some e) : e.Sound := by
  refine h.invariant (I := fun _ p => ∀ k e, p.engine? k = some e → e.Sound) (fun k e he => ?_)
    (fun _ t _ u _ hI hs k e he => ?_) k e he
  · cases he
  · obtain ⟨evs, htrace⟩ := hs.2 k e he
    have hsound : ((t.engine? k).getD (.new t.patience t.limit)).Sound := by
      cases ht : t.engine? k with
      | none => exact Engine.sound_new _ _
      | some e₀ => exact hI k e₀ ht
    exact hsound.trace htrace

/-- **A reader that is not registered any more is never registered again.** -/
theorem unregistered_of_trace (h : Trace LiveStep (new ids name address patience limit) evs p)
    {r : Reader} (hr : p.reader? k = some r) (hgone : ∀ name, p.registry.get? name ≠ some k)
    (hlater : Trace LiveStep p later q) :
    (∃ r', q.reader? k = some r') ∧ ∀ name, q.registry.get? name ≠ some k := by
  have hclosed : r.closed = true := by
    cases hopen : r.closed with
    | true => rfl
    | false => exact absurd (((orderly_of_live h).open_iff k r hr).1 hopen) (hgone _)
  obtain ⟨r', hr', -, hclosed'⟩ := closed_of_trace (hlater.mono fun _ _ _ hs => hs.1) hr hclosed
  refine ⟨⟨r', hr'⟩, fun name hn => ?_⟩
  have hO := orderly_of_live (h.append hlater)
  obtain ⟨r₁, hr₁, rfl⟩ := hO.stored name k hn
  obtain rfl : r' = r₁ := Option.some.inj (hr'.symm.trans hr₁)
  have hopen := (hO.open_iff k r' hr').2 hn
  rw [hclosed'] at hopen
  cases hopen

end Steps

end CardLink.Plugin
