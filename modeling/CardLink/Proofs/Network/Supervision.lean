import CardLink.Proofs.Network.Polling
import CardLink.Proofs.Plugin.Transitions

/-!
# Presence monitors in a network

What is known of monitors from their steps holds in a network, since it does nothing to a monitor
but these steps: to start one is a step, and each turn of its task makes steps of its own monitor
only. What a monitor takes in is what the call of its poll came to.

* `Network.Driven`: all that a network does to its monitors.
* `Network.Heeds`: what a network lets a monitor take in.
* **`Presence.governed`**: monitors come and go as they should.
* **`Presence.transitions_reported`**: what a monitor reports.

NOT here: what the other tasks do to a monitor between two turns of its own.
-/

namespace CardLink

namespace Network

open Presence

/-- **All that a network does to its monitors are their steps.** -/
structure Driven (n : Network) : Prop where
  started : ∀ r period,
    Step n.plugin (.started r (n.startMonitor r period).1) (n.startMonitor r period).2.plugin
  /-- each turn of the task of a monitor makes steps of this monitor, and calls -/
  turned : ∀ id m task poll, n.InStep id m → n.agenda.task? id = some task →
    task.job = .monitor m poll → Works m n.plugin (n.turn id).plugin ∧ (n.turn id).InStep id m

/-- **What a network lets a monitor take in.** -/
structure Heeds (n : Network) (m : Nat) : Prop where
  /-- each turn of its task is a row of such moments, once calls went on -/
  turned : ∀ id task poll, n.InStep id m → n.agenda.task? id = some task →
    task.job = .monitor m poll →
      ∃ p moments, Idle n.plugin p ∧ Trace (Watch m) p moments (n.turn id).plugin
  /-- the end of a call is taken in as an answer if the body says yes or no, else as a failure -/
  taken : ∀ id result, Polls n.plugin m → ∃ outcome event,
    Watch m n.plugin (.took outcome event) (n.monitorPolled id m result).plugin ∧
      ∀ b, outcome = some b ↔ ∃ body, result = .ok body ∧ Json.Decoder.bool.ofText body = .ok b

theorem driven (n : Network) : Driven n where
  started := n.startMonitor_step
  turned _ _ _ _ h htask hjob := turnMonitor_works h htask hjob

theorem heeds (n : Network) (m : Nat) : Heeds n m where
  turned id task poll h htask hjob := by
    obtain ⟨⟨p, evs, hidle, htrace, -⟩, -⟩ := turnMonitor_works h htask hjob
    obtain ⟨moments, hmoments⟩ := watch_of_trace m htrace
    exact ⟨p, moments, hidle, hmoments⟩
  taken id result hpolls := by
    obtain ⟨w, key, hw, hpolling⟩ := hpolls
    refine ⟨outcome? result, n.plugin.announcement m (outcome? result), ?_,
      fun b => outcome?_eq_some_iff⟩
    rw [plugin_monitorPolled]
    exact .took key _ w hw hpolling

end Network

namespace Presence

/-! ## 1. Monitors come and go -/

/-- **Monitors come and go as they should**: whenever readers are created and removed, monitors are
started and stopped, and polls begin and end, in any order; and a network does nothing else to
them. -/
theorem governed {ids : Nat → String} {name address : String} {patience limit : Nat}
    (evs : List Event) (p : Plugin)
    (htrace : Trace Step (.new ids name address patience limit) evs p) :
    Governed p ∧ ∀ n : Network, n.plugin = p → n.Driven :=
  ⟨governed_of_trace htrace, fun n _ => n.driven⟩

/-- The event that a card is in the reader. -/
def arrival : ReaderEvent := .plain "plugin" (ReaderName.make "R" "S") .inserted

/-- A monitor sees a card; it is stopped while it polls, and another one is started. The answer to
the first one comes then, and the answer to the second one when the reader was removed. -/
def twoMonitors : List Event :=
  [.lifecycle (.created "R" "S" (.ok ⟨Identifier.session 1, "R", "S", "M"⟩)),
   .started 0 true, .started 0 false, .asked 0 0, .answered 0 0 (some arrival), .asked 0 0,
   .stopped 0 true, .started 0 true, .answered 0 0 none, .asked 0 1,
   .lifecycle (.removed "R" "S" (.ok 0)), .answered 0 1 none, .started 0 false]

theorem governed_twoMonitors :
    ∃ p, Trace Step (.new Identifier.session "plugin" "M" 50 1) twoMonitors p ∧ Governed p ∧
      ∀ n : Network, n.plugin = p → n.Driven := by
  have h₁ : Trace Step (.new Identifier.session "plugin" "M" 50 1)
      [.lifecycle (.created "R" "S" (.ok ⟨Identifier.session 1, "R", "S", "M"⟩))] _ :=
    .snoc [] _ _ _ .start
      (.lifecycle _ _ (.create "R" "S" .contacts .empty) Plugin.Event.noConfusion)
  have h₂ := Trace.snoc _ _ _ _ h₁ (.start 0 100 0)
  have h₃ := Trace.snoc _ _ _ _ h₂ (.start 0 100 0)
  have h₄ := Trace.snoc _ _ _ _ h₃ (.ask 0 0 0 0 _ rfl rfl rfl)
  have h₅ := Trace.snoc _ _ _ _ h₄ (.answer 0 0 (some true) _ rfl rfl)
  have h₆ := Trace.snoc _ _ _ _ h₅ (.ask 0 100 100 1 _ rfl rfl rfl)
  have h₇ := Trace.snoc _ _ _ _ h₆ (.stop 0)
  have h₈ := Trace.snoc _ _ _ _ h₇ (.start 0 100 110)
  have h₉ := Trace.snoc _ _ _ _ h₈ (.answer 0 1 (some false) _ rfl rfl)
  have h₁₀ := Trace.snoc _ _ _ _ h₉ (.ask 1 110 110 2 _ rfl rfl rfl)
  have h₁₁ := Trace.snoc _ _ _ _ h₁₀
    (.lifecycle _ _ (.remove "R" "S") Plugin.Event.noConfusion)
  have h₁₂ := Trace.snoc _ _ _ _ h₁₁ (.answer 1 2 (some true) _ rfl rfl)
  have h₁₃ : Trace Step (.new Identifier.session "plugin" "M" 50 1) twoMonitors _ :=
    Trace.snoc _ _ _ _ h₁₂ (.start 0 100 200)
  exact ⟨_, h₁₃, governed _ _ h₁₃⟩

/-! ## 2. What a monitor reports -/

/-- **A monitor reports the changes in what it is answered**, whatever rows of outcomes its polls
have, whenever it is told to stop, and whatever else is done to the plugin meanwhile; and in a
network it takes in what the calls of its polls came to. -/
theorem transitions_reported {p : Plugin} {m n period now : Nat} {r : Reader}
    (hm : p.monitor? m = some (.new n period now)) (hr : p.reader? n = some r) :
    (∀ outcomes, ∃ evs q, Trace (Watch m) p evs q ∧ heeded evs = outcomes) ∧
      ∀ evs q, Trace (Watch m) p evs q → Reported evs q m r.name ∧
        ∀ network : Network, network.plugin = q → network.Heeds m :=
  ⟨exists_heeded hm rfl rfl,
    fun _ _ ht => ⟨reported_of_trace hm hr ht, fun network _ => network.heeds m⟩⟩

/-- A reader with a monitor that has not polled yet. -/
def watched : Plugin :=
  ((Plugin.new Identifier.session "plugin" "M" 50 1).enroll "R" "S" .contacts .empty).addMonitor 0
    100 0

/-- The monitor sees a card, then a poll fails; it is told to stop while it polls again, and is
answered that the card is gone. -/
def cutShort : List Moment :=
  [.unnoticed, .took (some true) (some arrival), .unnoticed, .took none none, .unnoticed, .told,
   .took (some false) none]

theorem transitions_reported_cutShort :
    watched.monitor? 0 = some (.new 0 100 0) ∧
      (∃ r, watched.reader? 0 = some r ∧ r.name = ReaderName.make "R" "S") ∧
      heeded cutShort = [some true, none] ∧
      ∃ p, Trace (Watch 0) watched cutShort p ∧
        Reported cutShort p 0 (ReaderName.make "R" "S") ∧
        ∀ network : Network, network.plugin = p → network.Heeds 0 := by
  have hm : watched.monitor? 0 = some (.new 0 100 0) := rfl
  have hr : watched.reader? 0 = some _ := rfl
  have hnew := transitions_reported hm hr
  have hask : ∀ (p : Plugin) (due : Nat) (w : Monitor), p.monitor? 0 = some w →
      w.state = .idle due → w.stopped = false →
        Watch 0 p .unnoticed (p.updateMonitor 0 (·.begin due due 0)) := by
    intro p due w hw hidle hgoing
    have hquiet : notice (p.updateMonitor 0 (·.begin due due 0)) 0 = .unnoticed := by
      rw [notice, Plugin.monitor?_updateMonitor, hw]
      exact if_neg (by simp [Monitor.begin, hgoing])
    rw [← hquiet]
    exact .other _ _ (.ask 0 due due 0 w hw hidle hgoing) fun _ _ h => Event.noConfusion h
  have h₁ := Trace.snoc [] watched _ _ .start (hask watched 0 _ rfl rfl rfl)
  have h₂ := Trace.snoc _ _ _ _ h₁ (.took 0 (some true) _ rfl rfl)
  have h₃ := Trace.snoc _ _ _ _ h₂ (hask _ 100 _ rfl rfl rfl)
  have h₄ := Trace.snoc _ _ _ _ h₃ (.took 0 none _ rfl rfl)
  have h₅ := Trace.snoc _ _ _ _ h₄ (hask _ 200 _ rfl rfl rfl)
  have h₆ := Trace.snoc _ _ _ _ h₅ (.stop 0)
  have h₇ : Trace (Watch 0) watched cutShort _ :=
    Trace.snoc _ _ _ _ h₆ (.took 0 (some false) _ rfl rfl)
  exact ⟨hm, ⟨_, hr, rfl⟩, rfl, _, h₇, hnew.2 _ _ h₇⟩

end Presence

end CardLink
