import CardLink.Proofs.Node.LostReply
import CardLink.Proofs.Plugin.Presence

/-!
# The task of a presence monitor

In virtual time a monitor has a task that takes turns with all others. It waits for the time of its
poll, starts the call, looks at it until it is over, and takes in what came of it. Nothing that it
does is more than the steps of its own monitor, but for the calls, of which nobody is told; and it
looks at a call only while its monitor waits for the end of a poll.

* `Presence.Idle`: what calls do to a plugin, as far as monitors and observers can tell.
* `Presence.Works`: calls go on, and then a monitor makes steps of its own.
* `Network.InStep`: the task and its monitor agree on whether a poll is under way.
* `Network.startMonitor_step`: the task begins with a step, too.
* **`Network.turnMonitor_works`**: one turn of the task.
* `Network.plugin_monitorPolled`: what the monitor takes in.

NOT here: what the other tasks do meanwhile.
-/

namespace CardLink

namespace Presence

/-- Nothing happened that is about readers, monitors or observers. -/
structure Idle (p q : Plugin) : Prop where
  apart : Plugin.Apart p q
  alike : Alike p q
  hushed : Hushed p q

/-- **Calls go on, and then the monitor with this number makes steps of its own.** -/
def Works (m : Nat) (p q : Plugin) : Prop :=
  ∃ p₁ evs, Idle p p₁ ∧ Trace Step p₁ evs q ∧ ∀ ev ∈ evs, ev.IsOf m

section Idle

variable {p q q' : Plugin} {m : Nat} {evs : List Event} {ev : Event}

theorem Idle.refl (p : Plugin) : Idle p p := ⟨.of_readers rfl rfl rfl, .refl p, .refl p⟩

theorem Idle.trans (h : Idle p q) (h' : Idle q q') : Idle p q' where
  apart := ⟨h'.apart.registry.trans h.apart.registry, h'.apart.sessions.trans h.apart.sessions,
    h'.apart.readers.trans h.apart.readers⟩
  alike := ⟨fun n => (h'.alike.held n).trans (h.alike.held n),
    fun n hn => h'.alike.opened n (h.alike.opened n hn),
    fun m => (h'.alike.monitors m).trans (h.alike.monitors m)⟩
  hushed := h.hushed.trans h'.hushed

theorem idle_updateEngine (p : Plugin) (n : Nat) (f : Engine → Engine) :
    Idle p (p.updateEngine n f) := by
  have hreader : ∀ k, (p.updateEngine n f).reader? k = _ :=
    fun k => Plugin.reader?_updateReader p n k _
  refine ⟨Plugin.apart_updateEngine p n f, ⟨fun k => ?_, fun k hopen => ?_, fun m => rfl⟩,
    ⟨rfl, rfl, rfl⟩⟩
  · rw [held, hreader, held]
    cases p.reader? k with
    | none => rfl
    | some r => by_cases hnk : n = k <;> simp [hnk]
  · obtain ⟨r, hr, hclosed⟩ := hopen
    refine ⟨_, (hreader k).trans (congrArg _ hr), ?_⟩
    split
    · exact hclosed
    · exact hclosed

theorem Idle.works (h : Idle p q) : Works m p q := ⟨q, [], h, .start, fun ev hev => by cases hev⟩

/-- The monitor makes one step more. -/
theorem Works.step (h : Works m p q) (hs : Step q ev q') (hev : ev.IsOf m) : Works m p q' := by
  obtain ⟨p₁, evs, hidle, htrace, hown⟩ := h
  refine ⟨p₁, evs ++ [ev], hidle, .snoc _ _ _ _ htrace hs, fun ev' hev' => ?_⟩
  rcases List.mem_append.1 hev' with hev' | hev'
  · exact hown ev' hev'
  · rwa [List.mem_singleton.1 hev']

end Idle

end Presence

namespace Network

open Presence

/-! ## 1. Calls -/

section Calls

variable (n : Network) (caller : Caller)

theorem idle_updateEngine (f : Engine → Engine) :
    Idle n.plugin (n.updateEngine caller f).plugin := by
  cases caller with
  | client => exact .refl _
  | reader r => exact Presence.idle_updateEngine n.plugin r f
  | slave j => exact .refl _

theorem plugin_updateMetrics (f : Metrics → Metrics) :
    (n.updateMetrics caller f).plugin = n.plugin := by
  cases caller <;> rfl

theorem plugin_beginSending (target : String) (e : Envelope) :
    (n.beginSending target e).2.plugin = n.plugin :=
  congrArg Node.plugin (node_beginSending n target e)

theorem plugin_endSending (target : String) (e : Envelope) :
    (n.endSending target e).plugin = n.plugin := by
  unfold endSending updateOutbox
  split <;> rfl

theorem idle_start (action body : String) (route : Route) (id : Option String) (patience : Nat) :
    Idle n.plugin (n.start caller action body route id patience).2.plugin := by
  have hchosen : (n.chooseId id).2.plugin = n.plugin := by cases id <;> rfl
  unfold start
  rw [← hchosen]
  generalize n.chooseId id = chosen
  obtain ⟨i, n₁⟩ := chosen
  dsimp only
  cases n₁.engine? caller with
  | none => exact .refl _
  | some engine =>
    dsimp only
    cases engine.start i action patience n₁.now with
    | mk verdict engine' =>
      cases verdict with
      | error reason => exact .refl _
      | ok key =>
        dsimp only
        have hadmitted : Idle n₁.plugin ((n₁.updateEngine caller fun _ => engine').beginSending
            route.target (.request action body route i)).2.plugin := by
          rw [plugin_beginSending]
          exact idle_updateEngine n₁ caller _
        generalize (n₁.updateEngine caller fun _ => engine').beginSending route.target
          (.request action body route i) = sending at hadmitted ⊢
        obtain ⟨result, n₂⟩ := sending
        cases result with
        | error reason => exact hadmitted.trans (idle_updateEngine n₂ caller _)
        | ok due =>
          cases due with
          | some due => exact hadmitted
          | none => exact hadmitted.trans (idle_updateEngine n₂ caller _)

theorem idle_pollWaiting (t : Ticket) : Idle n.plugin (n.pollWaiting t).2.plugin := by
  unfold pollWaiting
  split
  · exact .refl _
  · split
    · rw [plugin_updateMetrics]
      exact idle_updateEngine n t.caller _
    · split
      · exact .refl _
      · exact .refl _

theorem idle_poll (t : Ticket) : Idle n.plugin (n.poll t).2.plugin := by
  unfold poll
  split
  · exact idle_pollWaiting n t
  · split
    · have hsent := idle_updateEngine (n.endSending t.target t.request) t.caller
        (·.sent t.key n.now)
      rw [plugin_endSending] at hsent
      exact hsent.trans (idle_pollWaiting _ _)
    · exact .refl _

end Calls

/-! ## 2. Turns -/

/-- A monitor waits for the end of a poll. -/
def Polls (p : Plugin) (m : Nat) : Prop := ∃ w key, p.monitor? m = some w ∧ w.state = .polling key

/-- **The task of a monitor looks at a call only while the monitor polls.** -/
def InStep (n : Network) (id m : Nat) : Prop :=
  ∀ task ∈ n.agenda.tasks, task.id = id → ∀ t, task.job = .monitor m (some t) → Polls n.plugin m

section Tasks

variable {agenda : Agenda Job} {id m : Nat}

theorem job_of_setJob {job : Job} {task : Task Job} (htask : task ∈ (agenda.setJob id job).tasks)
    (hid : task.id = id) : task.job = job := by
  obtain ⟨u, -, rfl⟩ := List.mem_map.1 htask
  split at hid
  · rw [if_pos ‹u.id = id›]
  · contradiction

/-- Who waits for a time goes on with the same job. -/
theorem job_of_awaitTime {due : Nat} {task : Task Job}
    (htask : task ∈ (agenda.awaitTime id due).tasks) :
    ∃ u ∈ agenda.tasks, u.id = task.id ∧ u.job = task.job := by
  have hset : task ∈ (agenda.setAlarm id due).tasks →
      ∃ u ∈ agenda.tasks, u.id = task.id ∧ u.job = task.job := by
    intro hmem
    obtain ⟨u, hu, rfl⟩ := List.mem_map.1 hmem
    refine ⟨u, hu, ?_⟩
    split
    · exact ⟨rfl, rfl⟩
    · exact ⟨rfl, rfl⟩
  unfold Agenda.awaitTime at htask
  split at htask
  · split at htask
    · exact ⟨task, htask, rfl, rfl⟩
    · exact hset htask
  · exact hset htask

end Tasks

section Turns

variable {n : Network} {p : Plugin} {id m : Nat} {w : Monitor} {key : Nat}

/-- **To start a monitor** is one step, whether or not a task comes of it. -/
theorem startMonitor_step (n : Network) (r period : Nat) :
    Step n.plugin (.started r (n.startMonitor r period).1) (n.startMonitor r period).2.plugin := by
  have hplugin : (n.startMonitor r period).2.plugin =
      (n.plugin.startMonitor r period n.now).2 := by
    unfold startMonitor runMonitor
    dsimp only
    split
    · rfl
    · rfl
  rw [hplugin]
  exact .start r period n.now

/-- A task that has ended looks at nothing. -/
theorem inStep_endTask (n : Network) (id m : Nat) : (n.endTask id).InStep id m := by
  intro task htask hid
  have hother := (List.mem_filter.1 htask).2
  simp [hid] at hother

theorem inStep_setJob (n : Network) (id m : Nat) : (n.mapAgenda fun a =>
    (a.setJob id (.monitor m none)).wakeFirst id).InStep id m := by
  intro task htask hid t hjob
  rw [job_of_setJob htask hid] at hjob
  cases hjob

theorem Polls.idle {p q : Plugin} (h : Polls p m) (hq : Idle p q) : Polls q m := by
  obtain ⟨w, key, hw, hpolling⟩ := h
  exact ⟨w, key, (hq.alike.monitors m).trans hw, hpolling⟩

/-- **The end of a task** is the end of its monitor. -/
theorem endMonitor_works (h : Works m p n.plugin) (hw : n.plugin.monitor? m = some w) :
    Works m p (n.endMonitor id m).plugin ∧ (n.endMonitor id m).InStep id m :=
  ⟨h.step (.finish m w hw) rfl, inStep_endTask _ id m⟩

/-- **The outcome of a poll** is taken in. -/
theorem monitorPolled_works (id : Nat) (h : Works m p n.plugin) (hpolls : Polls n.plugin m)
    (result : Except CallError String) :
    Works m p (n.monitorPolled id m result).plugin ∧
      (n.monitorPolled id m result).InStep id m := by
  obtain ⟨w, key, hw, hpolling⟩ := hpolls
  have hanswered : ∀ answer, Works m p (n.plugin.polled m answer) :=
    fun answer => h.step (.answer m key answer w hw hpolling) rfl
  unfold monitorPolled
  dsimp only
  split
  · split
    · exact ⟨hanswered _, inStep_setJob _ id m⟩
    · exact ⟨hanswered _, inStep_endTask _ id m⟩
  · exact ⟨hanswered _, inStep_endTask _ id m⟩

/-- **A poll begins**, and may be over at once. -/
theorem monitorPolls_works {due : Nat} (hw : n.plugin.monitor? m = some w)
    (hidle : w.state = .idle due) (hgoing : w.stopped = false) :
    Works m n.plugin (n.monitorPolls id m due w).plugin ∧
      (n.monitorPolls id m due w).InStep id m := by
  unfold monitorPolls
  cases n.plugin.reader? w.reader with
  | none => exact endMonitor_works (Idle.refl _).works hw
  | some r =>
    dsimp only
    have hstarted := idle_start n (.reader w.reader) ReaderOperation.isPresent.method.name
      ReaderOperation.isPresent.body r.route none r.engine.patience
    generalize n.start (.reader w.reader) ReaderOperation.isPresent.method.name
      ReaderOperation.isPresent.body r.route none r.engine.patience = starting at hstarted ⊢
    obtain ⟨result, n'⟩ := starting
    have hw' : n'.plugin.monitor? m = some w := (hstarted.alike.monitors m).trans hw
    have hasked : ∀ key, Works m n.plugin (n'.plugin.updateMonitor m (·.begin due n'.now key)) :=
      fun key => hstarted.works.step (.ask m due n'.now key w hw' hidle hgoing) rfl
    have hpolls : ∀ key, Polls (n'.plugin.updateMonitor m (·.begin due n'.now key)) m := by
      intro key
      refine ⟨w.begin due n'.now key, key, ?_, rfl⟩
      rw [Plugin.monitor?_updateMonitor, hw']
      exact congrArg some (if_pos rfl)
    cases result with
    | error reason =>
      exact monitorPolled_works
        (n := n'.withPlugin (n'.plugin.updateMonitor m (·.begin due n'.now 0))) id
        (hasked 0) (hpolls 0) (.error reason)
    | ok t => exact ⟨hasked t.key, fun _ _ _ _ _ => hpolls t.key⟩

/-- **One turn of the task of a monitor** makes only the steps of its monitor. -/
theorem turnMonitor_works (h : n.InStep id m) {task : Task Job} {poll : Option Ticket}
    (htask : n.agenda.task? id = some task) (hjob : task.job = .monitor m poll) :
    Works m n.plugin (n.turn id).plugin ∧ (n.turn id).InStep id m := by
  have hturn : n.turn id = n.turnMonitor id m poll := by
    unfold turn
    rw [htask]
    dsimp only
    rw [hjob]
  have hpolls : ∀ t, poll = some t → Polls n.plugin m := by
    rintro t rfl
    exact h task (List.mem_of_find?_eq_some htask)
      (by simpa using List.find?_some htask) t hjob
  have hstill : Works m n.plugin n.plugin := (Idle.refl _).works
  rw [hturn]
  unfold turnMonitor
  cases hw : n.plugin.monitor? m with
  | none => exact ⟨hstill, inStep_endTask n id m⟩
  | some w =>
    cases poll with
    | some t =>
      have hlooked := idle_poll n t
      dsimp only
      generalize n.poll t = looking at hlooked ⊢
      obtain ⟨progress, n'⟩ := looking
      have hpolls' := (hpolls t rfl).idle hlooked
      rcases progress with ⟨due, t'⟩ | result
      · exact ⟨hlooked.works, fun _ _ _ _ _ => hpolls'⟩
      · exact monitorPolled_works id hlooked.works hpolls' result
    | none =>
      dsimp only
      by_cases hleaving : (w.stopped || w.period == 0) = true
      · rw [if_pos hleaving]
        exact endMonitor_works hstill hw
      · rw [if_neg hleaving]
        have hgoing : w.stopped = false := by
          cases hstopped : w.stopped with
          | false => rfl
          | true => simp [hstopped] at hleaving
        cases hstate : w.state with
        | idle due =>
          dsimp only
          split
          · refine ⟨hstill, fun task' htask' hid t hjob' => ?_⟩
            obtain ⟨u, hu, hid', hjob''⟩ := job_of_awaitTime htask'
            exact h u hu (hid'.trans hid) t (hjob''.trans hjob')
          · split
            · exact monitorPolls_works hw hstate hgoing
            · exact endMonitor_works hstill hw
        | polling key => exact endMonitor_works hstill hw
        | ended => exact endMonitor_works hstill hw

/-! ## 3. What a monitor takes in -/

/-- What the result of a call says of the card, if it is an answer. -/
def outcome? (result : Except CallError String) : Option Bool :=
  match ReaderOperation.isPresent.conclude "" result with
  | .ok (.present b) => some b
  | _ => none

/-- **All but a body that says yes or no is a failure.** -/
theorem outcome?_eq_some_iff {result : Except CallError String} {b : Bool} :
    outcome? result = some b ↔ ∃ body, result = .ok body ∧ Json.Decoder.bool.ofText body = .ok b := by
  cases result with
  | error reason =>
    constructor
    · intro h
      cases h
    · intro hsome
      obtain ⟨body, hbody, -⟩ := hsome
      cases hbody
  | ok body =>
    unfold outcome? ReaderOperation.conclude ReaderOperation.read
    cases hread : Json.Decoder.bool.ofText body with
    | error fault => simp [hread]
    | ok present => simp [hread]

/-- **The outcome of a poll is what its call came to.** -/
theorem plugin_monitorPolled (n : Network) (id m : Nat) (result : Except CallError String) :
    (n.monitorPolled id m result).plugin = n.plugin.polled m (outcome? result) := by
  unfold monitorPolled
  dsimp only
  split
  · split
    · rfl
    · rfl
  · rfl

end Turns

end Network

end CardLink
