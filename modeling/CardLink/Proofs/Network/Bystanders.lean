import CardLink.Proofs.Network.Operation

/-!
# What a task leaves alone

A turn of one task leaves every other task at its job, and its result as it is, and no reader ever
gets another session. So whatever the tasks of a network do in turn, an operation that is under way
is attended to by its own task only.

* `Network.Spares`: a task, its result and a reader are left alone.
* `Network.spares_turn`: the turn of another task leaves them alone.
* **`Network.attended_scheduling`**: all that the tasks do are steps of an operation.

NOT here: what is done from outside, which may clear the results of tasks.
-/

namespace CardLink

namespace Plugin

/-- **No reader loses its session.** -/
def Holds (p q : Plugin) : Prop := ∀ r s, p.session? r = some s → q.session? r = some s

section Holds

variable {p q q' : Plugin}

theorem Holds.trans (h : Holds p q) (h' : Holds q q') : Holds p q' :=
  fun r s hs => h' r s (h r s hs)

theorem Apart.holds (h : Apart p q) : Holds p q := fun r _ hs => (h.session? r).trans hs

theorem holds_enroll (p : Plugin) (native slave : String) (mode : TransmissionMode)
    (options : Settings) : Holds p (p.enroll native slave mode options) := by
  intro r s hs
  obtain ⟨reader, hreader, rfl⟩ := Option.map_eq_some_iff.1 hs
  unfold session?
  rw [reader?_enroll_old hreader]
  rfl

theorem holds_unregister (p : Plugin) (k : Nat) (name : String) :
    Holds p (p.unregister k name) := by
  intro r s hs
  have hstanding := congrArg (Option.map Prod.fst) (reader?_unregister p k r name)
  rw [Option.map_map, Option.map_map] at hstanding
  exact hstanding.trans hs

/-- **To handle a request** takes no session away. -/
theorem holds_handle {e : Envelope} {handled : Handled} (h : p.handle e = some (handled, q)) :
    Holds p q := by
  have hhandling := p.handling e
  rw [h] at hhandling
  cases hhandling with
  | notice _ _ _ hreaders hregistry hsessions =>
    exact (Apart.of_readers hregistry hsessions hreaders).holds
  | refused _ _ => exact fun _ _ hs => hs
  | connected _ _ _ _ => exact (p.holds_enroll _ _ _ _).trans (apart_raise _ _).holds
  | disconnected k _ _ => exact (p.holds_unregister k _).trans (apart_raise _ _).holds

end Holds

end Plugin

theorem Node.holds_dispatch (node : Node) (e : Envelope) :
    Plugin.Holds node.plugin (node.dispatch e).2.plugin := by
  cases he : e.isRequest with
  | false =>
    rw [Node.dispatch_of_response he]
    exact (Node.apart_resolve node.received e).holds
  | true =>
    rw [Node.plugin_dispatch_of_request he]
    cases hq : node.plugin.handle e with
    | none => exact fun _ _ hs => hs
    | some handled =>
      obtain ⟨handled, q⟩ := handled
      exact Plugin.holds_handle hq

namespace Network

open Presence

/-- **A task, its result and the sessions of readers are left alone.** Tasks that are started get
ids of their own. -/
structure Spares (i : Nat) (n n' : Network) : Prop where
  ids : n.agenda.nextId ≤ n'.agenda.nextId
  job : i < n.agenda.nextId ∨ n'.agenda.nextId ≤ i → n'.agenda.job? i = n.agenda.job? i
  result : n'.result? i = n.result? i
  sessions : Plugin.Holds n.plugin n'.plugin

section Spares

variable {n n' n'' : Network} {i j r : Nat}

theorem Spares.refl (n : Network) : Spares i n n :=
  ⟨Nat.le_refl _, fun _ => rfl, rfl, fun _ _ h => h⟩

theorem Spares.trans (h : Spares i n n') (h' : Spares i n' n'') : Spares i n n'' where
  ids := Nat.le_trans h.ids h'.ids
  job hi := by
    have hids := h.ids
    have hids' := h'.ids
    rw [h'.job (by omega), h.job (by omega)]
  result := h'.result.trans h.result
  sessions := h.sessions.trans h'.sessions

/-- Nothing happens to tasks and results. -/
theorem Spares.of_eq (hagenda : n'.agenda = n.agenda) (hresults : n'.results = n.results)
    (hsessions : Plugin.Holds n.plugin n'.plugin) : Spares i n n' where
  ids := Nat.le_of_eq (by rw [hagenda])
  job _ := by rw [hagenda]
  result := by
    unfold result?
    rw [hresults]
  sessions := hsessions

/-- Something happens to other tasks. -/
theorem Spares.of_agenda {agenda : Agenda Job} (hids : n.agenda.nextId ≤ agenda.nextId)
    (hjob : i < n.agenda.nextId ∨ agenda.nextId ≤ i → agenda.job? i = n.agenda.job? i) :
    Spares i n { n with agenda := agenda } :=
  ⟨hids, hjob, rfl, fun _ _ h => h⟩

theorem spares_withPlugin {p : Plugin} (h : Plugin.Holds n.plugin p) :
    Spares i n (n.withPlugin p) :=
  .of_eq rfl rfl h

theorem spares_start (n : Network) (caller : Caller) (action body : String) (route : Route)
    (id : Option String) (patience : Nat) :
    Spares i n (n.start caller action body route id patience).2 := by
  obtain ⟨given, hbegan⟩ := began_start n caller action body route id patience
  exact .of_eq hbegan.agenda hbegan.results
    (idle_start n caller action body route id patience).apart.holds

theorem spares_poll (n : Network) (t : Ticket) : Spares i n (n.poll t).2 :=
  .of_eq (looked_poll n t).agenda (looked_poll n t).results (idle_poll n t).apart.holds

theorem spares_beginSending (n : Network) (target : String) (e : Envelope) :
    Spares i n (n.beginSending target e).2 := by
  obtain ⟨link, hlink⟩ := beginSending_keeps n target e
  rw [hlink]
  exact .of_eq rfl rfl fun _ _ h => h

theorem spares_endTask (n : Network) (hij : i ≠ j) : Spares i n (n.endTask j) :=
  .of_agenda (Nat.le_refl _) fun _ => by rw [Agenda.job?_remove, if_neg hij]

theorem spares_complete (n : Network) (hij : i ≠ j) (result : Result) :
    Spares i n (n.complete j result) where
  ids := Nat.le_refl _
  job := (spares_endTask n hij).job
  result := by
    show (n.results ++ [(j, result)]).lookup i = n.results.lookup i
    exact lookup_append_other rfl hij result
  sessions := fun _ _ h => h

theorem spares_setJob (n : Network) (hij : i ≠ j) (job : Job) :
    Spares i n (n.mapAgenda fun a => (a.setJob j job).wakeFirst j) :=
  .of_agenda (Nat.le_refl _) fun _ => by
    rw [Agenda.job?_wakeFirst, Agenda.job?_setJob, if_neg hij]

theorem nextId_awaitTime {a : Agenda Job} (due : Nat) : (a.awaitTime j due).nextId = a.nextId := by
  unfold Agenda.awaitTime
  split
  · split
    · rfl
    · rfl
  · rfl

theorem spares_awaitTime (n : Network) (due : Nat) : Spares i n (n.mapAgenda (·.awaitTime j due)) :=
  .of_agenda (Nat.le_of_eq (nextId_awaitTime due).symm) fun _ => Agenda.job?_awaitTime j due i

theorem spares_rest (n : Network) (hij : i ≠ j) (job : Job) (due : Nat) :
    Spares i n (n.mapAgenda fun a => (a.setJob j job).awaitTime j due) :=
  .of_agenda (Nat.le_of_eq (nextId_awaitTime (a := n.agenda.setJob j job) due).symm) fun _ => by
    rw [Agenda.job?_awaitTime, Agenda.job?_setJob, if_neg hij]

/-! ### Calls -/

theorem spares_conclude (n : Network) (purpose : Purpose) (caller : Caller)
    (result : Except CallError String) : Spares i n (n.conclude purpose caller result).2 := by
  cases purpose with
  | text => cases caller <;> exact .refl n
  | operation op =>
    cases caller with
    | reader r =>
      cases hreader : n.plugin.reader? r with
      | none =>
        unfold conclude
        simp only [hreader]
        exact .refl n
      | some reader =>
        obtain ⟨p, hconclude, hapart, -⟩ := conclude_operation hreader op result
        rw [hconclude]
        exact spares_withPlugin hapart.holds
    | _ => exact .refl n
  | connect native =>
    cases caller with
    | slave j =>
      unfold conclude
      dsimp only
      split
      · exact .refl n
      · exact .of_eq rfl rfl fun _ _ h => h
    | _ => exact .refl n
  | disconnect native =>
    cases caller with
    | slave j =>
      unfold conclude
      dsimp only
      split
      · exact .refl n
      · exact .of_eq rfl rfl fun _ _ h => h
    | _ => exact .refl n

theorem spares_turnCall (n : Network) (hij : i ≠ j) (t : Ticket) (purpose : Purpose) :
    Spares i n (n.turnCall j t purpose) := by
  have hpoll := spares_poll (i := i) n t
  unfold turnCall
  generalize n.poll t = looking at hpoll ⊢
  obtain ⟨standing, n₁⟩ := looking
  rcases standing with ⟨due, t'⟩ | result
  · exact hpoll.trans (spares_rest n₁ hij _ due)
  · exact (hpoll.trans (spares_conclude n₁ purpose t.caller result)).trans (spares_complete _ hij _)

/-! ### Monitors -/

theorem spares_endMonitor (n : Network) (hij : i ≠ j) (m : Nat) : Spares i n (n.endMonitor j m) :=
  (spares_withPlugin (p := n.plugin.updateMonitor m Monitor.finish)
    (Plugin.Apart.of_readers rfl rfl rfl).holds).trans (spares_endTask _ hij)

theorem spares_monitorPolled (n : Network) (hij : i ≠ j) (m : Nat)
    (result : Except CallError String) : Spares i n (n.monitorPolled j m result) := by
  have hpolled : ∀ answer, Spares i n (n.withPlugin (n.plugin.polled m answer)) :=
    fun answer => spares_withPlugin (n.plugin.apart_polled m answer).holds
  unfold monitorPolled
  dsimp only
  split
  · split
    · exact (hpolled _).trans (spares_setJob _ hij _)
    · exact (hpolled _).trans (spares_endTask _ hij)
  · exact (hpolled _).trans (spares_endTask _ hij)

theorem spares_monitorPolls (n : Network) (hij : i ≠ j) (m due : Nat) (monitor : Monitor) :
    Spares i n (n.monitorPolls j m due monitor) := by
  have hbegun : ∀ (n : Network) (f : Monitor → Monitor),
      Spares i n (n.withPlugin (n.plugin.updateMonitor m f)) :=
    fun n f => spares_withPlugin (Plugin.Apart.of_readers rfl rfl rfl).holds
  unfold monitorPolls
  cases n.plugin.reader? monitor.reader with
  | none => exact spares_endMonitor n hij m
  | some reader =>
    dsimp only
    have hstart := spares_start (i := i) n (.reader monitor.reader)
      ReaderOperation.isPresent.method.name ReaderOperation.isPresent.body reader.route none
      reader.engine.patience
    generalize n.start (.reader monitor.reader) ReaderOperation.isPresent.method.name
      ReaderOperation.isPresent.body reader.route none reader.engine.patience = starting
      at hstart ⊢
    obtain ⟨outcome, n₁⟩ := starting
    cases outcome with
    | error reason =>
      exact (hstart.trans (hbegun n₁ _)).trans (spares_monitorPolled _ hij m _)
    | ok t => exact (hstart.trans (hbegun n₁ _)).trans (spares_setJob _ hij _)

theorem spares_turnMonitor (n : Network) (hij : i ≠ j) (m : Nat) (poll : Option Ticket) :
    Spares i n (n.turnMonitor j m poll) := by
  unfold turnMonitor
  cases n.plugin.monitor? m with
  | none => exact spares_endTask n hij
  | some monitor =>
    cases poll with
    | some t =>
      dsimp only
      have hpoll := spares_poll (i := i) n t
      generalize n.poll t = looking at hpoll ⊢
      obtain ⟨standing, n₁⟩ := looking
      rcases standing with ⟨due, t'⟩ | result
      · exact hpoll.trans (spares_rest n₁ hij _ due)
      · exact hpoll.trans (spares_monitorPolled n₁ hij m result)
    | none =>
      dsimp only
      split
      · exact spares_endMonitor n hij m
      · split
        · split
          · exact spares_awaitTime n _
          · split
            · exact spares_monitorPolls n hij m _ monitor
            · exact spares_endMonitor n hij m
        · exact spares_endMonitor n hij m

/-! ### Texts -/

theorem spares_masterReceives (n : Network) (e : Envelope) : Spares i n (n.masterReceives e) := by
  have hdispatch : Spares i n { n with node := (n.node.dispatch e).2 } :=
    .of_eq rfl rfl (Node.holds_dispatch n.node e)
  unfold masterReceives
  generalize n.node.dispatch e = dispatching at hdispatch ⊢
  obtain ⟨d, node⟩ := dispatching
  cases d with
  | ended result => exact hdispatch
  | replying reply =>
    dsimp only at hdispatch ⊢
    have hsend := spares_beginSending (i := i) { n with node := node } reply.target reply.envelope
    generalize { n with node := node }.beginSending reply.target reply.envelope = sending at hsend ⊢
    obtain ⟨sent, n₁⟩ := sending
    refine (hdispatch.trans hsend).trans (.of_eq rfl rfl ?_)
    show Plugin.Holds n₁.plugin (n₁.node.conclude reply _).2.plugin
    rw [Node.plugin_conclude]
    exact fun _ _ h => h

theorem spares_spawn (n : Network) (job : Job) : Spares i n (n.spawn job).2 :=
  .of_agenda (Nat.le_succ _) fun hi => by
    have hids : i < n.agenda.nextId ∨ n.agenda.nextId + 1 ≤ i := hi
    exact Agenda.job?_spawn_of_ne (by omega)

theorem spares_slaveReceives (n : Network) (k : Nat) (e : Envelope) :
    Spares i n (n.slaveReceives k e) := by
  have hupdate : ∀ f : Slave → Slave, Spares i n (n.updateSlave k f) :=
    fun f => .of_eq rfl rfl fun _ _ h => h
  unfold slaveReceives
  split
  · exact .refl n
  · split
    · exact hupdate _
    · exact (hupdate _).trans (spares_spawn _ _)

theorem spares_receive (n : Network) (receiver : Receiver) (e : Envelope) :
    Spares i n (n.receive receiver e) := by
  cases receiver with
  | master => exact spares_masterReceives n e
  | slave k => exact spares_slaveReceives n k e

theorem spares_turnPump (n : Network) (hij : i ≠ j) (k : Nat) (receiver : Receiver) :
    Spares i n (n.turnPump j k receiver) := by
  have hwoken : ∀ n : Network, Spares i n (n.mapAgenda (·.wakeFirst j)) :=
    fun n => .of_agenda (Nat.le_refl _) fun _ => Agenda.job?_wakeFirst j i
  have hhub : ∀ f : Hub → Hub, Spares i n (n.updateHub f) := by
    intro f
    unfold updateHub
    split
    · exact .refl n
    · exact .of_eq rfl rfl fun _ _ h => h
  unfold turnPump
  cases n.hub? with
  | none => exact spares_endTask n hij
  | some h =>
    dsimp only
    split
    · split
      · exact spares_endTask n hij
      · exact .refl n
    · refine Spares.trans ?_ (hwoken _)
      split
      · exact (hhub _).trans (spares_receive _ receiver _)
      · exact hhub _

theorem spares_turnRespond (n : Network) (hij : i ≠ j) (delay : Nat) (target : String)
    (response : Envelope) : Spares i n (n.turnRespond j delay target response) := by
  unfold turnRespond
  split
  · exact (spares_beginSending n target response).trans (spares_endTask _ hij)
  · exact .of_agenda (Nat.le_refl _) fun _ => by
      rw [Agenda.job?_setAlarm, Agenda.job?_setJob, if_neg hij]

theorem spares_turnWait (n : Network) (hij : i ≠ j) (count : Nat) :
    Spares i n (n.turnWait j count) := by
  unfold turnWait
  split
  · exact spares_complete n hij _
  · exact .refl n

/-- **The turn of another task** leaves a task alone. -/
theorem spares_turn (n : Network) (hij : i ≠ j) : Spares i n (n.turn j) := by
  unfold turn
  split
  · exact .refl n
  · split
    · exact spares_turnCall n hij _ _
    · exact spares_turnMonitor n hij _ _
    · exact spares_turnPump n hij _ _
    · exact spares_turnRespond n hij _ _ _
    · exact spares_turnWait n hij _

end Spares

/-! ## 2. What goes on beside an operation -/

section Attended

variable {i r : Nat} {n n' : Network}

theorem Spares.attended (h : Spares i n n') (hi : i < n.agenda.nextId) :
    Attended i r n ⟨none, none⟩ n' :=
  .other n' (fun _ hjob => (h.job (.inl hi)).symm.trans hjob) h.result fun s => h.sessions r s

/-- The task has an id that was given out, and steps lead from one network to another. -/
def Attends (i r : Nat) (n n' : Network) : Prop :=
  i < n.agenda.nextId → i < n'.agenda.nextId ∧ ∃ ps, Trace (Attended i r) n ps n'

theorem Spares.attends (h : Spares i n n') : Attends i r n n' :=
  fun hi => ⟨Nat.lt_of_lt_of_le hi h.ids, _, .snoc [] _ _ _ .start (h.attended hi)⟩

/-- No id is taken back: the turn of one task leaves those of all others alone. -/
theorem nextId_turn (n : Network) (j : Nat) : n.agenda.nextId ≤ (n.turn j).agenda.nextId :=
  (spares_turn (i := j + 1) n (Nat.succ_ne_self j)).ids

/-- **All that tasks do in turn are steps of an operation.** -/
theorem attended_scheduling : Scheduling (Attends i r) where
  refl n hi := ⟨hi, [], .start⟩
  trans h h' hi := by
    obtain ⟨hi₁, ps, htrace⟩ := h hi
    obtain ⟨hi₂, ps', htrace'⟩ := h' hi₁
    exact ⟨hi₂, _, htrace.append htrace'⟩
  agenda n agenda h := (Spares.of_agenda (Nat.le_of_eq h.nextId.symm) fun _ => h.job? i).attends
  turn n j := by
    by_cases hij : i = j
    · subst hij
      exact fun hi => ⟨Nat.lt_of_lt_of_le hi (nextId_turn n i), _, .snoc [] _ _ _ .start .turn⟩
    · exact (spares_turn n hij).attends

/-- **Ids stay in order** whatever tasks do in turn. -/
theorem numbered_scheduling : Scheduling fun n n' => Numbered n → Numbered n' where
  refl _ h := h
  trans h h' hn := h' (h hn)
  agenda n agenda h hn i hi := by
    rw [h.job? i]
    exact hn i (h.nextId ▸ hi)
  turn n j hn := by
    cases hjob : n.agenda.job? j with
    | none =>
      rw [(turn_of_gone hjob).1]
      exact hn
    | some job =>
      intro i hi
      have hids := nextId_turn n j
      have hij : i ≠ j := by
        rintro rfl
        rw [(hn i (Nat.le_trans hids hi)).1] at hjob
        cases hjob
      have hspares := spares_turn n hij
      rw [hspares.job (.inr hi), hspares.result]
      exact hn i (Nat.le_trans hids hi)

end Attended

end Network

end CardLink
