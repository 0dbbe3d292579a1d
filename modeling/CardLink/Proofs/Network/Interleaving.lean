import CardLink.Proofs.Network.Drift

/-!
# All that may happen on a hub

The slave puts cards in and takes them out, both sides begin and give up calls, texts are injected,
the application at the master changes its observers and gives readers up, and between any two of
these the tasks take turns, in any order. One such move does one of four things to the events of
readers: nothing, or one more event sets out, or the master takes one text, or the application
arranges its observers and readers anew.

* `Happening`, `Network.Move`: one move, and the event that the slave sends in it.
* `Passage`: what a move does to events.
* **`Wired.passage`**: every move is one of these.

NOT here: detached nodes and presence monitors.
-/

namespace CardLink

open Network

/-! ## 1. Moves -/

/-- What is to be seen of a move. -/
inductive Happening where
  /-- the slave sent this event of one of its readers -/
  | sent (native : String) (event : ReaderEvent)
  | other

namespace Network

/-- **One move.** The observers of the readers that are `kept` stay as they are. -/
inductive Move (master station : String) (kept : Nat → Prop) (n : Network) :
    Happening → Network → Prop where
  /-- time passes, alarms ring, and tasks join the queue or leave it -/
  | schedule (agenda : Agenda Job)
      (htasks : agenda.tasks.map (·.job) = n.agenda.tasks.map (·.job)) :
      Move master station kept n .other { n with agenda := agenda }
  | turn (id : Nat) : Move master station kept n .other (n.turn id)
  | insert (native : String) (card : SimulatedCard) (event : ReaderEvent) (sl sl' : Slave)
      (hslave : n.slave? 0 = some sl)
      (hinsert : sl.insertCard native card = .ok (sl'.notice native event, sl')) :
      Move master station kept n (.sent native event)
        (n.changeCard 0 (·.insertCard native card)).2
  | remove (native : String) (event : ReaderEvent) (sl sl' : Slave)
      (hslave : n.slave? 0 = some sl)
      (hremove : sl.removeCard native = .ok (sl'.notice native event, sl')) :
      Move master station kept n (.sent native event) (n.changeCard 0 (·.removeCard native)).2
  /-- the application uses a virtual reader -/
  | operate (r : Nat) (reader : Reader) (op : ReaderOperation) :
      Move master station kept n .other (n.launchOperation r reader op).2
  | connect (native : String) (mode : TransmissionMode) :
      Move master station kept n .other (n.connect 0 native mode).2
  | disconnect (native : String) :
      Move master station kept n .other (n.disconnect 0 native).2
  /-- a call is given up -/
  | cancel (id : Nat) : Move master station kept n .other (n.cancel id).2
  /-- what is injected to the master carries no event of a reader, as no malformed text does
  (`silent_of_malformed`) -/
  | inject (node wire : String) (hsilent : node = master → Silent station wire) :
      Move master station kept n .other (n.inject node wire).2
  /-- the slave changes under its name, in its readers or in how it answers -/
  | adapt (f : Slave → Slave)
      (hframe : ∀ sl, n.slave? 0 = some sl → (f sl).node = sl.node ∧ (f sl).master = sl.master) :
      Move master station kept n .other (n.updateSlave 0 f)
  /-- a reader has changed already, and the event of it is sent only now -/
  | notify (native : String) (event : ReaderEvent) (sl : Slave) (hslave : n.slave? 0 = some sl) :
      Move master station kept n (.sent native event)
        (n.send sl.master (sl.notice native event)).2
  /-- the application gives a virtual reader up -/
  | drop (native slave : String) :
      Move master station kept n .other
        (n.withPlugin (n.plugin.after (n.plugin.disconnect native slave)))
  /-- observers come and go; those of the `kept` readers stay -/
  | attend (readerObservers : Audience ReaderEvent) (pluginObservers : Audience PluginEvent)
      (hreaders : readerObservers.Passive) (hplugin : pluginObservers.Passive)
      (hkept : ∀ k, kept k → readerObservers.listeners k = n.plugin.readerObservers.listeners k) :
      Move master station kept n .other (n.withPlugin { n.plugin with
        readerObservers := readerObservers, pluginObservers := pluginObservers })

end Network

/-! ## 2. What moves do to events -/

/-- The news of a text for the observers of readers. -/
def Plugin.news (p : Plugin) (wire : String) : String → String → List ReaderEvent :=
  match Envelope.ofWire wire with
  | .ok e => p.echo e.readerName (e.tiding? e.route.nativeReader e.route.requester)
  | .error _ => noNews

/-- **What a move does to events.** -/
inductive Passage (master station : String) (kept : Nat → Prop) (n n' : Network) :
    Happening → Prop where
  | drift (h : Drifts master station n n') : Passage master station kept n n' .other
  /-- one more event is on its way -/
  | sent (native : String) (event : ReaderEvent) (wire : String)
      (htiding : ∀ name, tiding? name station wire = if native = name then some event else none)
      (hinbox : n'.inbox = n.inbox ++ [wire]) (hstill : Plugin.Still n.plugin n'.plugin)
      (hwired : Wired master station n') : Passage master station kept n n' (.sent native event)
  /-- the master takes the first text that is on its way -/
  | took (wire : String) (n₁ : Network) (hinbox : n.inbox = wire :: n₁.inbox)
      (hnews : Plugin.Proceeds kept n.plugin n₁.plugin (n.plugin.news wire))
      (hafter : Drifts master station n₁ n') : Passage master station kept n n' .other
  | arranged (hinbox : n'.inbox = n.inbox)
      (hproceeds : Plugin.Proceeds kept n.plugin n'.plugin Plugin.noNews)
      (hwired : Wired master station n') : Passage master station kept n n' .other

section Passage

variable {master station : String} {kept : Nat → Prop} {n n' : Network} {p q : Plugin}
  {e reply : Envelope}

/-! ### The master takes a text -/

/-- A reply is a response. -/
theorem Plugin.isRequest_reply {v : Except ReaderError Delivery}
    (h : p.handle e = some (⟨v, some reply⟩, q)) : reply.isRequest = false := by
  have hhandling := p.handling e
  rw [h] at hhandling
  generalize hreply : some reply = reply? at hhandling
  cases hhandling with
  | notice verdict _ hm => cases hreply
  | refused reason why =>
    obtain ⟨id, -, rfl⟩ := Option.map_eq_some_iff.1 hreply.symm
    rfl
  | connected request hm hbody hfree =>
    obtain ⟨id, -, rfl⟩ := Option.map_eq_some_iff.1 hreply.symm
    rfl
  | disconnected k hm hk =>
    obtain ⟨id, -, rfl⟩ := Option.map_eq_some_iff.1 hreply.symm
    rfl

/-- A response concerns the call that waits for it. -/
theorem Node.still_resolve (node : Node) (e : Envelope) :
    Plugin.Still node.plugin (node.resolve e).2.plugin := by
  unfold Node.resolve
  split
  · exact .refl _
  · split
    · exact .refl _
    · exact node.plugin.still_updateReader _ fun _ => rfl

/-- **What the dispatch of an envelope makes of the plugin.** -/
theorem Node.proceeds_dispatch (kept : Nat → Prop) {node : Node} (h : node.plugin.Tended)
    (e : Envelope) :
    Plugin.Proceeds kept node.plugin (node.dispatch e).2.plugin
      (node.plugin.echo e.readerName (e.tiding? e.route.nativeReader e.route.requester)) := by
  cases he : e.isRequest with
  | false =>
    have hnone : e.tiding? e.route.nativeReader e.route.requester = none :=
      if_neg fun hall => by simp [he] at hall
    rw [Node.dispatch_of_response he, hnone]
    exact (Node.still_resolve node.received e).proceeds h
  | true =>
    rw [Node.plugin_dispatch_of_request he]
    cases hq : node.plugin.handle e with
    | none =>
      have hm : Method.ofName? e.action ≠ some .readerEvent := by
        intro hm
        simp [Plugin.handle, hm] at hq
      rw [show node.plugin.echo e.readerName _ = Plugin.noNews from
        funext fun who => Plugin.echo_of_silent _ hm]
      exact (Plugin.Still.refl _).proceeds h
    | some handled => exact Plugin.proceeds_handle h he hq

theorem Node.still_conclude (node : Node) (reply : Reply) (sent : Except TransportError Unit) :
    (node.conclude reply sent).2.plugin = node.plugin := by
  unfold Node.conclude
  split
  · exact Node.plugin_close _ _
  · exact Node.plugin_close _ _

/-- A reply sets out, if there is one. -/
theorem drift_masterReceives (e : Envelope)
    (hw : Wired master station { n with node := (n.node.dispatch e).2 }) :
    Drifts master station { n with node := (n.node.dispatch e).2 } (n.masterReceives e) := by
  unfold masterReceives
  have hreply : ∀ reply, (n.node.dispatch e).1 = .replying reply →
      reply.envelope.isRequest = false := by
    intro reply h
    unfold Node.dispatch at h
    dsimp only at h
    split at h
    · cases h
    · split at h
      · cases h
      · rename_i handled q hhandle
        obtain ⟨v, reply?⟩ := handled
        cases reply? with
        | none => cases h
        | some r =>
          cases h
          exact Plugin.isRequest_reply hhandle
  generalize n.node.dispatch e = dispatched at hw hreply ⊢
  obtain ⟨d, node⟩ := dispatched
  cases d with
  | ended result => exact hw.refl
  | replying reply =>
    exact (hw.drift_beginSending reply.target (silent_of_response (hreply reply rfl))).andThen
      fun hw => hw.drift_node (by
        rw [Node.still_conclude]
        exact .refl _)

/-- **The first text of a queue is taken.** -/
theorem Wired.take (hw : Wired master station n) {h h' : Hub} (hlink : n.link = .hub h) {k : Nat}
    {wire : String} (htake : h.take k = some (wire, h')) :
    Wired master station { n with link := .hub h' } ∧
      (k = 0 → n.inbox = wire :: Network.inbox { n with link := .hub h' }) ∧
      (k ≠ 0 → Network.inbox { n with link := .hub h' } = n.inbox) := by
  obtain ⟨a, ha, hqueue, rfl⟩ := Hub.take_eq htake
  obtain ⟨hwired, hinbox⟩ := hw.relink hlink k List.tail
    (h.metrics.recordReceive wire.utf8ByteSize)
  refine ⟨hwired, fun hk => ?_, fun hk => hinbox.trans (if_neg hk)⟩
  subst hk
  have htail : _ = n.inbox.tail := hinbox.trans (if_pos rfl)
  have hfull : n.inbox = a.queue := by
    rw [inbox_hub hlink, ha]
    rfl
  rw [htail, hfull]
  exact hqueue

/-- A receiver that finds no text waits, or comes to its end. -/
theorem Wired.drift_turnPump (hw : Wired master station n) {h : Hub} (hlink : n.link = .hub h)
    {k : Nat} (htake : h.take k = none) (id : Nat) (receiver : Receiver) :
    Drifts master station n (n.turnPump id k receiver) := by
  simp only [turnPump, Network.hub?, hlink, htake]
  split
  · exact hw.drift_endTask id
  · exact hw.refl

/-- What a receiver does with a text. -/
def Network.takeIn (receiver : Receiver) (wire : String) (n : Network) : Network :=
  match Envelope.ofWire wire with
  | .ok e => n.receive receiver e
  | .error _ => n

theorem turnPump_of_take {h h' : Hub} (hlink : n.link = .hub h) {k : Nat} {wire : String}
    (htake : h.take k = some (wire, h')) (id : Nat) (receiver : Receiver) :
    n.turnPump id k receiver =
      (takeIn receiver wire { n with link := .hub h' }).mapAgenda (·.wakeFirst id) := by
  simp only [turnPump, Network.hub?, hlink, htake, updateHub]
  rfl

/-- **The master takes in a text.** -/
theorem Wired.takeIn_master (kept : Nat → Prop) (hw : Wired master station n) (wire : String) :
    ∃ n₁, n₁.inbox = n.inbox ∧
      Plugin.Proceeds kept n.plugin n₁.plugin (n.plugin.news wire) ∧
      Drifts master station n₁ (n.takeIn .master wire) := by
  unfold takeIn Plugin.news
  cases Envelope.ofWire wire with
  | error fault => exact ⟨n, rfl, (Plugin.Still.refl _).proceeds hw.tended, hw.refl⟩
  | ok e =>
    have hproceeds := Node.proceeds_dispatch kept hw.tended e
    exact ⟨{ n with node := (n.node.dispatch e).2 }, inbox_congr rfl, hproceeds,
      drift_masterReceives e { hw with tended := hproceeds.tended }⟩

theorem Wired.drift_wakeFirst (hw : Wired master station n) (id : Nat) :
    Drifts master station n (n.mapAgenda (·.wakeFirst id)) :=
  hw.drift_agenda hw.jobs

/-- A receiver takes a text, or waits. -/
theorem Wired.passage_turnPump (hw : Wired master station n) (id k : Nat) (receiver : Receiver)
    (hbenign : k = 0 ↔ receiver = .master) :
    Passage master station kept n (n.turnPump id k receiver) .other := by
  obtain ⟨h, hlink⟩ := hw.hub?
  cases htake : h.take k with
  | none => exact .drift (hw.drift_turnPump hlink htake id receiver)
  | some taken =>
    obtain ⟨wire, h'⟩ := taken
    obtain ⟨hwired, hfirst, hother⟩ := hw.take hlink htake
    rw [turnPump_of_take hlink htake]
    cases receiver with
    | master =>
      obtain ⟨n₁, hinbox, hproceeds, hafter⟩ := hwired.takeIn_master kept wire
      refine .took wire n₁ ?_ hproceeds (hafter.andThen fun hw => hw.drift_wakeFirst id)
      rw [hinbox]
      exact hfirst (hbenign.2 rfl)
    | slave j =>
      have hk : k ≠ 0 := fun hk => by cases hbenign.1 hk
      have hsame : Drifts master station n { n with link := .hub h' } :=
        ⟨hwired, ⟨[], by rw [hother hk, List.append_nil], fun _ hw => absurd hw List.not_mem_nil⟩,
          .refl _⟩
      refine .drift ((hsame.andThen fun hw => ?_).andThen fun hw => hw.drift_wakeFirst id)
      unfold takeIn
      cases Envelope.ofWire wire with
      | error fault => exact hw.refl
      | ok e => exact hw.drift_slaveReceives j e

/-- **One task has its turn.** -/
theorem Wired.passage_turn (hw : Wired master station n) (id : Nat) :
    Passage master station kept n (n.turn id) .other := by
  unfold turn
  cases htask : n.agenda.task? id with
  | none => exact .drift hw.refl
  | some t =>
    have hbenign := hw.jobs t (List.mem_of_find?_eq_some htask)
    dsimp only
    cases hjob : t.job with
    | call ticket purpose => exact .drift (hw.drift_turnCall id ticket purpose)
    | monitor m poll =>
      rw [hjob] at hbenign
      exact hbenign.elim
    | pump k receiver =>
      rw [hjob] at hbenign
      exact hw.passage_turnPump id k receiver hbenign
    | respond delay target response =>
      rw [hjob] at hbenign
      exact .drift (hw.drift_turnRespond id delay target hbenign)
    | wait count => exact .drift (hw.drift_turnWait id count)

/-! ### The slave sends an event -/

/-- **An event sets out for the master.** -/
theorem Wired.passage_send (hw : Wired master station n) (native : String) (event : ReaderEvent)
    {sl : Slave} (hslave : n.slave? 0 = some sl) :
    Passage master station kept n (n.send sl.master (sl.notice native event)).2
      (.sent native event) := by
  obtain ⟨sl₀, hsl₀, hnode, hmaster⟩ := hw.slave
  rw [hslave] at hsl₀
  obtain rfl := Option.some.inj hsl₀
  obtain ⟨h, hlink⟩ := hw.hub?
  obtain ⟨h', hdeliver⟩ := hw.deliver_master hlink (sl.notice native event).toWire
  obtain ⟨hwired, hinbox⟩ := hw.deliver hlink hdeliver
  have hresult : (n.send sl.master (sl.notice native event)).2 = { n with link := .hub h' } := by
    simp only [send, beginSending, Hub.send, hlink, hmaster, hdeliver, Except.map]
  rw [hresult]
  refine .sent native event (sl.notice native event).toWire (fun name => ?_) ?_ (.refl _) hwired
  · rw [← hnode]
    exact tiding?_notice sl native name event
  · rw [hinbox, if_pos rfl]

/-- A reader of the slave changes, and the event of it sets out. -/
theorem Wired.passage_changeCard (hw : Wired master station n)
    {change : Slave → Except SlaveError (Envelope × Slave)} {native : String} {event : ReaderEvent}
    {sl sl' : Slave} (hslave : n.slave? 0 = some sl)
    (hchange : change sl = .ok (sl'.notice native event, sl'))
    (hframe : sl'.node = sl.node ∧ sl'.master = sl.master) :
    Passage master station kept n (n.changeCard 0 change).2 (.sent native event) := by
  have hchanged := hw.drift_replaceSlave hslave hframe
  have hslave' : (n.updateSlave 0 fun _ => sl').slave? 0 = some sl' := by
    rw [slave?_updateSlave, hslave]
    rfl
  have hresult : (n.changeCard 0 change).2 =
      ((n.updateSlave 0 fun _ => sl').send sl'.master (sl'.notice native event)).2 := by
    simp only [changeCard, hslave, hchange]
    split
    · rename_i hsend
      rw [hsend]
    · rename_i hsend
      rw [hsend]
  rw [hresult]
  have hsends : Passage master station kept (n.updateSlave 0 fun _ => sl')
      ((n.updateSlave 0 fun _ => sl').send sl'.master (sl'.notice native event)).2
      (.sent native event) := hchanged.wired.passage_send native event hslave'
  cases hsends with
  | sent native event wire htiding hinbox hstill hwired =>
    exact .sent native event wire htiding hinbox (hchanged.still.trans hstill) hwired

/-! ### Everything else -/

/-- The methods of operations are not that of events. -/
theorem ReaderOperation.method_ne (op : ReaderOperation) :
    Method.ofName? op.method.name ≠ some .readerEvent := by
  rw [Method.ofName?_name]
  cases op <;> simp [ReaderOperation.method]

theorem Wired.drift_launchOperation (hw : Wired master station n) (r : Nat) (reader : Reader)
    (op : ReaderOperation) : Drifts master station n (n.launchOperation r reader op).2 := by
  unfold launchOperation
  split
  · exact hw.drift_report _
  · exact hw.drift_launch _ op.method_ne _ _ _ _ _

theorem Wired.drift_connect (hw : Wired master station n) (j : Nat) (native : String)
    (mode : TransmissionMode) : Drifts master station n (n.connect j native mode).2 := by
  unfold Network.connect
  dsimp only
  refine (hw.drift_updateSlave j fun sl _ => (sl.prepare_frame native).2).andThen fun hw => ?_
  split
  · exact hw.drift_report _
  · exact hw.drift_launch _ (by rw [Method.ofName?_name]; decide) _ _ _ _ _

theorem Wired.drift_disconnect (hw : Wired master station n) (j : Nat) (native : String) :
    Drifts master station n (n.disconnect j native).2 := by
  unfold Network.disconnect
  split
  · exact hw.drift_report _
  · exact hw.drift_launch _ (by rw [Method.ofName?_name]; decide) _ _ _ _ _

theorem Wired.drift_inject (hw : Wired master station n) {node wire : String}
    (hsilent : node = master → Silent station wire) :
    Drifts master station n (n.inject node wire).2 := by
  obtain ⟨h, hlink⟩ := hw.hub?
  simp only [inject, Network.hub?, hlink]
  cases hd : h.deliver node wire with
  | error reason => exact hw.refl
  | ok h' =>
    simp only [updateHub, hlink]
    exact hw.drift_deliver hlink hd hsilent

/-- The clock and the queue of tasks change. -/
theorem Wired.drift_schedule (hw : Wired master station n) {agenda : Agenda Job}
    (htasks : agenda.tasks.map (·.job) = n.agenda.tasks.map (·.job)) :
    Drifts master station n { n with agenda := agenda } := by
  refine hw.drift_agenda fun t ht => ?_
  have hjob : t.job ∈ agenda.tasks.map (·.job) := List.mem_map_of_mem ht
  rw [htasks] at hjob
  obtain ⟨u, hu, heq⟩ := List.mem_map.1 hjob
  rw [← heq]
  exact hw.jobs u hu

/-- **Every move does one of these things to events.** -/
theorem Wired.passage {ev : Happening} (hw : Wired master station n)
    (hmove : Move master station kept n ev n') : Passage master station kept n n' ev := by
  cases hmove with
  | schedule agenda htasks => exact .drift (hw.drift_schedule htasks)
  | turn id => exact hw.passage_turn id
  | insert native card event sl sl' hslave hinsert =>
    exact hw.passage_changeCard hslave hinsert (Slave.insertCard_frame hinsert)
  | remove native event sl sl' hslave hremove =>
    exact hw.passage_changeCard hslave hremove (Slave.removeCard_frame hremove)
  | operate r reader op => exact .drift (hw.drift_launchOperation r reader op)
  | connect native mode => exact .drift (hw.drift_connect 0 native mode)
  | disconnect native => exact .drift (hw.drift_disconnect 0 native)
  | cancel id => exact .drift (hw.drift_cancel id)
  | inject node wire hsilent => exact .drift (hw.drift_inject hsilent)
  | adapt f hframe => exact .drift (hw.drift_updateSlave 0 hframe)
  | notify native event sl hslave => exact hw.passage_send native event hslave
  | drop native slave =>
    have hproceeds := Plugin.proceeds_disconnect kept hw.tended native slave
    exact .arranged (inbox_congr rfl) hproceeds { hw with tended := hproceeds.tended }
  | attend readerObservers pluginObservers hreaders hplugin hkept =>
    have htended : Plugin.Tended { n.plugin with
        readerObservers := readerObservers, pluginObservers := pluginObservers } := by
      obtain ⟨evs, hO⟩ := hw.tended.orderly
      exact ⟨⟨evs, hO.apart (.of_readers rfl rfl rfl)⟩, hreaders, hplugin⟩
    refine .arranged (inbox_congr rfl) ?_ { hw with tended := htended }
    exact ⟨rfl, Nat.le_refl _, fun _ _ hk _ => hk, fun _ k hk _ _ => hkept k hk, htended,
      fun _ _ => (List.append_nil _).symm⟩

end Passage

end CardLink
