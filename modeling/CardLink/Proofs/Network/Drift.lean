import CardLink.Network.Action
import CardLink.Proofs.Node.Hearsay
import CardLink.Proofs.Slave.Frame
import CardLink.Proofs.Transport.Run

/-!
# What goes on beside the events

Calls, responses, handshakes and the clock leave alone what is on its way to the observers of readers:
the texts in the queue of the master stay in their order, new ones carry no event, and nobody is told
anything.

* `Network.inbox`: the texts that the master has not taken yet.
* `Wired`: the master is on the hub with its queue, the first slave sends to it, and no monitor runs.
* `Drifts`: from one network to another in which nothing became of any event.
* `Wired.deliver`: a text comes into a queue.
* `Wired.drift_launch`, `drift_turnCall`, `drift_slaveReceives`, …: one lemma for each thing that a
  task or the application does.
-/

namespace CardLink

open Network

namespace Network

/-- The texts that the master has not taken yet. -/
def inbox (n : Network) : List String :=
  match n.hub? with
  | none => []
  | some h => ((h.attachment? 0).map (·.queue)).getD []

end Network

/-- No monitor, and no receiver that takes what is not its own. -/
def Job.Benign : Job → Prop
  | .call _ _ => True
  | .monitor _ _ => False
  | .pump k receiver => k = 0 ↔ receiver = .master
  | .respond _ _ e => e.isRequest = false
  | .wait _ => True

/-- **The master has the first queue of the hub, and the first slave sends to it.** -/
structure Wired (master station : String) (n : Network) : Prop where
  hub : ∃ h a, n.link = .hub h ∧ h.attachment? 0 = some a ∧ a.aborted = false ∧
    ∀ node, h.current.get? node = some 0 ↔ node = master
  slave : ∃ sl, n.slave? 0 = some sl ∧ sl.node = station ∧ sl.master = master
  jobs : ∀ t ∈ n.agenda.tasks, t.job.Benign
  tended : n.plugin.Tended

/-- **Nothing became of any event**: the queue of the master has at most got more texts that carry
none, and nobody was told anything. -/
structure Drifts (master station : String) (n n' : Network) : Prop where
  wired : Wired master station n'
  inbox : ∃ ws, n'.inbox = n.inbox ++ ws ∧ ∀ w ∈ ws, Silent station w
  still : Plugin.Still n.plugin n'.plugin

section Drift

variable {master station : String} {n n' n'' : Network}

theorem Wired.refl (h : Wired master station n) : Drifts master station n n :=
  ⟨h, ⟨[], (List.append_nil _).symm, fun _ hw => absurd hw List.not_mem_nil⟩, .refl _⟩

/-- What drifts goes on to drift. -/
theorem Drifts.andThen (h : Drifts master station n n')
    (h' : Wired master station n' → Drifts master station n' n'') :
    Drifts master station n n'' := by
  obtain ⟨ws, hws, hsilent⟩ := h.inbox
  obtain ⟨ws', hws', hsilent'⟩ := (h' h.wired).inbox
  refine ⟨(h' h.wired).wired, ⟨ws ++ ws', ?_, fun w hw => ?_⟩, h.still.trans (h' h.wired).still⟩
  · rw [hws', hws, List.append_assoc]
  · rcases List.mem_append.1 hw with hw | hw
    · exact hsilent w hw
    · exact hsilent' w hw

theorem inbox_congr (h : n'.link = n.link) : n'.inbox = n.inbox := by
  unfold Network.inbox Network.hub?
  rw [h]

theorem inbox_hub {h : Hub} (hlink : n.link = .hub h) :
    n.inbox = ((h.attachment? 0).map (·.queue)).getD [] := by
  simp only [Network.inbox, Network.hub?, hlink]

/-! ## 1. What concerns no queue -/

/-- Nothing happens on the link. -/
theorem Wired.drift (h : Wired master station n) (hlink : n'.link = n.link)
    (hslave : ∀ sl, n.slave? 0 = some sl →
      ∃ sl', n'.slave? 0 = some sl' ∧ sl'.node = sl.node ∧ sl'.master = sl.master)
    (hjobs : ∀ t ∈ n'.agenda.tasks, t.job.Benign) (hstill : Plugin.Still n.plugin n'.plugin) :
    Drifts master station n n' where
  wired :=
    { hub := by
        rw [hlink]
        exact h.hub
      slave := by
        obtain ⟨sl, hsl, hnode, hmaster⟩ := h.slave
        obtain ⟨sl', hsl', hnode', hmaster'⟩ := hslave sl hsl
        exact ⟨sl', hsl', hnode'.trans hnode, hmaster'.trans hmaster⟩
      jobs := hjobs
      tended := h.tended.still hstill }
  inbox := ⟨[], by rw [inbox_congr hlink, List.append_nil], fun _ hw => absurd hw List.not_mem_nil⟩
  still := hstill

theorem Wired.drift_agenda (h : Wired master station n) {agenda : Agenda Job}
    (hjobs : ∀ t ∈ agenda.tasks, t.job.Benign) :
    Drifts master station n { n with agenda := agenda } :=
  h.drift rfl (fun sl hsl => ⟨sl, hsl, rfl, rfl⟩) hjobs (.refl _)

/-- Results, ids and what the application holds on to. -/
theorem Wired.drift_ledger (h : Wired master station n) (kept : Table Nat) (freshIds : Nat)
    (results : List (Nat × Result)) :
    Drifts master station n { n with kept := kept, freshIds := freshIds, results := results } :=
  h.drift rfl (fun sl hsl => ⟨sl, hsl, rfl, rfl⟩) h.jobs (.refl _)

theorem Wired.drift_client (h : Wired master station n) (client : Client) :
    Drifts master station n { n with client := client } :=
  h.drift rfl (fun sl hsl => ⟨sl, hsl, rfl, rfl⟩) h.jobs (.refl _)

theorem Wired.drift_node (h : Wired master station n) {node : Node}
    (hstill : Plugin.Still n.plugin node.plugin) :
    Drifts master station n { n with node := node } :=
  h.drift rfl (fun sl hsl => ⟨sl, hsl, rfl, rfl⟩) h.jobs hstill

theorem slave?_updateSlave (n : Network) (j m : Nat) (f : Slave → Slave) :
    (n.updateSlave j f).slave? m = (n.slave? m).map fun sl => if j = m then f sl else sl := by
  show (n.slaves.modify j f)[m]? = (n.slaves[m]?).map _
  rw [List.getElem?_modify]
  cases n.slaves[m]? with
  | none => rfl
  | some sl => by_cases hjm : j = m <;> simp [hjm]

/-- A slave changes, under the same names. -/
theorem Wired.drift_updateSlave (h : Wired master station n) (j : Nat) {f : Slave → Slave}
    (hf : ∀ sl, n.slave? j = some sl → (f sl).node = sl.node ∧ (f sl).master = sl.master) :
    Drifts master station n (n.updateSlave j f) := by
  refine h.drift rfl (fun sl hsl => ?_) h.jobs (.refl _)
  have hget : (n.updateSlave j f).slave? 0 = some (if j = 0 then f sl else sl) := by
    rw [slave?_updateSlave, hsl]
    rfl
  by_cases hj : j = 0
  · subst hj
    exact ⟨f sl, by rw [hget, if_pos rfl], hf sl hsl⟩
  · exact ⟨sl, by rw [hget, if_neg hj], rfl, rfl⟩

/-- A change of a reader that neither the registry nor its observers are concerned with. -/
theorem Plugin.still_updateReader (p : Plugin) (r : Nat) {f : Reader → Reader}
    (hf : ∀ reader, (f reader).standing = reader.standing) : Still p (p.updateReader r f) :=
  ⟨apart_updateReader p r hf, rfl, rfl, rfl, rfl⟩

theorem Wired.drift_updateEngine (h : Wired master station n) (caller : Caller)
    (f : Engine → Engine) : Drifts master station n (n.updateEngine caller f) := by
  cases caller with
  | client => exact h.drift_client _
  | reader r => exact h.drift_node (n.plugin.still_updateReader r fun _ => rfl)
  | slave j => exact h.drift_updateSlave j fun _ _ => ⟨rfl, rfl⟩

theorem Wired.drift_updateMetrics (h : Wired master station n) (caller : Caller)
    (f : Metrics → Metrics) : Drifts master station n (n.updateMetrics caller f) := by
  cases caller with
  | client => exact h.drift_client _
  | reader r => exact h.drift_node (.refl _)
  | slave j => exact h.refl

/-! ## 2. Tasks -/

theorem Wired.drift_spawn (h : Wired master station n) {job : Job} (hjob : job.Benign) :
    Drifts master station n (n.spawn job).2 := by
  refine h.drift_agenda fun t ht => ?_
  rcases List.mem_append.1 ht with ht | ht
  · exact h.jobs t ht
  · rw [List.mem_singleton.1 ht]
    exact hjob

theorem Wired.drift_endTask (h : Wired master station n) (id : Nat) :
    Drifts master station n (n.endTask id) :=
  h.drift_agenda fun t ht => h.jobs t (List.mem_of_mem_filter ht)

theorem Wired.drift_complete (h : Wired master station n) (id : Nat) (r : Result) :
    Drifts master station n (n.complete id r) :=
  (h.drift_endTask id).andThen fun h => h.drift_ledger _ _ _

theorem Wired.drift_report (h : Wired master station n) (r : Result) :
    Drifts master station n (n.report r).2 := by
  have hcounted : Drifts master station n
      { n with agenda := { n.agenda with nextId := n.agenda.nextId + 1 } } := h.drift_agenda h.jobs
  exact hcounted.andThen fun h => h.drift_ledger _ _ _

/-- A task changes its job, or its alarm. -/
theorem benign_update {agenda : Agenda Job} (h : ∀ t ∈ agenda.tasks, t.job.Benign) (id : Nat)
    {f : Task Job → Task Job} (hf : ∀ t, t.job.Benign → (f t).job.Benign) :
    ∀ t ∈ (agenda.update id f).tasks, t.job.Benign := by
  intro t ht
  obtain ⟨u, hu, rfl⟩ := List.mem_map.1 ht
  split
  · exact hf u (h u hu)
  · exact h u hu

theorem benign_setJob {agenda : Agenda Job} (h : ∀ t ∈ agenda.tasks, t.job.Benign) (id : Nat)
    (job : Job) (hjob : job.Benign) : ∀ t ∈ (agenda.setJob id job).tasks, t.job.Benign :=
  benign_update h id fun _ _ => hjob

theorem benign_setAlarm {agenda : Agenda Job} (h : ∀ t ∈ agenda.tasks, t.job.Benign)
    (id due : Nat) : ∀ t ∈ (agenda.setAlarm id due).tasks, t.job.Benign :=
  benign_update h id fun _ ht => ht

theorem benign_awaitTime {agenda : Agenda Job} (h : ∀ t ∈ agenda.tasks, t.job.Benign)
    (id due : Nat) : ∀ t ∈ (agenda.awaitTime id due).tasks, t.job.Benign := by
  unfold Agenda.awaitTime
  split
  · split
    · exact h
    · exact benign_setAlarm h id due
  · exact benign_setAlarm h id due

/-! ## 3. The hub -/

/-- A queue changes, and no attachment comes or goes. -/
theorem Wired.relink (hw : Wired master station n) {h : Hub} (hlink : n.link = .hub h) (k : Nat)
    (f : List String → List String) (metrics : Metrics) :
    Wired master station { n with link := .hub { h.update k (fun a =>
        { a with queue := f a.queue }) with metrics := metrics } } ∧
      Network.inbox { n with link := .hub { h.update k (fun a =>
        { a with queue := f a.queue }) with metrics := metrics } } =
        if k = 0 then f n.inbox else n.inbox := by
  obtain ⟨h', a, hlink', ha, hopen, hcurrent⟩ := hw.hub
  rw [hlink] at hlink'
  obtain rfl := Link.hub.inj hlink'
  have ha' := Hub.attachment?_update h k 0 fun a => { a with queue := f a.queue }
  rw [ha] at ha'
  refine ⟨{ hw with hub := ⟨_, _, rfl, ha', ?_, hcurrent⟩ }, ?_⟩
  · split
    · exact hopen
    · exact hopen
  · rw [inbox_hub rfl, inbox_hub hlink, ha]
    show (((h.update k fun a => { a with queue := f a.queue }).attachment? 0).map _).getD [] = _
    rw [ha']
    split
    · rfl
    · rfl

/-- **A text comes into a queue**, that of the master if it is for the master. -/
theorem Wired.deliver (hw : Wired master station n) {h h' : Hub} (hlink : n.link = .hub h)
    {target wire : String} (hd : h.deliver target wire = .ok h') :
    Wired master station { n with link := .hub h' } ∧
      Network.inbox { n with link := .hub h' } =
        if target = master then n.inbox ++ [wire] else n.inbox := by
  unfold Hub.deliver at hd
  split at hd
  · cases hd
  · rename_i k hk
    have hzero : k = 0 ↔ target = master := by
      obtain ⟨h', a, hlink', -, -, hcurrent⟩ := hw.hub
      rw [hlink] at hlink'
      obtain rfl := Link.hub.inj hlink'
      rw [← hcurrent target, hk, Option.some.injEq]
    split at hd
    · cases hd
    · split at hd
      · cases hd
      · cases hd
        have hrelinked := hw.relink hlink k (· ++ [wire])
          (h.metrics.recordSend wire.utf8ByteSize)
        simp only [hzero] at hrelinked
        exact hrelinked

/-- The master can be reached. -/
theorem Wired.deliver_master (hw : Wired master station n) {h : Hub} (hlink : n.link = .hub h)
    (wire : String) : ∃ h', h.deliver master wire = .ok h' := by
  obtain ⟨h', a, hlink', ha, hopen, hcurrent⟩ := hw.hub
  rw [hlink] at hlink'
  obtain rfl := Link.hub.inj hlink'
  have hmaster := (hcurrent master).2 rfl
  exact ⟨_, by simp only [Hub.deliver, hmaster, ha, hopen]; rfl⟩

/-- A text that carries no event comes into a queue. -/
theorem Wired.drift_deliver (hw : Wired master station n) {h h' : Hub} (hlink : n.link = .hub h)
    {target wire : String} (hd : h.deliver target wire = .ok h')
    (hsilent : target = master → Silent station wire) :
    Drifts master station n { n with link := .hub h' } := by
  obtain ⟨hwired, hinbox⟩ := hw.deliver hlink hd
  refine ⟨hwired, ?_, .refl _⟩
  by_cases htarget : target = master
  · rw [if_pos htarget] at hinbox
    refine ⟨[wire], hinbox, fun w hmem => ?_⟩
    rw [List.mem_singleton.1 hmem]
    exact hsilent htarget
  · rw [if_neg htarget] at hinbox
    exact ⟨[], by rw [hinbox, List.append_nil], fun _ hmem => absurd hmem List.not_mem_nil⟩

theorem Wired.hub? (hw : Wired master station n) : ∃ h, n.link = .hub h := by
  obtain ⟨h, a, hlink, -⟩ := hw.hub
  exact ⟨h, hlink⟩

/-- The hub counts, and nothing else changes. -/
theorem Wired.drift_count (hw : Wired master station n) {h : Hub} (hlink : n.link = .hub h)
    (metrics : Metrics) :
    Drifts master station n { n with link := .hub { h with metrics := metrics } } := by
  obtain ⟨h', a, hlink', ha, hopen, hcurrent⟩ := hw.hub
  rw [hlink] at hlink'
  obtain rfl := Link.hub.inj hlink'
  refine ⟨{ hw with hub := ⟨_, a, rfl, ha, hopen, hcurrent⟩ }, ⟨[], ?_, ?_⟩, .refl _⟩
  · rw [inbox_hub rfl, inbox_hub hlink, List.append_nil]
    rfl
  · exact fun _ hmem => absurd hmem List.not_mem_nil

/-- **An envelope that carries no event is sent.** -/
theorem Wired.drift_beginSending (hw : Wired master station n) (target : String) {e : Envelope}
    (hsilent : Silent station e.toWire) :
    Drifts master station n (n.beginSending target e).2 := by
  obtain ⟨h, hlink⟩ := hw.hub?
  unfold beginSending Hub.send
  simp only [hlink]
  cases hd : h.deliver target e.toWire with
  | ok h' => exact hw.drift_deliver hlink hd fun _ => hsilent
  | error reason => exact hw.drift_count hlink _

/-- Nothing is left to be done when the sending over a hub is over. -/
theorem Wired.endSending (hw : Wired master station n) (target : String) (e : Envelope) :
    n.endSending target e = n := by
  obtain ⟨h, hlink⟩ := hw.hub?
  simp only [Network.endSending, updateOutbox, hlink]

/-! ## 4. Calls -/

theorem Wired.drift_chooseId (hw : Wired master station n) (id : Option String) :
    Drifts master station n (n.chooseId id).2 := by
  cases id with
  | some id => exact hw.refl
  | none => exact hw.drift_ledger _ _ _

/-- **A call begins**, of any method but that of events. -/
theorem Wired.drift_start (hw : Wired master station n) (caller : Caller) {action : String}
    (haction : Method.ofName? action ≠ some .readerEvent) (body : String) (route : Route)
    (id : Option String) (patience : Nat) :
    Drifts master station n (n.start caller action body route id patience).2 := by
  refine (hw.drift_chooseId id).andThen fun hw => ?_
  unfold start
  generalize n.chooseId id = chosen at hw ⊢
  obtain ⟨i, n₁⟩ := chosen
  dsimp only at hw ⊢
  cases n₁.engine? caller with
  | none => exact hw.refl
  | some engine =>
    dsimp only
    cases engine.start i action patience n₁.now with
    | mk verdict engine' =>
      cases verdict with
      | error reason => exact hw.refl
      | ok key =>
        dsimp only
        have hsilent : Silent station (Envelope.request action body route i).toWire :=
          silent_of_action haction
        have hsent := (hw.drift_updateEngine caller fun _ => engine').andThen fun hw =>
          hw.drift_beginSending route.target hsilent
        generalize (n₁.updateEngine caller fun _ => engine').beginSending route.target
          (.request action body route i) = sending at hsent ⊢
        obtain ⟨result, n₂⟩ := sending
        cases result with
        | error reason => exact hsent.andThen fun hw => hw.drift_updateEngine caller _
        | ok due =>
          cases due with
          | some due => exact hsent
          | none => exact hsent.andThen fun hw => hw.drift_updateEngine caller _

/-- A slave is replaced by what it has become. -/
theorem Wired.drift_replaceSlave (hw : Wired master station n) {j : Nat} {sl sl' : Slave}
    (hsl : n.slave? j = some sl) (hframe : sl'.node = sl.node ∧ sl'.master = sl.master) :
    Drifts master station n (n.updateSlave j fun _ => sl') := by
  refine hw.drift_updateSlave j fun sl₀ hsl₀ => ?_
  rw [hsl] at hsl₀
  rw [← Option.some.inj hsl₀]
  exact hframe

theorem standing_remember (op : ReaderOperation) (r : Reader) :
    (r.remember op).standing = r.standing := by
  cases op <;> rfl

/-- **A call has its result**, whatever that is for. -/
theorem Wired.drift_conclude (hw : Wired master station n) (purpose : Purpose) (caller : Caller)
    (result : Except CallError String) :
    Drifts master station n (n.conclude purpose caller result).2 := by
  unfold conclude
  split
  · rename_i op r
    cases hr : n.plugin.reader? r with
    | none => exact hw.refl
    | some reader =>
      dsimp only
      cases op.conclude reader.name result with
      | ok answer => exact hw.drift_node (n.plugin.still_updateReader r (standing_remember op))
      | error reason => exact hw.refl
  · rename_i native j
    cases hj : n.slave? j with
    | none => exact hw.refl
    | some sl => exact hw.drift_replaceSlave hj (sl.connected_frame native result)
  · rename_i native j
    cases hj : n.slave? j with
    | none => exact hw.refl
    | some sl => exact hw.drift_replaceSlave hj (sl.disconnected_frame native result)
  · exact hw.refl

theorem Wired.drift_launch (hw : Wired master station n) (caller : Caller) {action : String}
    (haction : Method.ofName? action ≠ some .readerEvent) (body : String) (route : Route)
    (id : Option String) (patience : Nat) (purpose : Purpose) :
    Drifts master station n (n.launch caller action body route id patience purpose).2 := by
  have hstart := hw.drift_start caller haction body route id patience
  unfold launch
  generalize n.start caller action body route id patience = started at hstart ⊢
  obtain ⟨result, n₁⟩ := started
  cases result with
  | ok t => exact hstart.andThen fun hw => hw.drift_spawn trivial
  | error reason =>
    exact (hstart.andThen fun hw => hw.drift_conclude purpose caller (.error reason)).andThen
      fun hw => hw.drift_report _

theorem Wired.drift_pollWaiting (hw : Wired master station n) (t : Ticket) :
    Drifts master station n (n.pollWaiting t).2 := by
  unfold pollWaiting
  split
  · exact hw.refl
  · split
    · exact (hw.drift_updateEngine t.caller _).andThen fun hw => hw.drift_updateMetrics t.caller _
    · split
      · exact hw.refl
      · exact hw.refl

theorem Wired.drift_poll (hw : Wired master station n) (t : Ticket) :
    Drifts master station n (n.poll t).2 := by
  unfold poll
  split
  · exact hw.drift_pollWaiting t
  · split
    · unfold requestSent
      rw [hw.endSending]
      exact (hw.drift_updateEngine t.caller _).andThen fun hw => hw.drift_pollWaiting _
    · exact hw.refl

theorem Wired.drift_turnCall (hw : Wired master station n) (id : Nat) (t : Ticket)
    (purpose : Purpose) : Drifts master station n (n.turnCall id t purpose) := by
  have hpoll := hw.drift_poll t
  unfold turnCall
  generalize n.poll t = polled at hpoll ⊢
  obtain ⟨standing, n₁⟩ := polled
  rcases standing with ⟨due, t⟩ | result
  · exact hpoll.andThen fun hw => hw.drift_agenda
      (benign_awaitTime (benign_setJob hw.jobs id (.call t purpose) trivial) id due)
  · exact (hpoll.andThen fun hw => hw.drift_conclude purpose t.caller result).andThen
      fun hw => hw.drift_complete id _

/-- A call is given up. -/
theorem Wired.drift_cancel (hw : Wired master station n) (id : Nat) :
    Drifts master station n (n.cancel id).2 := by
  unfold cancel
  split
  · exact hw.refl
  · split
    · exact (hw.drift_updateEngine _ _).andThen fun hw => hw.drift_endTask id
    · exact hw.drift_endTask id

/-! ## 5. The slave -/

/-- **A slave takes in an envelope.** -/
theorem Wired.drift_slaveReceives (hw : Wired master station n) (j : Nat) (e : Envelope) :
    Drifts master station n (n.slaveReceives j e) := by
  unfold slaveReceives
  cases hj : n.slave? j with
  | none => exact hw.refl
  | some sl =>
    obtain ⟨hresponse, hframe⟩ := sl.receive_frame e
    dsimp only
    generalize sl.receive e = received at hresponse hframe ⊢
    obtain ⟨response, sl'⟩ := received
    have hslave := hw.drift_replaceSlave hj hframe
    cases response with
    | none => exact hslave
    | some r => exact hslave.andThen fun hw => hw.drift_spawn (hresponse r rfl)

/-- The response of a slave waits for its time, or is sent. -/
theorem Wired.drift_turnRespond (hw : Wired master station n) (id delay : Nat) (target : String)
    {response : Envelope} (hresponse : response.isRequest = false) :
    Drifts master station n (n.turnRespond id delay target response) := by
  unfold turnRespond
  split
  · exact (hw.drift_beginSending target (silent_of_response hresponse)).andThen
      fun hw => hw.drift_endTask id
  · exact hw.drift_agenda
      (benign_setAlarm (benign_setJob hw.jobs id (.respond 0 target response) hresponse) id _)

theorem Wired.drift_turnWait (hw : Wired master station n) (id count : Nat) :
    Drifts master station n (n.turnWait id count) := by
  unfold turnWait
  split
  · exact hw.drift_complete id _
  · exact hw.refl

end Drift

end CardLink
