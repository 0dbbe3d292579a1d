import CardLink.Proofs.Engine.Idle
import CardLink.Proofs.Envelope.Wire
import CardLink.Proofs.Network.Stage

/-!
# Single turns on a stage

What each task does to a scene in one turn: a receiver takes a text or waits, a call looks for its
response, a response sets out on its way.

* `Network.beginSending_master`, `beginSending_station`: a text comes into the other's queue.
* `Network.start_stage`: a call on an idle engine sets out.
* `leads_text_to_master`, `leads_text_to_slave`: a receiver takes the first text of its queue.
* `leads_call_waits`, `leads_call_over`: a call waits for its response, and ends with it.
* `leads_response_sets_out`, `leads_response_is_sent`: the two turns of a response.
-/

namespace CardLink

open Network

/-! ## 1. The parts of a stage -/

namespace Scene

def updateEngine (s : Scene) (caller : Caller) (f : Engine → Engine) : Scene :=
  match caller with
  | .client => { s with client := { s.client with engine := f s.client.engine } }
  | .reader r => { s with plugin := s.plugin.updateEngine r f }
  | .slave 0 => { s with slave := { s.slave with engine := f s.slave.engine } }
  | .slave (_ + 1) => s

theorem awake_alone {s : Scene} (h : s.others = []) :
    s.awake = joined (!s.toSlave.isEmpty) 1 (joined (!s.toMaster.isEmpty) 0 s.ready) := by
  unfold awake
  rw [h]
  rfl

theorem awake_call {s : Scene} {i : Nat} {t : Ticket} {p : Purpose} {alarm : Option Alarm}
    (h : s.others = [⟨i, .call t p, alarm⟩]) :
    s.awake = joined (s.hasMail t) i
      (joined (!s.toSlave.isEmpty) 1 (joined (!s.toMaster.isEmpty) 0 s.ready)) := by
  unfold awake
  rw [h]
  rfl

theorem awake_respond {s : Scene} {i j d : Nat} {t : Ticket} {p : Purpose} {target : String}
    {e : Envelope} {alarm alarm' : Option Alarm}
    (h : s.others = [⟨i, .call t p, alarm⟩, ⟨j, .respond d target e, alarm'⟩]) :
    s.awake = joined (s.hasMail t) i
      (joined (!s.toSlave.isEmpty) 1 (joined (!s.toMaster.isEmpty) 0 s.ready)) := by
  unfold awake
  rw [h]
  exact joined_false j _

theorem plain_alone {s : Scene} (h : s.others = []) : s.Plain := by
  intro t ht
  rw [h] at ht
  exact absurd ht List.not_mem_nil

theorem plain_call {s : Scene} {i : Nat} {t : Ticket} {p : Purpose} {alarm : Option Alarm}
    (h : s.others = [⟨i, .call t p, alarm⟩]) : s.Plain := by
  intro u hu
  rw [h, List.mem_singleton] at hu
  exact .inl ⟨t, p, by rw [hu]⟩

theorem plain_respond {s : Scene} {i j d : Nat} {t : Ticket} {p : Purpose} {target : String}
    {e : Envelope} {alarm alarm' : Option Alarm}
    (h : s.others = [⟨i, .call t p, alarm⟩, ⟨j, .respond d target e, alarm'⟩]) : s.Plain := by
  intro u hu
  rw [h] at hu
  rcases List.mem_cons.1 hu with rfl | hu
  · exact .inl ⟨t, p, rfl⟩
  · exact .inr ⟨d, target, e, by rw [List.mem_singleton.1 hu]⟩

end Scene

namespace Network

section Parts

variable {master station : String} {b : Backstage} {s : Scene}

theorem updateEngine_stage (caller : Caller) (f : Engine → Engine) :
    (stage master station b s).updateEngine caller f =
      stage master station b (s.updateEngine caller f) := by
  match caller with
  | .client => rfl
  | .reader _ => rfl
  | .slave 0 => rfl
  | .slave (j + 1) => simp [updateEngine, updateSlave, stage, Scene.updateEngine]

variable (master station b s) in
theorem updateMetrics_stage {caller : Caller} (h : caller ≠ .client) (f : Metrics → Metrics) :
    ∃ b', (stage master station b s).updateMetrics caller f = stage master station b' s := by
  cases caller with
  | client => exact absurd rfl h
  | reader r => exact ⟨{ b with metrics := f b.metrics }, rfl⟩
  | slave j => exact ⟨b, rfl⟩

/-- The receivers are not among the tasks with later ids. -/
theorem task?_stage {i : Nat} (h : 2 ≤ i) :
    (stage master station b s).agenda.task? i = s.others.find? (·.id == i) := by
  have h0 : (0 == i) = false := by simp; omega
  have h1 : (1 == i) = false := by simp; omega
  show List.find? _ (_ :: _ :: s.others) = _
  rw [List.find?_cons_of_neg (by simp [h0]), List.find?_cons_of_neg (by simp [h1])]

theorem update_stage {i : Nat} (h : 2 ≤ i) (f : Task Job → Task Job) :
    (stage master station b s).agenda.update i f =
      (stage master station b { s with
        others := s.others.map fun t => if t.id = i then f t else t }).agenda := by
  have h0 : 0 ≠ i := by omega
  have h1 : 1 ≠ i := by omega
  simp [Agenda.update, stage, h0, h1]

theorem setAlarm_stage {i : Nat} (h : 2 ≤ i) (due : Nat) :
    (stage master station b s).agenda.setAlarm i due =
      (stage master station b { s with
        others := s.others.map fun t =>
          if t.id = i then { t with alarm := some ⟨due, s.nextOrder⟩ } else t
        nextOrder := s.nextOrder + 1 }).agenda := by
  unfold Agenda.setAlarm
  rw [update_stage h]
  rfl

theorem remove_stage {i : Nat} (h : 2 ≤ i) :
    (stage master station b s).agenda.remove i =
      (stage master station b { s with
        others := s.others.filter (·.id != i)
        ready := s.ready.filter (· != i) }).agenda := by
  have h0 : 0 ≠ i := by omega
  have h1 : 1 ≠ i := by omega
  simp [Agenda.remove, stage, h0, h1]

variable (master station b s)

/-- **What is sent to the slave comes into its queue.** -/
theorem beginSending_station (e : Envelope) :
    ∃ b', (stage master station b s).beginSending station e =
      (.ok none, stage master station b' { s with toSlave := s.toSlave ++ [e.toWire] }) := by
  refine ⟨{ b with hubMetrics := b.hubMetrics.recordSend e.toWire.utf8ByteSize }, ?_⟩
  simp [beginSending, stage, Hub.send, Hub.deliver, current_station, Hub.attachment?, Hub.update,
    Except.map]

/-- **What is sent to the master comes into its queue.** -/
theorem beginSending_master (hne : master ≠ station) (e : Envelope) :
    ∃ b', (stage master station b s).beginSending master e =
      (.ok none, stage master station b' { s with toMaster := s.toMaster ++ [e.toWire] }) := by
  refine ⟨{ b with hubMetrics := b.hubMetrics.recordSend e.toWire.utf8ByteSize }, ?_⟩
  simp [beginSending, stage, Hub.send, Hub.deliver, current_master hne, Hub.attachment?, Hub.update,
    Except.map]

end Parts

/-! ## 2. Receivers -/

section Receivers

variable {master station : String} {b : Backstage} {s : Scene}

theorem turn_master_idle (hne : master ≠ station) (h : s.toMaster = []) :
    (stage master station b s).turn 0 = stage master station b s := by
  simp [turn, stage, Agenda.task?, turnPump, hub?, Hub.take, Hub.attachment?, Hub.isFinished,
    Hub.isCurrent, current_master hne, h]

theorem turn_slave_idle (h : s.toSlave = []) :
    (stage master station b s).turn 1 = stage master station b s := by
  simp [turn, stage, Agenda.task?, turnPump, hub?, Hub.take, Hub.attachment?, Hub.isFinished,
    Hub.isCurrent, current_station, h]

variable (master station b s)

theorem turn_master_takes {e : Envelope} {rest : List String} (h : s.toMaster = e.toWire :: rest) :
    ∃ b', (stage master station b s).turn 0 =
      ((stage master station b' { s with toMaster := rest }).masterReceives e).mapAgenda
        (·.wakeFirst 0) := by
  refine ⟨{ b with hubMetrics := b.hubMetrics.recordReceive e.toWire.utf8ByteSize }, ?_⟩
  simp [turn, stage, Agenda.task?, turnPump, hub?, updateHub, Hub.take, Hub.attachment?, Hub.update,
    h, Envelope.ofWire_toWire, receive]

theorem turn_slave_takes {e : Envelope} {rest : List String} (h : s.toSlave = e.toWire :: rest) :
    ∃ b', (stage master station b s).turn 1 =
      ((stage master station b' { s with toSlave := rest }).slaveReceives 0 e).mapAgenda
        (·.wakeFirst 1) := by
  refine ⟨{ b with hubMetrics := b.hubMetrics.recordReceive e.toWire.utf8ByteSize }, ?_⟩
  simp [turn, stage, Agenda.task?, turnPump, hub?, updateHub, Hub.take, Hub.attachment?, Hub.update,
    h, Envelope.ofWire_toWire, receive]

/-- A request that wants no reply, or gets none. -/
theorem masterReceives_handled {e : Envelope} {v : Except ReaderError Delivery} {p : Plugin}
    (hrequest : e.isRequest = true) (h : s.plugin.handle e = some (⟨v, none⟩, p)) :
    ∃ b', (stage master station b s).masterReceives e =
      stage master station b' { s with plugin := p } := by
  cases v with
  | ok d =>
    refine ⟨{ b with stats := b.stats.receive.dispatch }, ?_⟩
    simp [masterReceives, Node.dispatch, hrequest, stage, h, Node.close, Node.result,
      Node.withPlugin]
  | error reason =>
    refine ⟨{ b with stats := b.stats.receive.failHandling }, ?_⟩
    simp [masterReceives, Node.dispatch, hrequest, stage, h, Node.close, Node.result,
      Node.withPlugin]

/-- A request of the slave that is replied to, whether it was granted or refused. -/
theorem masterReceives_replied {e reply : Envelope} {v : Except ReaderError Delivery} {p : Plugin}
    (hrequest : e.isRequest = true) (hrequester : e.route.requester = station)
    (h : s.plugin.handle e = some (⟨v, some reply⟩, p)) :
    ∃ b', (stage master station b s).masterReceives e =
      stage master station b' { s with plugin := p, toSlave := s.toSlave ++ [reply.toWire] } := by
  obtain ⟨b', hb'⟩ := beginSending_station master station { b with stats := b.stats.receive }
    { s with plugin := p } reply
  have hdispatch : (stage master station b s).node.dispatch e =
      (.replying ⟨station, reply, v⟩,
        ⟨b.config, p, b.stats.receive, b.metrics⟩) := by
    simp [Node.dispatch, hrequest, stage, h, Node.withPlugin, hrequester]
  have hsend : beginSending station reply { stage master station b s with
      node := ⟨b.config, p, b.stats.receive, b.metrics⟩ } = _ := hb'
  cases v with
  | ok d =>
    refine ⟨{ b' with stats := b'.stats.dispatch }, ?_⟩
    simp only [masterReceives, hdispatch, hsend]
    rfl
  | error reason =>
    refine ⟨{ b' with stats := b'.stats.failHandling }, ?_⟩
    simp only [masterReceives, hdispatch, hsend]
    rfl

/-- A response for a call that waits for it. -/
theorem masterReceives_response {e : Envelope} {id : String} {r : Nat}
    (hresponse : e.isRequest = false) (hid : e.id = some id)
    (howner : s.plugin.owner? e.route.virtualReader id = some r) :
    ∃ b', (stage master station b s).masterReceives e = stage master station b'
      { s with plugin := s.plugin.updateEngine r fun engine => (engine.accept e).2 } := by
  refine ⟨{ b with stats := b.stats.receive.resolve }, ?_⟩
  simp [masterReceives, Node.dispatch, hresponse, Node.resolve, hid, stage, howner]

/-- A request that the slave answers: the response becomes a task. -/
theorem slaveReceives_request {e response : Envelope} {sl : Slave}
    (h : s.slave.receive e = (some response, sl)) :
    (stage master station b s).slaveReceives 0 e = stage master station b { s with
      slave := sl
      others := s.others ++ [⟨s.nextId, .respond sl.delay e.route.requester response, none⟩]
      ready := s.ready ++ [s.nextId]
      nextId := s.nextId + 1 } := by
  simp [slaveReceives, slave?, stage, h, spawn, Agenda.spawn, updateSlave]

theorem slaveReceives_response {e : Envelope} {sl : Slave}
    (h : s.slave.receive e = (none, sl)) :
    (stage master station b s).slaveReceives 0 e =
      stage master station b { s with slave := sl } := by
  simp [slaveReceives, slave?, stage, h, updateSlave]

end Receivers

/-! ## 3. Calls and responses -/

section Calls

variable {master station : String} {b : Backstage} {s : Scene} {i : Nat} {t : Ticket} {p : Purpose}
  {alarm : Option Alarm} {c : Call}

section Poll

variable (master station b)

theorem poll_stage (hsent : t.sendingUntil = none) (hcall : s.call? t = some c) {deadline : Nat}
    (hphase : c.phase = .waiting deadline) (hempty : c.mailbox = .empty) (hlate : s.now < deadline) :
    (stage master station b s).poll t = (.under deadline t, stage master station b s) := by
  have hc : ((stage master station b s).engine? t.caller).bind (·.call? t.key) = some c := by
    rw [engine?_stage]
    exact hcall
  have hlate' : ¬ deadline ≤ (stage master station b s).now := Nat.not_le.2 hlate
  simp only [poll, hsent, pollWaiting, hc, Call.ending?, hphase, hempty, if_neg hlate']

theorem poll_stage_answered (hsent : t.sendingUntil = none) (hcall : s.call? t = some c)
    {deadline : Nat} (hphase : c.phase = .waiting deadline) {e : Envelope}
    (hmail : c.mailbox = .delivered e) (hcaller : t.caller ≠ .client) :
    ∃ b', (stage master station b s).poll t = (.over e.result,
      stage master station b' (s.updateEngine t.caller (·.release t.key))) := by
  have hc : ((stage master station b s).engine? t.caller).bind (·.call? t.key) = some c := by
    rw [engine?_stage]
    exact hcall
  obtain ⟨b', hb'⟩ := updateMetrics_stage master station b
    (s.updateEngine t.caller (·.release t.key)) hcaller
    (CallEnding.answered e ((stage master station b s).now - c.started)).record
  refine ⟨b', ?_⟩
  rw [← hb', ← updateEngine_stage]
  simp only [poll, hsent, pollWaiting, hc, Call.ending?, hphase, hmail]
  rfl

end Poll

theorem complete_stage (h : 2 ≤ i) (r : Result) :
    (stage master station b s).complete i r = stage master station b { s with
      others := s.others.filter (·.id != i)
      ready := s.ready.filter (· != i)
      results := s.results ++ [(i, r)] } := by
  show { stage master station b s with
    agenda := (stage master station b s).agenda.remove i
    results := s.results ++ [(i, r)] } = _
  rw [remove_stage h]
  rfl

end Calls

section Start

variable {master station : String} {s s' : Scene} {caller : Caller} {e : Engine}
  {action body : String} {route : Route} {patience : Nat}

/-- **A call on an idle engine sets out.** -/
theorem start_stage (hengine : s.engine? caller = some e) (hidle : e.Idle)
    (hsend : ∀ b, ∃ b', (stage master station b
      (Scene.updateEngine { s with freshIds := s.freshIds + 1 } caller fun _ =>
        e.admitting s.drawn action patience s.now)).beginSending
          route.target (.request action body route s.drawn) =
      (.ok none, stage master station b' s')) (b : Backstage) :
    ∃ b', (stage master station b s).start caller action body route none patience =
      (.ok ⟨caller, e.nextKey, route.target,
          .request action body route s.drawn, none⟩,
        stage master station b' (s'.updateEngine caller (·.sent e.nextKey s'.now))) := by
  obtain ⟨b', hb'⟩ := hsend b
  refine ⟨b', ?_⟩
  have hengine' : (stage master station b { s with freshIds := s.freshIds + 1 }).engine? caller =
      some e := by
    rw [engine?_stage]
    exact hengine
  have hid : (stage master station b s).chooseId none = (s.drawn,
      stage master station b { s with freshIds := s.freshIds + 1 }) := rfl
  have hstart : e.start s.drawn action patience
      (stage master station b { s with freshIds := s.freshIds + 1 }).now = _ := hidle.start
  rw [← updateEngine_stage] at hb' ⊢
  simp only [start, hid, hengine', hstart]
  rw [show (stage master station b { s with freshIds := s.freshIds + 1 }).now = s.now from rfl, hb']
  rfl

end Start

end Network

/-! ## 4. From scene to scene -/

section Turns

variable {master station : String} {s t : Scene} {rest : List Nat}

theorem leads_master_idle (hne : master ≠ station) (hplain : s.Plain) (hawake : s.awake = 0 :: rest)
    (h : s.toMaster = []) : Leads master station 1 s { s with ready := rest } :=
  leads_turn hne hplain hawake fun b => ⟨b, turn_master_idle hne h⟩

theorem leads_slave_idle (hne : master ≠ station) (hplain : s.Plain) (hawake : s.awake = 1 :: rest)
    (h : s.toSlave = []) : Leads master station 1 s { s with ready := rest } :=
  leads_turn hne hplain hawake fun b => ⟨b, turn_slave_idle h⟩

/-- The master's receiver takes a text, and stays first in the queue. -/
theorem leads_text_to_master (hne : master ≠ station) (hplain : s.Plain)
    (hawake : s.awake = 0 :: rest) {e : Envelope} {texts : List String}
    (htexts : s.toMaster = e.toWire :: texts)
    (h : ∀ b, ∃ b', (stage master station b
      { s with ready := rest, toMaster := texts }).masterReceives e = stage master station b' t) :
    Leads master station 1 s { t with ready := 0 :: t.ready.filter (· != 0) } := by
  refine leads_turn hne hplain hawake fun b => ?_
  obtain ⟨b₁, h₁⟩ := turn_master_takes master station b { s with ready := rest } htexts
  obtain ⟨b₂, h₂⟩ := h b₁
  exact ⟨b₂, by rw [h₁, h₂]; rfl⟩

/-- The slave's receiver takes a text, and stays first in the queue. -/
theorem leads_text_to_slave (hne : master ≠ station) (hplain : s.Plain)
    (hawake : s.awake = 1 :: rest) {e : Envelope} {texts : List String}
    (htexts : s.toSlave = e.toWire :: texts)
    (h : ∀ b, (stage master station b
      { s with ready := rest, toSlave := texts }).slaveReceives 0 e = stage master station b t) :
    Leads master station 1 s { t with ready := 1 :: t.ready.filter (· != 1) } := by
  refine leads_turn hne hplain hawake fun b => ?_
  obtain ⟨b₁, h₁⟩ := turn_slave_takes master station b { s with ready := rest } htexts
  exact ⟨b₁, by rw [h₁, h b₁]; rfl⟩

variable {i j : Nat} {ticket : Ticket} {p : Purpose} {alarm : Option Alarm} {c : Call}
  {deadline : Nat}

/-- A call without a response sets its alarm. -/
theorem leads_call_waits (hne : master ≠ station) (hi : 2 ≤ i)
    (hothers : s.others = [⟨i, .call ticket p, none⟩]) (hawake : s.awake = i :: rest)
    (hsent : ticket.sendingUntil = none) (hcall : s.call? ticket = some c)
    (hphase : c.phase = .waiting deadline) (hempty : c.mailbox = .empty)
    (hlate : s.now < deadline) :
    Leads master station 1 s { s with
      others := [⟨i, .call ticket p, some ⟨deadline, s.nextOrder⟩⟩]
      ready := rest
      nextOrder := s.nextOrder + 1 } := by
  refine leads_turn hne (Scene.plain_call hothers) hawake fun b => ⟨b, ?_⟩
  have htask : (stage master station b { s with ready := rest }).agenda.task? i =
      some ⟨i, .call ticket p, none⟩ := by
    rw [task?_stage hi]
    simp [hothers]
  have hcall' : Scene.call? { s with ready := rest } ticket = some c := hcall
  have hpoll := poll_stage master station b hsent hcall' hphase hempty hlate
  unfold turn
  rw [htask]
  show turnCall i ticket p (stage master station b { s with ready := rest }) = _
  unfold turnCall
  rw [hpoll]
  -- the job stays what it was
  have hjob : (stage master station b { s with ready := rest }).agenda.setJob i (Job.call ticket p) =
      (stage master station b { s with ready := rest }).agenda := by
    unfold Agenda.setJob
    rw [update_stage hi]
    simp [hothers]
  show { stage master station b { s with ready := rest } with
    agenda := ((stage master station b { s with ready := rest }).agenda.setJob i
      (Job.call ticket p)).awaitTime i deadline } = _
  rw [hjob]
  unfold Agenda.awaitTime
  rw [htask]
  show { stage master station b { s with ready := rest } with
    agenda := (stage master station b { s with ready := rest }).agenda.setAlarm i deadline } = _
  rw [setAlarm_stage hi]
  simp [hothers, stage]

/-- The last task in the queue is a call with a response: it is over. -/
theorem leads_call_over (hne : master ≠ station) (hi : 2 ≤ i)
    (hothers : s.others = [⟨i, .call ticket p, alarm⟩]) (hawake : s.awake = [i])
    (hsent : ticket.sendingUntil = none) (hcall : s.call? ticket = some c)
    (hphase : c.phase = .waiting deadline) {e : Envelope} (hmail : c.mailbox = .delivered e)
    (hcaller : ticket.caller ≠ .client) {r : Result}
    (hconclude : ∀ b, (stage master station b
      (Scene.updateEngine { s with ready := [] } ticket.caller (·.release ticket.key))).conclude p
        ticket.caller e.result = (r, stage master station b t))
    (hothers' : t.others = [⟨i, .call ticket p, alarm⟩]) (hready' : t.ready = []) :
    Leads master station 1 s { t with
      others := []
      ready := []
      results := t.results ++ [(i, r)] } := by
  refine leads_turn hne (Scene.plain_call hothers) hawake fun b => ?_
  have htask : (stage master station b { s with ready := [] }).agenda.task? i =
      some ⟨i, .call ticket p, alarm⟩ := by
    rw [task?_stage hi]
    simp [hothers]
  have hcall' : Scene.call? { s with ready := [] } ticket = some c := hcall
  obtain ⟨b', hpoll⟩ := poll_stage_answered master station b hsent hcall' hphase hmail hcaller
  refine ⟨b', ?_⟩
  unfold turn
  rw [htask]
  show turnCall i ticket p (stage master station b { s with ready := [] }) = _
  unfold turnCall
  rw [hpoll]
  simp only [hconclude]
  show complete i r (stage master station b' t) = _
  rw [complete_stage hi]
  simp [hothers', hready']

/-- A response without a delay is sent. -/
theorem leads_response_is_sent (hne : master ≠ station) (hj : 2 ≤ j) (hij : i ≠ j) {e : Envelope}
    {alarm' : Option Alarm}
    (hothers : s.others = [⟨i, .call ticket p, alarm⟩, ⟨j, .respond 0 master e, alarm'⟩])
    (hawake : s.awake = j :: rest) :
    Leads master station 1 s { s with
      toMaster := s.toMaster ++ [e.toWire]
      others := [⟨i, .call ticket p, alarm⟩]
      ready := rest.filter (· != j) } := by
  refine leads_turn hne (Scene.plain_respond hothers) hawake fun b => ?_
  have htask : (stage master station b { s with ready := rest }).agenda.task? j =
      some ⟨j, .respond 0 master e, alarm'⟩ := by
    rw [task?_stage hj]
    simp [hothers, hij]
  obtain ⟨b', hsend⟩ := beginSending_master master station b { s with ready := rest } hne e
  refine ⟨b', ?_⟩
  unfold turn
  rw [htask]
  show turnRespond j 0 master e (stage master station b { s with ready := rest }) = _
  unfold turnRespond
  rw [if_pos rfl, hsend]
  show { stage master station b'
    { s with ready := rest, toMaster := s.toMaster ++ [e.toWire] } with
    agenda := (stage master station b'
      { s with ready := rest, toMaster := s.toMaster ++ [e.toWire] }).agenda.remove j } = _
  rw [remove_stage hj]
  simp [hothers, stage, hij]

/-- A response with a delay sets its alarm. -/
theorem leads_response_sets_out (hne : master ≠ station) (hj : 2 ≤ j) (hij : i ≠ j) {e : Envelope}
    {d : Nat} (hd : d ≠ 0)
    (hothers : s.others = [⟨i, .call ticket p, alarm⟩, ⟨j, .respond d master e, none⟩])
    (hawake : s.awake = j :: rest) :
    Leads master station 1 s { s with
      others := [⟨i, .call ticket p, alarm⟩,
        ⟨j, .respond 0 master e, some ⟨s.now + d, s.nextOrder⟩⟩]
      ready := rest
      nextOrder := s.nextOrder + 1 } := by
  refine leads_turn hne (Scene.plain_respond hothers) hawake fun b => ⟨b, ?_⟩
  have htask : (stage master station b { s with ready := rest }).agenda.task? j =
      some ⟨j, .respond d master e, none⟩ := by
    rw [task?_stage hj]
    simp [hothers, hij]
  unfold turn
  rw [htask]
  show turnRespond j d master e (stage master station b { s with ready := rest }) = _
  unfold turnRespond
  rw [if_neg hd]
  show { stage master station b { s with ready := rest } with
    agenda := ((stage master station b { s with ready := rest }).agenda.update j
      fun t => { t with job := Job.respond 0 master e }).setAlarm j (s.now + d) } = _
  rw [update_stage hj, setAlarm_stage hj]
  simp [hothers, stage, hij]

end Turns

end CardLink
