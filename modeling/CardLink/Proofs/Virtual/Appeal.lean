import CardLink.Proofs.Virtual.Backlog
import CardLink.Proofs.Virtual.Desk

/-!
# A call of the slave that the master replies to

The slave calls the master when nothing else is under way. The master takes the notices that lie in
its queue, handles the request and replies; the slave gives the reply to its call, and the call has
its result at once, whatever the master made of the request.

* `Appeal`: what the slave asks for.
* `Scene.Free`: the slave can call.
* `appeal_stage`: the call sets out.
* `leads_appealing`, `leads_decided`, `leads_told`, `leads_relieved`: from scene to scene.
* **`outcome_appeal`**: the whole exchange.
-/

namespace CardLink

open Network

/-! ## 1. Scenes -/

/-- What a slave asks its master for. -/
structure Appeal where
  action : String
  body : String
  route : Route
  purpose : Purpose

namespace Appeal

def request (a : Appeal) (id : String) : Envelope :=
  .request a.action a.body a.route id

def ticket (a : Appeal) (key : Nat) (id : String) : Ticket :=
  ⟨.slave 0, key, a.route.target, a.request id, none⟩

end Appeal

namespace Scene

/-- **The slave can call the master**: nothing else is under way. -/
structure Free (master station : String) (s : Scene) : Prop extends s.Calm where
  idle : s.slave.engine.Idle
  node : s.slave.node = station
  master : s.slave.master = master

/-- The slave with another engine. -/
def withEngine (s : Scene) (e : Engine) : Scene := { s with slave := { s.slave with engine := e } }

/-- The call, as the task of the slave. -/
def inquiry (s : Scene) (a : Appeal) (alarm : Option Alarm) : Task Job :=
  ⟨s.nextId, .call (a.ticket s.slave.engine.nextKey s.drawn) a.purpose, alarm⟩

/-- The engine of the slave while its call is under way. -/
def asking (s : Scene) (a : Appeal) : Engine :=
  s.slave.engine.asking s.drawn a.action Slave.patience s.now

/-- The engine of the slave once the reply has come. -/
def answered (s : Scene) (a : Appeal) (reply : Envelope) : Engine :=
  s.slave.engine.answered s.drawn a.action Slave.patience s.now reply

/-- The engine of the slave when the call is over. -/
def rested (s : Scene) (a : Appeal) (reply : Envelope) : Engine :=
  (s.answered a reply).release s.slave.engine.nextKey

/-- The scene when the request was sent. -/
def appealed (s : Scene) (a : Appeal) : Scene :=
  { s.withEngine (s.asking a) with
    toMaster := s.toMaster ++ [(a.request s.drawn).toWire]
    others := [s.inquiry a none]
    ready := [s.nextId]
    nextId := s.nextId + 1
    freshIds := s.freshIds + 1 }

/-- The scene when the call waits. -/
def appealing (s : Scene) (a : Appeal) : Scene :=
  { s.appealed a with
    others := [s.inquiry a (some ⟨s.now + Slave.patience, s.nextOrder⟩)]
    ready := [0]
    nextOrder := s.nextOrder + 1 }

/-- The scene when the master has replied, with the plugin that it then has. -/
def decided (s : Scene) (a : Appeal) (q : Plugin) (reply : Envelope) : Scene :=
  { s.appealing a with
    plugin := q
    toMaster := []
    toSlave := [reply.toWire]
    ready := [1] }

/-- The scene when the reply has come. -/
def told (s : Scene) (a : Appeal) (q : Plugin) (reply : Envelope) : Scene :=
  { s.appealing a with
    plugin := q
    toMaster := []
    slave := { s.slave with engine := s.answered a reply }
    toSlave := []
    ready := [1] }

/-- The scene when the call is over, with the slave that took in its result. -/
def relieved (s : Scene) (q : Plugin) (sl : Slave) (r : Result) : Scene :=
  { s with
    nextOrder := s.nextOrder + 1
    plugin := q
    toMaster := []
    toSlave := []
    slave := sl
    others := []
    ready := []
    nextId := s.nextId + 1
    freshIds := s.freshIds + 1
    results := s.results ++ [(s.nextId, r)] }

end Scene

/-! ## 2. From scene to scene -/

section Appeal

variable {master station : String} {s : Scene} {a : Appeal} {q : Plugin} {reply : Envelope}
  {v : Except ReaderError Delivery} {sl : Slave} {r : Result} {xs : List Notice}

/-- **The call sets out.** -/
theorem appeal_stage (h : s.Free master station) (hne : master ≠ station)
    (htarget : a.route.target = master) (b : Backstage) :
    ∃ b', (stage master station b s).launch (.slave 0) a.action a.body a.route none Slave.patience
        a.purpose = (s.nextId, stage master station b' (s.appealed a)) := by
  have hengine : s.engine? (.slave 0) = some s.slave.engine := rfl
  have hsend : ∀ b, ∃ b', (stage master station b
      (Scene.updateEngine { s with freshIds := s.freshIds + 1 } (.slave 0) fun _ =>
        s.slave.engine.admitting s.drawn a.action Slave.patience
          s.now)).beginSending a.route.target (a.request s.drawn) =
      (.ok none, stage master station b' { s.withEngine
          (s.slave.engine.admitting s.drawn a.action Slave.patience
            s.now) with
        freshIds := s.freshIds + 1
        toMaster := s.toMaster ++ [(a.request s.drawn).toWire] }) := by
    intro b
    rw [htarget]
    exact beginSending_master master station b _ hne _
  obtain ⟨b', hstart⟩ := start_stage hengine h.idle hsend b
  refine ⟨b', ?_⟩
  have hsent : (s.slave.engine.admitting s.drawn a.action
      Slave.patience s.now).sent s.slave.engine.nextKey s.now = s.asking a :=
    h.idle.sent
  unfold launch
  rw [hstart]
  unfold Scene.appealed
  rw [← hsent]
  simp only [spawn, Agenda.spawn, stage, Scene.withEngine, h.others, h.ready]
  rfl

/-- The call of the ticket is that of the engine that the slave has now. -/
theorem call?_appeal {u : Scene} {e : Engine} (hu : u.slave.engine = e) (id : String) :
    u.call? (a.ticket s.slave.engine.nextKey id) = e.call? s.slave.engine.nextKey := by
  rw [← hu]
  rfl

theorem hasMail_appeal {u : Scene} (hu : u.slave.engine = s.asking a) (id : String) :
    u.hasMail (a.ticket s.slave.engine.nextKey id) = false := by
  unfold Scene.hasMail
  rw [call?_appeal hu, Scene.asking, Engine.call?_asking]
  rfl

theorem leads_appealing (h : s.Free master station) (hne : master ≠ station) :
    Leads master station 1 (s.appealed a) (s.appealing a) := by
  have hids := h.ids
  have hcall : (s.appealed a).call? (a.ticket s.slave.engine.nextKey s.drawn) = _ :=
    (call?_appeal rfl _).trans Engine.call?_asking
  have hpatience : s.now < s.now + Slave.patience := by
    unfold Slave.patience
    omega
  have hfree : 0 ∉ [s.nextId] := by
    simp
    omega
  have hfull : (s.toMaster ++ [(a.request s.drawn).toWire]).isEmpty = false := by
    simp
  have hawake : (s.appealed a).awake = s.nextId :: [0] := by
    rw [Scene.awake_call rfl, hasMail_appeal rfl, joined_false]
    show joined (!s.toSlave.isEmpty) 1 (joined (!(s.toMaster ++ [_]).isEmpty) 0 [s.nextId]) = _
    rw [h.toSlave, hfull]
    exact joined_new hfree
  exact leads_call_waits hne hids rfl hawake rfl hcall rfl rfl hpatience

/-- The master takes its notices and then the request, and replies. -/
theorem leads_decided (h : s.Free master station) (hne : master ≠ station)
    (hrequester : a.route.requester = station)
    (hhandle : (s.plugin.hearAll station xs).handle (a.request s.drawn) =
      some (⟨v, some reply⟩, q))
    (htexts : s.toMaster = xs.map (·.wire master station)) :
    Leads master station (xs.length + 2) (s.appealing a) (s.decided a q reply) := by
  have hwaiting : (s.appealing a).Waiting := by
    intro t ht
    rw [List.mem_singleton.1 ht]
    exact ⟨_, _, rfl, hasMail_appeal rfl _⟩
  have htexts' : (s.appealing a).toMaster =
      xs.map (·.wire master station) ++ [(a.request s.drawn).toWire] := by
    rw [← htexts]
    rfl
  have hbacklog := leads_backlog hne List.not_mem_nil xs _ (s.appealing a) hwaiting rfl
    (fun hslave => absurd h.toSlave hslave) htexts'
  have hwaiting' : Scene.Waiting { s.appealing a with
      ready := [0]
      toMaster := [(a.request s.drawn).toWire]
      plugin := s.plugin.hearAll station xs } :=
    hwaiting.hearAll xs _ _
  have hawake := hwaiting'.awake_first rfl fun hslave => absurd h.toSlave hslave
  have htaken : Leads master station 1 { s.appealing a with
        plugin := s.plugin.hearAll station xs
        toMaster := [(a.request s.drawn).toWire]
        ready := [0] }
      { s.decided a q reply with
        toSlave := s.toSlave ++ [reply.toWire]
        ready := [0] } :=
    leads_text_to_master hne hwaiting'.plain hawake rfl fun b =>
      masterReceives_replied master station b { s.appealing a with
        plugin := s.plugin.hearAll station xs, toMaster := [], ready := [] } rfl hrequester hhandle
  rw [h.toSlave] at htaken
  have hawake' : Scene.awake { s.decided a q reply with ready := [0] } = 0 :: [1] := by
    rw [Scene.awake_call rfl, hasMail_appeal rfl]
    rfl
  have hidle := leads_master_idle hne (Scene.plain_call rfl) hawake' rfl
  exact (hbacklog.trans htaken).trans hidle

/-- The slave takes the reply, which is that of its call. -/
theorem leads_told (hne : master ≠ station) (hresponse : reply.isRequest = false)
    (hid : reply.id = some s.drawn) :
    Leads master station 1 (s.decided a q reply) (s.told a q reply) := by
  have hawake : (s.decided a q reply).awake = 1 :: [] := by
    rw [Scene.awake_call rfl, hasMail_appeal rfl]
    rfl
  have haccept : ((s.asking a).accept reply).2 = s.answered a reply :=
    congrArg Prod.snd (Engine.accept_asking hid)
  have hreceive : (s.decided a q reply).slave.receive reply =
      (none, { s.slave with engine := s.answered a reply }) := by
    rw [← haccept]
    simp [Slave.receive, hresponse, Scene.decided, Scene.appealing, Scene.appealed, Scene.withEngine]
  exact leads_text_to_slave hne (Scene.plain_call rfl) hawake rfl fun b =>
    slaveReceives_response master station b
      { s.decided a q reply with ready := [], toSlave := [] } hreceive

/-- The call takes the reply and is over. -/
theorem leads_relieved (h : s.Free master station) (hne : master ≠ station)
    (hconclude : ∀ b t, t.slave = { s.slave with engine := s.rested a reply } →
      (stage master station b t).conclude a.purpose (.slave 0) reply.result =
        (r, stage master station b { t with slave := sl })) :
    Leads master station 2 (s.told a q reply) (s.relieved q sl r) := by
  have hids := h.ids
  have hcall : (s.told a q reply).call? (a.ticket s.slave.engine.nextKey s.drawn) = _ :=
    (call?_appeal rfl _).trans Engine.call?_answered
  have hmail : (s.told a q reply).hasMail (a.ticket s.slave.engine.nextKey s.drawn) =
      true := by
    unfold Scene.hasMail
    rw [hcall]
    rfl
  have hfree : s.nextId ∉ [1] := by
    simp
    omega
  have hawake : (s.told a q reply).awake = 1 :: [s.nextId] := by
    rw [Scene.awake_call rfl, hmail]
    exact joined_new hfree
  have hidle := leads_slave_idle hne (Scene.plain_call rfl) hawake rfl
  have hawake' : Scene.awake { s.told a q reply with ready := [s.nextId] } = [s.nextId] := by
    rw [Scene.awake_call rfl]
    exact joined_mem (List.mem_singleton_self _)
  have hothers : Scene.others { s.told a q reply with ready := [s.nextId] } =
      [s.inquiry a (some ⟨s.now + Slave.patience, s.nextOrder⟩)] := rfl
  have hcall' : Scene.call? { s.told a q reply with ready := [s.nextId] }
      (a.ticket s.slave.engine.nextKey s.drawn) = _ := hcall
  have hover := leads_call_over hne hids hothers hawake' rfl hcall' rfl rfl (by simp [Appeal.ticket])
    (fun b => hconclude b _ rfl) rfl rfl
  exact hidle.trans hover

/-! ## 3. The whole exchange -/

/-- The slave can call again. -/
theorem Scene.Free.relieved (h : s.Free master station) (q : Plugin) (r : Result)
    (hengine : sl.engine = s.rested a reply) (hnode : sl.node = s.slave.node)
    (hmaster : sl.master = s.slave.master) : (s.relieved q sl r).Free master station where
  others := rfl
  ready := rfl
  toSlave := rfl
  ids := Nat.le_succ_of_le h.ids
  results := results_append h.results (Nat.lt_succ_self s.nextId) r
  idle := by
    show sl.engine.Idle
    rw [hengine]
    exact h.idle.release
  node := hnode.trans h.node
  master := hmaster.trans h.master

theorem quiet_relieved : (s.relieved q sl r).Quiet where
  plain := Scene.plain_alone rfl
  ready := rfl
  awake := Scene.awake_alone rfl
  later _ ht := absurd ht List.not_mem_nil

/-- **A call of the slave that the master replies to** has its result at once. -/
theorem outcome_appeal (h : s.Free master station) (hne : master ≠ station)
    (htarget : a.route.target = master) (hrequester : a.route.requester = station)
    (htexts : s.toMaster = xs.map (·.wire master station))
    (hhandle : (s.plugin.hearAll station xs).handle (a.request s.drawn) =
      some (⟨v, some reply⟩, q))
    (hresponse : reply.isRequest = false)
    (hid : reply.id = some s.drawn)
    (hconclude : ∀ b t, t.slave = { s.slave with engine := s.rested a reply } →
      (stage master station b t).conclude a.purpose (.slave 0) reply.result =
        (r, stage master station b { t with slave := sl }))
    (b : Backstage) :
    ∃ b', outcome ((stage master station b s).launch (.slave 0) a.action a.body a.route none
        Slave.patience a.purpose) = (.ended (some r), stage master station b' (s.relieved q sl r)) := by
  obtain ⟨b₁, hlaunch⟩ := appeal_stage h hne htarget b
  have hall := (((leads_appealing h hne).trans (leads_decided h hne hrequester hhandle htexts)).trans
    (leads_told hne hresponse hid)).trans (leads_relieved h hne hconclude)
  have hbudget : 1 + (xs.length + 2) + 1 + 2 ≤ (s.appealed a).budget := by
    show _ ≤ 64 * (1 + (s.toMaster ++ [_]).length + s.toSlave.length + 3)
    rw [htexts, List.length_append, List.length_map, List.length_singleton]
    omega
  obtain ⟨b', hsettle⟩ := settle_of_leads hne hall quiet_relieved hbudget b₁
  have hresult : (stage master station b' (s.relieved q sl r)).result? s.nextId = some r :=
    lookup_append_last h.results r
  have hawait : (stage master station b₁ (s.appealed a)).await s.nextId =
      stage master station b' (s.relieved q sl r) := by
    rw [← hsettle]
    refine await_of_result ?_
    rw [hsettle, hresult]
    rfl
  rw [hlaunch]
  exact ⟨b', outcome_of_await rfl hawait hresult⟩

end Appeal

end CardLink
