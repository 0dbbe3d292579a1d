import CardLink.Proofs.Plugin.Registry
import CardLink.Proofs.Virtual.Backlog
import CardLink.Proofs.Virtual.Local

/-!
# An operation on a virtual reader

The request goes to the slave, the response comes back to the engine of the reader, and the call is
over: turn by turn, whatever notices lie in the queue of the master and however long the slave takes,
as long as it takes less time than the call is patient.

* `leads_pending`, `leads_replying`: the way there.
* `leads_home`: the way back.
* **`await_operation`**: the whole exchange.
-/

namespace CardLink

open Network

/-! ## 1. Engines of readers -/

namespace Plugin

theorem updateEngine_updateEngine (p : Plugin) (r : Nat) (f g : Engine → Engine) :
    (p.updateEngine r f).updateEngine r g = p.updateEngine r (g ∘ f) := by
  simp [updateEngine, updateReader, List.modify_modify_eq, Function.comp_def]

theorem reader?_updateEngine {p : Plugin} {r : Nat} {reader : Reader} (h : p.reader? r = some reader)
    (f : Engine → Engine) :
    (p.updateEngine r f).reader? r = some { reader with engine := f reader.engine } := by
  unfold updateEngine
  rw [reader?_updateReader, h]
  simp

theorem reader?_updateReader_ne (p : Plugin) {r k : Nat} (h : k ≠ r) (f : Reader → Reader) :
    (p.updateReader r f).reader? k = p.reader? k := by
  simp [reader?_updateReader, h.symm]

/-- A response goes to the reader that it names, if that waits for it. -/
theorem owner?_named {p : Plugin} {name id : String} {r : Nat} {reader : Reader}
    (hname : p.registry.get? name = some r) (hreader : p.reader? r = some reader)
    (hpending : reader.engine.isPending id = true) : p.owner? name id = some r := by
  simp [owner?, hname, isPendingAt, hreader, hpending]

end Plugin

/-! ## 2. The scenes of an exchange -/

section Exchange

/-- The request of the slave, under the id of the call. -/
def Reader.request (reader : Reader) (op : ReaderOperation) (id : String) : Envelope :=
  .request op.method.name op.body reader.route id

/-- The response of the slave, which has `l` in the reader. -/
def Reader.response (reader : Reader) (l : LocalReader) (op : ReaderOperation) (id : String) :
    Envelope :=
  .response op.method.name (l.replyBody op) reader.route.reverse id

def Reader.ticket (reader : Reader) (r : Nat) (op : ReaderOperation) (id : String) : Ticket :=
  ⟨.reader r, reader.engine.nextKey, reader.session.slave, reader.request op id, none⟩

/-- The engine of the reader while the operation is under way. -/
def Reader.asking (reader : Reader) (op : ReaderOperation) (id : String) (now : Nat) : Engine :=
  reader.engine.asking id op.method.name reader.engine.patience now

/-- The engine of the reader once the response has come. -/
def Reader.answered (reader : Reader) (l : LocalReader) (op : ReaderOperation) (id : String)
    (now : Nat) : Engine :=
  reader.engine.answered id op.method.name reader.engine.patience now
    (reader.response l op id)

/-- The engine of the reader when the call is over. -/
def Reader.rested (reader : Reader) (l : LocalReader) (op : ReaderOperation) (id : String)
    (now : Nat) : Engine :=
  (reader.answered l op id now).release reader.engine.nextKey

/-- **An operation on the reader with number `r` can begin**: nothing else is under way, and the
slave serves the native reader. -/
structure Serves (master station : String) (s : Scene) (r : Nat) (reader : Reader)
    (native : NativeReader) : Prop extends s.Calm where
  here : s.plugin.reader? r = some reader
  registered : s.plugin.registry.get? reader.name = some r
  idle : reader.engine.Idle
  slave : reader.session.slave = station
  master : reader.session.master = master
  there : s.slave.reader? reader.session.native = some native
  answers : s.slave.silent = false
  soon : s.slave.delay < reader.engine.patience

/-- The scene when the request was sent. -/
def Scene.asked (s : Scene) (r : Nat) (reader : Reader) (op : ReaderOperation) : Scene :=
  { s with
    plugin := s.plugin.updateEngine r fun _ => reader.asking op s.drawn s.now
    toSlave := [(reader.request op s.drawn).toWire]
    others := [⟨s.nextId, .call (reader.ticket r op s.drawn) (.operation op), none⟩]
    ready := [s.nextId]
    nextId := s.nextId + 1
    freshIds := s.freshIds + 1 }

variable {master station : String} {s : Scene} {r : Nat} {reader : Reader} {native : NativeReader}
  {op : ReaderOperation}

theorem launchOperation_stage (h : Serves master station s r reader native)
    (hop : op.immediate? = none) (b : Backstage) :
    ∃ b', (stage master station b s).launchOperation r reader op =
      (s.nextId, stage master station b' (s.asked r reader op)) := by
  have hengine : s.engine? (.reader r) = some reader.engine := by
    show (s.plugin.reader? r).map _ = _
    rw [h.here]
    rfl
  have htarget : reader.route.target = station := h.slave
  have hsend : ∀ b, ∃ b', (stage master station b
      (Scene.updateEngine { s with freshIds := s.freshIds + 1 } (.reader r) fun _ =>
        reader.engine.admitting s.drawn op.method.name
          reader.engine.patience s.now)).beginSending reader.route.target
            (reader.request op s.drawn) = (.ok none, stage master station b' { s with
        freshIds := s.freshIds + 1
        plugin := s.plugin.updateEngine r fun _ =>
          reader.engine.admitting s.drawn op.method.name
            reader.engine.patience s.now
        toSlave := s.toSlave ++ [(reader.request op s.drawn).toWire] }) := by
    intro b
    rw [htarget]
    exact beginSending_station master station b _ _
  obtain ⟨b', hstart⟩ := start_stage hengine h.idle hsend b
  refine ⟨b', ?_⟩
  have hlaunch : (stage master station b s).launchOperation r reader op =
      (stage master station b s).launch (.reader r) op.method.name op.body reader.route none
        reader.engine.patience (.operation op) := by
    unfold launchOperation
    rw [hop]
  have hengine : (s.plugin.updateEngine r fun _ => reader.engine.admitting
        s.drawn op.method.name reader.engine.patience s.now).updateEngine r
          (·.sent reader.engine.nextKey s.now) =
      s.plugin.updateEngine r fun _ => reader.asking op s.drawn s.now := by
    rw [Plugin.updateEngine_updateEngine]
    exact congrArg _ (funext fun _ => h.idle.sent)
  rw [hlaunch, launch, hstart]
  unfold Scene.asked
  rw [← hengine]
  simp only [spawn, Agenda.spawn, stage, h.others, h.ready, h.toSlave]
  rfl

/-! ## 3. The way there -/

/-- The call of the ticket is that of the engine that the reader has now. -/
theorem call?_ticket {u : Scene} {p : Plugin} {e : Engine} (hp : p.reader? r = some reader)
    (hu : u.plugin = p.updateEngine r fun _ => e) (id : String) :
    u.call? (reader.ticket r op id) = e.call? reader.engine.nextKey := by
  unfold Scene.call?
  show ((u.plugin.reader? r).map _).bind _ = _
  rw [hu, Plugin.reader?_updateEngine hp]
  rfl

theorem hasMail_asking {u : Scene} {p : Plugin} (hp : p.reader? r = some reader) {id : String}
    {now : Nat} (hu : u.plugin = p.updateEngine r fun _ => reader.asking op id now) :
    u.hasMail (reader.ticket r op id) = false := by
  unfold Scene.hasMail
  rw [call?_ticket hp hu, Reader.asking, Engine.call?_asking]
  rfl

/-- The scene when the slave has answered. -/
def Scene.replying (master station : String) (s : Scene) (r : Nat) (reader : Reader)
    (native : NativeReader) (op : ReaderOperation) (xs : List Notice) : Scene :=
  { s with
    plugin := (s.plugin.hearAll station xs).updateEngine r fun _ =>
      reader.asking op s.drawn s.now
    toMaster := []
    toSlave := []
    slave := s.slave.served reader.session.native native op
    others :=
      [⟨s.nextId, .call (reader.ticket r op s.drawn) (.operation op),
          some ⟨s.now + reader.engine.patience, s.nextOrder⟩⟩,
        ⟨s.nextId + 1, .respond s.slave.delay master
          (reader.response native.inside op s.drawn), none⟩]
    ready := [s.nextId + 1]
    nextId := s.nextId + 2
    nextOrder := s.nextOrder + 1
    freshIds := s.freshIds + 1 }

/-- The scene when the call waits and the master has taken all notices. -/
def Scene.pending (station : String) (s : Scene) (r : Nat) (reader : Reader)
    (op : ReaderOperation) (xs : List Notice) : Scene :=
  { s.asked r reader op with
    plugin := (s.plugin.hearAll station xs).updateEngine r fun _ =>
      reader.asking op s.drawn s.now
    toMaster := []
    others :=
      [⟨s.nextId, .call (reader.ticket r op s.drawn) (.operation op),
          some ⟨s.now + reader.engine.patience, s.nextOrder⟩⟩]
    ready := [1]
    nextOrder := s.nextOrder + 1 }

theorem reader?_hearAll (station : String) {p : Plugin} (h : p.reader? r = some reader)
    (xs : List Notice) : (p.hearAll station xs).reader? r = some reader := by
  show (p.hearAll station xs).readers[r]? = _
  rw [Plugin.readers_hearAll]
  exact h

/-- The scene when the call waits, with these tasks in the queue. -/
def Scene.calling (s : Scene) (r : Nat) (reader : Reader) (op : ReaderOperation)
    (ready : List Nat) : Scene :=
  { s.asked r reader op with
    others :=
      [⟨s.nextId, .call (reader.ticket r op s.drawn) (.operation op),
          some ⟨s.now + reader.engine.patience, s.nextOrder⟩⟩]
    ready := ready
    nextOrder := s.nextOrder + 1 }

theorem awake_asked (h : Serves master station s r reader native) :
    (s.asked r reader op).awake =
      joined true 1 (joined (!s.toMaster.isEmpty) 0 [s.nextId]) := by
  have hmail : (s.asked r reader op).hasMail (reader.ticket r op s.drawn) = false :=
    hasMail_asking h.here rfl
  rw [Scene.awake_call rfl, hmail, joined_false]
  rfl

/-- The call is first in the queue, and has to wait for its response. -/
theorem leads_calling (hne : master ≠ station) (h : Serves master station s r reader native)
    {rest : List Nat} (hawake : (s.asked r reader op).awake = s.nextId :: rest) :
    Leads master station 1 (s.asked r reader op) (s.calling r reader op rest) := by
  have hcall : (s.asked r reader op).call? (reader.ticket r op s.drawn) = _ :=
    (call?_ticket h.here rfl _).trans Engine.call?_asking
  have hpatience : s.now < s.now + reader.engine.patience := by
    have hsoon := h.soon
    omega
  exact leads_call_waits hne h.ids rfl hawake rfl hcall rfl rfl hpatience

/-- The call waits, and the master takes what lies in its queue. -/
theorem leads_pending (hne : master ≠ station) (h : Serves master station s r reader native)
    {xs : List Notice} (htexts : s.toMaster = xs.map (·.wire master station)) :
    Leads master station (xs.length + 2) (s.asked r reader op)
      (s.pending station r reader op xs) := by
  have hids := h.ids
  have hawake : (s.asked r reader op).awake = _ := awake_asked h
  rw [htexts] at hawake
  cases xs with
  | nil =>
    have hfree : 1 ∉ [s.nextId] := by simp; omega
    have hwaits := leads_calling hne h (hawake.trans (joined_new hfree))
    have hscene : s.pending station r reader op [] = s.calling r reader op [1] := by
      unfold Scene.pending
      rw [show ([] : List String) = s.toMaster from htexts.symm]
      rfl
    rw [hscene]
    exact hwaits.mono (by omega)
  | cons x xs =>
    have hfirst : (s.asked r reader op).awake = s.nextId :: [0, 1] := by
      have hfree : 0 ∉ [s.nextId] := by simp; omega
      have hfree' : 1 ∉ [s.nextId, 0] := by simp; omega
      rw [hawake]
      show joined true 1 (joined true 0 [s.nextId]) = _
      rw [joined_new hfree]
      exact joined_new hfree'
    have hwaits := leads_calling hne h hfirst
    have hwaiting : (s.calling r reader op [0, 1]).Waiting := by
      intro t ht
      rw [List.mem_singleton.1 ht]
      exact ⟨_, _, rfl, hasMail_asking h.here rfl⟩
    have hcleared := leads_cleared hne hwaiting rfl (by simp) (fun _ => List.mem_singleton_self 1)
      htexts
    have hplugin : (s.plugin.updateEngine r fun _ =>
        reader.asking op s.drawn s.now).hearAll station (x :: xs) =
        (s.plugin.hearAll station (x :: xs)).updateEngine r fun _ =>
          reader.asking op s.drawn s.now :=
      Plugin.hearAll_updateReader r _ (x :: xs)
    unfold Scene.pending
    rw [← hplugin]
    exact (hwaits.trans hcleared).mono (by simp; omega)

/-- The slave takes the request and answers it. -/
theorem leads_replying (hne : master ≠ station) (h : Serves master station s r reader native)
    (xs : List Notice) :
    Leads master station 2 (s.pending station r reader op xs)
      (s.replying master station r reader native op xs) := by
  obtain rfl : reader.session.master = master := h.master
  have hids := h.ids
  have hhere := reader?_hearAll station h.here xs
  have hmail : (s.pending station r reader op xs).hasMail
      (reader.ticket r op s.drawn) = false :=
    hasMail_asking hhere rfl
  have hawake : (s.pending station r reader op xs).awake = [1] := by
    rw [Scene.awake_call rfl, hmail]
    rfl
  have hreceives : s.slave.receive (reader.request op s.drawn) =
      (some (reader.response native.inside op s.drawn),
        s.slave.served reader.session.native native op) :=
    Slave.receive_operation h.answers reader.route h.there _
  have htakes := leads_text_to_slave hne (Scene.plain_call rfl) hawake rfl fun b =>
    slaveReceives_request reader.session.master station b
      { s.pending station r reader op xs with ready := [], toSlave := [] } hreceives
  have hrest : ([s.nextId + 1] : List Nat).filter (· != 1) = [s.nextId + 1] := by
    have hnot : s.nextId ≠ 0 := by omega
    simp [hnot]
  have htaken : Leads reader.session.master station 1 (s.pending station r reader op xs)
      { s.replying reader.session.master station r reader native op xs with
        ready := [1, s.nextId + 1] } := by
    rw [← hrest]
    exact htakes
  have hidle := leads_slave_idle
    (s := { s.replying reader.session.master station r reader native op xs with
      ready := [1, s.nextId + 1] }) hne
    (Scene.plain_respond rfl) (by
      rw [Scene.awake_respond rfl, hasMail_asking hhere rfl]
      rfl) rfl
  exact htaken.trans hidle

/-! ## 4. The way back -/

/-- The scene when the response is on its way, at a later time. -/
def Scene.returning (master station : String) (s : Scene) (r : Nat) (reader : Reader)
    (native : NativeReader) (op : ReaderOperation) (xs : List Notice) (now order : Nat) : Scene :=
  { s.replying master station r reader native op xs with
    now := now
    nextOrder := order
    toMaster := [(reader.response native.inside op s.drawn).toWire]
    others :=
      [⟨s.nextId, .call (reader.ticket r op s.drawn) (.operation op),
          some ⟨s.now + reader.engine.patience, s.nextOrder⟩⟩]
    ready := [] }

/-- The scene when the response has come. -/
def Scene.replied (master station : String) (s : Scene) (r : Nat) (reader : Reader)
    (native : NativeReader) (op : ReaderOperation) (xs : List Notice) (now order : Nat) : Scene :=
  { s.returning master station r reader native op xs now order with
    plugin := (s.plugin.hearAll station xs).updateEngine r fun _ =>
      reader.answered native.inside op s.drawn s.now
    toMaster := []
    ready := [0] }

/-- The scene when the call is over. -/
def Scene.operated (station : String) (s : Scene) (r : Nat) (reader : Reader)
    (native : NativeReader) (op : ReaderOperation) (xs : List Notice) (now order : Nat) : Scene :=
  { s with
    now := now
    nextOrder := order
    plugin := ((s.plugin.hearAll station xs).updateEngine r fun _ =>
      reader.rested native.inside op s.drawn s.now).updateReader r (·.remember op)
    toMaster := []
    toSlave := []
    slave := s.slave.served reader.session.native native op
    others := []
    ready := []
    nextId := s.nextId + 2
    freshIds := s.freshIds + 1
    results := s.results ++ [(s.nextId, .answer (.ok (native.inside.answer op)))] }

/-- The master takes the response, which is that of the reader's call. -/
theorem leads_replied (hne : master ≠ station) (h : Serves master station s r reader native)
    (xs : List Notice) (now order : Nat) :
    Leads master station 1 (s.returning master station r reader native op xs now order)
      (s.replied master station r reader native op xs now order) := by
  have hhere := reader?_hearAll station h.here xs
  have hawake : (s.returning master station r reader native op xs now order).awake = [0] := by
    rw [Scene.awake_call rfl, hasMail_asking hhere rfl]
    rfl
  have howner : ((s.plugin.hearAll station xs).updateEngine r fun _ =>
      reader.asking op s.drawn s.now).owner? reader.name
        s.drawn = some r := by
    refine Plugin.owner?_named ?_ (Plugin.reader?_updateEngine hhere _) Engine.isPending_asking
    show (s.plugin.hearAll station xs).registry.get? reader.name = some r
    rw [Plugin.registry_hearAll]
    exact h.registered
  have hengine : ((s.plugin.hearAll station xs).updateEngine r fun _ =>
      reader.asking op s.drawn s.now).updateEngine r
        (fun engine => (engine.accept (reader.response native.inside op s.drawn)).2) =
      (s.plugin.hearAll station xs).updateEngine r fun _ =>
        reader.answered native.inside op s.drawn s.now := by
    rw [Plugin.updateEngine_updateEngine]
    exact congrArg _ (funext fun _ => congrArg Prod.snd (Engine.accept_asking rfl))
  have htakes := leads_text_to_master hne (Scene.plain_call rfl) hawake rfl fun b =>
    masterReceives_response master station b
      { s.returning master station r reader native op xs now order with
        ready := [], toMaster := [] } rfl rfl howner
  unfold Scene.replied
  rw [← hengine]
  exact htakes

theorem conclude_stage (master station : String) (b : Backstage)
    {result : Except CallError String} {a : ReaderAnswer}
    (hreader : s.plugin.reader? r = some reader) (hop : op.conclude reader.name result = .ok a) :
    (stage master station b s).conclude (.operation op) (.reader r) result =
      (.answer (.ok a), stage master station b
        { s with plugin := s.plugin.updateReader r (·.remember op) }) := by
  have hreader' : (stage master station b s).plugin.reader? r = some reader := hreader
  simp only [conclude, hreader', hop]
  rfl

/-- The call takes the response and is over. -/
theorem leads_operated (hne : master ≠ station) (h : Serves master station s r reader native)
    (xs : List Notice) (now order : Nat) :
    Leads master station 2 (s.replied master station r reader native op xs now order)
      (s.operated station r reader native op xs now order) := by
  have hids := h.ids
  have hhere := reader?_hearAll station h.here xs
  have hcall : (s.replied master station r reader native op xs now order).call?
      (reader.ticket r op s.drawn) = _ :=
    (call?_ticket hhere rfl _).trans Engine.call?_answered
  have hmail : (s.replied master station r reader native op xs now order).hasMail
      (reader.ticket r op s.drawn) = true := by
    unfold Scene.hasMail
    rw [hcall]
    rfl
  have hfree : s.nextId ∉ [0] := by
    simp
    omega
  have hawake : (s.replied master station r reader native op xs now order).awake =
      0 :: [s.nextId] := by
    rw [Scene.awake_call rfl, hmail]
    exact joined_new hfree
  have hidle := leads_master_idle hne (Scene.plain_call rfl) hawake rfl
  have hawake' : Scene.awake { s.replied master station r reader native op xs now order with
      ready := [s.nextId] } = s.nextId :: [] := by
    rw [Scene.awake_call rfl]
    exact joined_mem (List.mem_singleton_self _)
  have hresult : op.conclude reader.name (reader.response native.inside op s.drawn).result =
      .ok (native.inside.answer op) := by
    rw [Reader.response, native.inside.result_response]
    exact op.read_replyBody reader.name native.inside
  have hengine : ((s.plugin.hearAll station xs).updateEngine r fun _ =>
      reader.answered native.inside op s.drawn s.now).updateEngine r
        (·.release reader.engine.nextKey) =
      (s.plugin.hearAll station xs).updateEngine r fun _ =>
        reader.rested native.inside op s.drawn s.now := by
    rw [Plugin.updateEngine_updateEngine]
    rfl
  have hothers : Scene.others { s.replied master station r reader native op xs now order with
      ready := [s.nextId] } =
      [⟨s.nextId, .call (reader.ticket r op s.drawn) (.operation op),
        some ⟨s.now + reader.engine.patience, s.nextOrder⟩⟩] := rfl
  have hcall' : Scene.call? { s.replied master station r reader native op xs now order with
      ready := [s.nextId] } (reader.ticket r op s.drawn) = _ := hcall
  have hreader : (Scene.updateEngine { s.replied master station r reader native op xs now order with
      ready := [] } (.reader r) (·.release reader.engine.nextKey)).plugin.reader? r =
      some { reader with engine := reader.rested native.inside op s.drawn s.now } := by
    show (((s.plugin.hearAll station xs).updateEngine r _).updateEngine r _).reader? r = _
    rw [hengine]
    exact Plugin.reader?_updateEngine hhere _
  have hover := leads_call_over hne hids hothers hawake' rfl hcall' rfl rfl (by simp [Reader.ticket])
    (fun b => conclude_stage master station b hreader hresult) rfl rfl
  unfold Scene.operated
  rw [← hengine]
  exact hidle.trans hover

/-- From the response that is on its way to the end of the call. -/
theorem leads_home (hne : master ≠ station) (h : Serves master station s r reader native)
    (xs : List Notice) (now order : Nat) :
    Leads master station 3 (s.returning master station r reader native op xs now order)
      (s.operated station r reader native op xs now order) :=
  (leads_replied hne h xs now order).trans (leads_operated hne h xs now order)

/-! ## 5. The whole exchange -/

theorem quiet_operated (xs : List Notice) (now order : Nat) :
    (s.operated station r reader native op xs now order).Quiet where
  plain := Scene.plain_alone rfl
  ready := rfl
  awake := Scene.awake_alone rfl
  later _ ht := absurd ht List.not_mem_nil

/-- The scene when the slave takes its time. -/
def Scene.paused (master station : String) (s : Scene) (r : Nat) (reader : Reader)
    (native : NativeReader) (op : ReaderOperation) (xs : List Notice) : Scene :=
  { s.replying master station r reader native op xs with
    others :=
      [⟨s.nextId, .call (reader.ticket r op s.drawn) (.operation op),
          some ⟨s.now + reader.engine.patience, s.nextOrder⟩⟩,
        ⟨s.nextId + 1, .respond 0 master (reader.response native.inside op s.drawn),
          some ⟨s.now + s.slave.delay, s.nextOrder + 1⟩⟩]
    ready := []
    nextOrder := s.nextOrder + 2 }

/-- The scene when the time of the slave has come. -/
def Scene.resumed (master station : String) (s : Scene) (r : Nat) (reader : Reader)
    (native : NativeReader) (op : ReaderOperation) (xs : List Notice) : Scene :=
  { s.paused master station r reader native op xs with
    now := s.now + s.slave.delay
    others :=
      [⟨s.nextId, .call (reader.ticket r op s.drawn) (.operation op),
          some ⟨s.now + reader.engine.patience, s.nextOrder⟩⟩,
        ⟨s.nextId + 1, .respond 0 master (reader.response native.inside op s.drawn),
          none⟩]
    ready := [s.nextId + 1] }

theorem awake_replying (op : ReaderOperation) (h : Serves master station s r reader native)
    (xs : List Notice) :
    (s.replying master station r reader native op xs).awake = [s.nextId + 1] := by
  rw [Scene.awake_respond rfl, hasMail_asking (reader?_hearAll station h.here xs) rfl]
  rfl

theorem quiet_paused (h : Serves master station s r reader native) (hdelay : s.slave.delay ≠ 0)
    (xs : List Notice) : (s.paused master station r reader native op xs).Quiet where
  plain := Scene.plain_respond rfl
  ready := rfl
  awake := by
    rw [Scene.awake_respond rfl, hasMail_asking (reader?_hearAll station h.here xs) rfl]
    rfl
  later := by
    have hsoon := h.soon
    intro t ht alarm halarm
    show s.now < alarm.due
    rcases List.mem_cons.1 ht with rfl | ht
    · obtain rfl := Option.some.inj halarm
      show s.now < s.now + reader.engine.patience
      omega
    · obtain rfl := List.mem_singleton.1 ht
      obtain rfl := Option.some.inj halarm
      show s.now < s.now + s.slave.delay
      omega

/-- The clock goes on to the time of the slave, not to that of the call. -/
theorem nextDue?_paused (h : Serves master station s r reader native) (xs : List Notice)
    (b : Backstage) :
    (stage master station b (s.paused master station r reader native op xs)).agenda.nextDue? =
      some (s.now + s.slave.delay) := by
  have hsoon := h.soon
  show some (min (s.now + reader.engine.patience) (s.now + s.slave.delay)) = _
  rw [Nat.min_eq_right (by omega)]

theorem moveTo_paused (h : Serves master station s r reader native) (xs : List Notice)
    (b : Backstage) :
    (stage master station b (s.paused master station r reader native op xs)).moveTo
        (s.now + s.slave.delay) =
      stage master station b (s.resumed master station r reader native op xs) := by
  have hsoon := h.soon
  have hlate : ¬ s.now + reader.engine.patience ≤ s.now + s.slave.delay := by omega
  simp [moveTo, mapAgenda, Agenda.moveTo, Agenda.ring, Agenda.isRinging, stage, Scene.paused,
    Scene.resumed, Scene.replying, hsoon, Agenda.wake]

theorem leads_asked_replying (hne : master ≠ station)
    (h : Serves master station s r reader native) {xs : List Notice}
    (htexts : s.toMaster = xs.map (·.wire master station)) :
    Leads master station (xs.length + 4) (s.asked r reader op)
      (s.replying master station r reader native op xs) :=
  (leads_pending hne h htexts).trans (leads_replying hne h xs)

theorem result?_operated (h : Serves master station s r reader native) (xs : List Notice)
    (now order : Nat) (b : Backstage) :
    (stage master station b (s.operated station r reader native op xs now order)).result?
        s.nextId =
      some (.answer (.ok (native.inside.answer op))) :=
  lookup_append_last h.results _

theorem budget_asked {xs : List Notice} (htexts : s.toMaster = xs.map (·.wire master station)) :
    (s.asked r reader op).budget = 64 * (xs.length + 5) := by
  show 64 * (1 + s.toMaster.length + 1 + 3) = _
  rw [htexts, List.length_map]
  omega

/-- **The slave answers at once**: the network settles with the result. -/
theorem settle_prompt (op : ReaderOperation) (hne : master ≠ station)
    (h : Serves master station s r reader native) {xs : List Notice}
    (htexts : s.toMaster = xs.map (·.wire master station)) (hdelay : s.slave.delay = 0)
    (b : Backstage) :
    ∃ b', (stage master station b (s.asked r reader op)).settle = stage master station b'
      (s.operated station r reader native op xs s.now (s.nextOrder + 1)) := by
  have hids := h.ids
  have hothers : (s.replying master station r reader native op xs).others =
      [⟨s.nextId, .call (reader.ticket r op s.drawn) (.operation op),
          some ⟨s.now + reader.engine.patience, s.nextOrder⟩⟩,
        ⟨s.nextId + 1, .respond 0 master (reader.response native.inside op s.drawn),
          none⟩] := by
    rw [← hdelay]
    rfl
  have hsent := leads_response_is_sent hne (by omega) (by omega) hothers (awake_replying op h xs)
  have hall := ((leads_asked_replying hne h htexts).trans hsent).trans
    (leads_home hne h xs s.now (s.nextOrder + 1))
  refine settle_of_leads hne hall (quiet_operated xs _ _) ?_ b
  rw [budget_asked htexts]
  omega

/-- **The slave takes its time**: the network settles without the result, and again with it at the
time of the slave. -/
theorem settle_delayed (op : ReaderOperation) (hne : master ≠ station)
    (h : Serves master station s r reader native) {xs : List Notice}
    (htexts : s.toMaster = xs.map (·.wire master station)) (hdelay : s.slave.delay ≠ 0)
    (b : Backstage) :
    (∃ b', (stage master station b (s.asked r reader op)).settle =
      stage master station b' (s.paused master station r reader native op xs)) ∧
    ∀ b, ∃ b', (stage master station b (s.resumed master station r reader native op xs)).settle =
      stage master station b' (s.operated station r reader native op xs (s.now + s.slave.delay)
        (s.nextOrder + 2)) := by
  have hids := h.ids
  constructor
  · have hpaused := leads_response_sets_out hne (by omega) (by omega) hdelay rfl
      (awake_replying op h xs)
    refine settle_of_leads hne ((leads_asked_replying hne h htexts).trans hpaused)
      (quiet_paused h hdelay xs) ?_ b
    rw [budget_asked htexts]
    omega
  · intro b
    have hawake : (s.resumed master station r reader native op xs).awake = [s.nextId + 1] := by
      rw [Scene.awake_respond rfl, hasMail_asking (reader?_hearAll station h.here xs) rfl]
      rfl
    have hsent := leads_response_is_sent hne (by omega) (by omega) rfl hawake
    refine settle_of_leads hne (hsent.trans (leads_home hne h xs _ _)) (quiet_operated xs _ _) ?_ b
    show 4 ≤ 64 * (2 + 0 + 0 + 3)
    omega

/-- **The exchange of an operation**: the call has its result, at once or when the time of the slave
has come. -/
theorem await_operation (hne : master ≠ station) (h : Serves master station s r reader native)
    (hop : op.immediate? = none) {xs : List Notice}
    (htexts : s.toMaster = xs.map (·.wire master station)) (b : Backstage) :
    ∃ b' now order, ((stage master station b s).launchOperation r reader op).1 = s.nextId ∧
      ((stage master station b s).launchOperation r reader op).2.await s.nextId =
        stage master station b' (s.operated station r reader native op xs now order) := by
  obtain ⟨b₀, hlaunch⟩ := launchOperation_stage h hop b
  rw [hlaunch]
  by_cases hdelay : s.slave.delay = 0
  · obtain ⟨b₁, hsettle⟩ := settle_prompt op hne h htexts hdelay b₀
    refine ⟨b₁, s.now, s.nextOrder + 1, rfl, ?_⟩
    rw [← hsettle]
    refine await_of_result ?_
    rw [hsettle, result?_operated h]
    rfl
  · obtain ⟨⟨b₁, hsettle⟩, hresumed⟩ := settle_delayed op hne h htexts hdelay b₀
    obtain ⟨b₂, hagain⟩ := hresumed b₁
    refine ⟨b₂, s.now + s.slave.delay, s.nextOrder + 2, rfl, ?_⟩
    have hmove : (stage master station b₀ (s.asked r reader op)).settle.moveTo
        (s.now + s.slave.delay) =
        stage master station b₁ (s.resumed master station r reader native op xs) := by
      rw [hsettle, moveTo_paused h]
    rw [← hagain, ← hmove]
    refine await_of_next ?_ ?_ ?_
    · rw [hsettle]
      exact lookup_fresh h.results
    · rw [hsettle, nextDue?_paused h]
    · rw [hmove, hagain, result?_operated h]
      rfl

end Exchange

end CardLink
