import CardLink.Proofs.Plugin.Registry
import CardLink.Proofs.Virtual.Appeal

/-!
# The announcement of a reader

The slave calls the master; the master opens a session, creates the virtual reader and replies; the
slave takes note of the session. Notices that lie in the queue of the master are taken before.

* `Plugin.handle_announcement`: what the master does with the request.
* `Slave.connected_welcome`: what the slave makes of the reply.
* `conclude_connect_stage`: the slave takes in the result of its call.
* **`outcome_connect`**: the whole exchange.
-/

namespace CardLink

open Json Network

/-! ## 1. Request and reply -/

/-- The request that announces a reader. -/
def Slave.announces (sl : Slave) (native : String) (mode : TransmissionMode) (id : String) :
    Envelope :=
  .request Method.readerConnect.name (Slave.announcement mode) (sl.route native) id

/-- The plugin with the announced reader. -/
def Plugin.connecting (p : Plugin) (native station : String) (mode : TransmissionMode) : Plugin :=
  (p.enroll native station mode .empty).raise
    (.single p.name (ReaderName.make native station) .readerConnected)

/-- The reply of the master. -/
def Plugin.welcomes (p : Plugin) (sl : Slave) (native : String) (mode : TransmissionMode)
    (id : String) : Envelope :=
  Plugin.welcome (sl.announces native mode id) (p.nextSession native sl.node) id

section Request

variable {p : Plugin} {sl : Slave} {native : String}

/-- **An announcement of a reader that is not registered is welcome.** -/
theorem Plugin.handle_announcement (mode : TransmissionMode) (id : String)
    (hnew : p.registry.get? (ReaderName.make native sl.node) = none) :
    ∃ d, p.handle (sl.announces native mode id) =
      some (⟨.ok d, some (p.welcomes sl native mode id)⟩, p.connecting native sl.node mode) := by
  have hmethod : Method.ofName? (sl.announces native mode id).action = some .readerConnect :=
    Method.ofName?_name .readerConnect
  have hbody : ConnectRequest.ofBody (sl.announces native mode id).body = .ok ⟨mode, .empty⟩ :=
    ConnectRequest.ofBody_toText ⟨mode, .empty⟩
  have hcreate : p.create native sl.node mode .empty =
      .ok (p.nextSession native sl.node, p.connecting native sl.node mode) := by
    rcases p.create_cases native sl.node mode .empty with ⟨n, hn, -⟩ | ⟨-, hcreate⟩
    · rw [hnew] at hn
      cases hn
    · exact hcreate
  refine ⟨.readerConnected (ReaderName.make native sl.node), ?_⟩
  unfold handle
  rw [hmethod]
  show some (p.handleConnect (sl.announces native mode id)) = _
  have hcreate' : p.create (sl.announces native mode id).route.nativeReader
      (sl.announces native mode id).route.requester mode .empty =
      .ok (p.nextSession native sl.node, p.connecting native sl.node mode) := hcreate
  simp only [handleConnect, hbody, hcreate']
  rfl

/-- The reply is no failure. -/
theorem Plugin.result_welcomes (mode : TransmissionMode) (id : String) :
    (p.welcomes sl native mode id).result =
      .ok (ConnectResponse.mk (p.nextSession native sl.node).id).toJson.toText := by
  have hplain : (p.welcomes sl native mode id).containsException = false :=
    RemoteException.isMarked_toText
      (ConnectResponse.exact ⟨(p.nextSession native sl.node).id⟩) rfl
  unfold Envelope.result
  rw [hplain]
  rfl

/-- **The slave takes note of the session.** -/
theorem Slave.connected_welcome {r : NativeReader} (hr : sl.reader? native = some r) (id : String) :
    sl.connected native (.ok (ConnectResponse.mk id).toJson.toText) =
      (.ok id, { sl with readers := sl.readers.insert native { r with sessionId := some id } }) := by
  have hread : ConnectResponse.decoder.ofText (ConnectResponse.mk id).toJson.toText = .ok ⟨id⟩ :=
    ConnectResponse.reads.ofText ⟨id⟩ (ConnectResponse.exact ⟨id⟩)
  simp only [Slave.connected, hread, hr]

theorem Plugin.nextSession_hearAll (station native slave : String) (xs : List Notice) :
    (p.hearAll station xs).nextSession native slave = p.nextSession native slave := by
  obtain ⟨observers, notes, hxs⟩ := Plugin.hearAll_eq station p xs
  rw [hxs]
  rfl

end Request

/-! ## 2. The scenes of an announcement -/

section Announcement

/-- The engine of the slave once the reply has come. -/
def Slave.answered (sl : Slave) (reply : Envelope) (id : String) (now : Nat) : Engine :=
  sl.engine.answered id Method.readerConnect.name Slave.patience now reply

/-- The engine of the slave when the call is over. -/
def Slave.rested (sl : Slave) (reply : Envelope) (id : String) (now : Nat) : Engine :=
  (sl.answered reply id now).release sl.engine.nextKey

/-- **An announcement can begin**: nothing else is under way, and the reader is new to the master. -/
structure Welcomes (master station : String) (s : Scene) (native : String) (r : NativeReader) :
    Prop extends s.Free master station where
  new : s.plugin.registry.get? (ReaderName.make native station) = none
  there : s.slave.reader? native = some r

/-- The scene when the call is over. -/
def Scene.connected (station : String) (s : Scene) (native : String) (r : NativeReader)
    (mode : TransmissionMode) (xs : List Notice) : Scene :=
  { s with
    nextOrder := s.nextOrder + 1
    plugin := (s.plugin.hearAll station xs).connecting native station mode
    toMaster := []
    toSlave := []
    slave :=
      { s.slave with
        engine := s.slave.rested
          ((s.plugin.hearAll station xs).welcomes s.slave native mode s.drawn)
          s.drawn s.now
        readers := s.slave.readers.insert native
          { r with sessionId := some (s.plugin.nextSession native station).id } }
    others := []
    ready := []
    nextId := s.nextId + 1
    freshIds := s.freshIds + 1
    results := s.results ++ [(s.nextId,
      .connected (.ok (s.plugin.nextSession native station).id))] }

/-- The announcement, as a call of the slave. -/
def Slave.appeal (sl : Slave) (native : String) (mode : TransmissionMode) : Appeal :=
  ⟨Method.readerConnect.name, Slave.announcement mode, sl.route native, .connect native⟩

variable {master station : String} {s : Scene} {native : String} {r : NativeReader}

/-! ## 3. The exchange -/

theorem conclude_connect_stage (master station : String) (b : Backstage)
    {result : Except CallError String} {v : Except SlaveError String} {sl : Slave}
    (h : s.slave.connected native result = (v, sl)) :
    (stage master station b s).conclude (.connect native) (.slave 0) result =
      (.connected v, stage master station b { s with slave := sl }) := by
  have hslave : (stage master station b s).slave? 0 = some s.slave := rfl
  simp only [conclude, hslave, h]
  rfl

/-- **The announcement of a reader**: the call has its result at once, and both sides know the
session. -/
theorem outcome_connect (h : Welcomes master station s native r) (hne : master ≠ station)
    (mode : TransmissionMode) {xs : List Notice}
    (htexts : s.toMaster = xs.map (·.wire master station)) (b : Backstage) :
    ∃ b', outcome ((stage master station b s).launch (.slave 0) Method.readerConnect.name
        (Slave.announcement mode) (s.slave.route native) none Slave.patience (.connect native)) =
      (.ended (some (.connected (.ok (s.plugin.nextSession native station).id))),
        stage master station b' (s.connected station native r mode xs)) := by
  obtain rfl : s.slave.node = station := h.node
  let p := s.plugin.hearAll s.slave.node xs
  have hnew : p.registry.get? (ReaderName.make native s.slave.node) = none := by
    rw [Plugin.registry_hearAll]
    exact h.new
  obtain ⟨d, hd⟩ := Plugin.handle_announcement mode s.drawn hnew
  refine outcome_appeal (a := s.slave.appeal native mode) h.toFree hne h.master rfl htexts hd rfl rfl
    (fun b t ht => conclude_connect_stage master s.slave.node b ?_) b
  have hthere : t.slave.reader? native = some r := by
    rw [ht]
    exact h.there
  rw [Plugin.result_welcomes, Plugin.nextSession_hearAll, Slave.connected_welcome hthere, ht]
  rfl

end Announcement

end CardLink
