import CardLink.Proofs.Plugin.Lifecycle
import CardLink.Proofs.Node.Dispatch
import CardLink.Proofs.Engine.Replies
import CardLink.Proofs.Slave.Frame
import CardLink.Proofs.Virtual.Transparency

/-!
# The master and the slave agree on their sessions

The slave announces and withdraws its readers, and puts cards in and takes them out, one thing over
before the next; in between the application at the master gives virtual readers up, of which the
slave learns nothing. Then the slave keeps the session of a reader that the master has no more, until
it announces the reader again; but it never has a wrong session of a reader that the master has.

* `Errand`, `Network.carryOut`: what is done, and its outcome on a network with one slave.
* `Concord`: the slave knows the session of every reader that the master has for it.
* `Agrees`: the relation of both sides that each errand keeps.
* `Network.Announced`, `Network.Withdrawn`: what may come of a handshake.
* **`Network.sessions_agree`**: the main statement, after any errands on a pair.

NOT here: detached nodes, readers that the application creates without a handshake.
-/

namespace CardLink

open Network

/-! ## 1. Errands -/

/-- What is done about the readers of a slave. -/
inductive Errand where
  /-- the slave announces a reader -/
  | connect (native : String) (mode : TransmissionMode)
  /-- the slave withdraws a reader -/
  | disconnect (native : String)
  | insert (native : String) (card : SimulatedCard)
  | remove (native : String)
  /-- the application at the master gives the virtual reader of a pair up -/
  | drop (native slave : String)
  /-- so many milliseconds go by -/
  | pass (ms : Nat)
  /-- the application changes its observers, or collects their notes -/
  | attend (change : Hearing → Hearing)

namespace Network

/-- An errand on a network with one slave. -/
def carryOut (errand : Errand) (n : Network) : Deed.Outcome × Network :=
  match errand with
  | .connect native mode => n.perform (.connect native mode)
  | .disconnect native => outcome (n.disconnect 0 native)
  | .insert native card => n.perform (.insert native card)
  | .remove native => n.perform (.remove native)
  | .drop native slave =>
    (.done, n.withPlugin (n.plugin.after (n.plugin.disconnect native slave)))
  | .pass ms => n.perform (.pass ms)
  | .attend change => n.perform (.attend change)

/-- The network after some errands. -/
def carryOutAll (errands : List Errand) (n : Network) : Network :=
  errands.foldl (fun n errand => (n.carryOut errand).2) n

/-- The master has a virtual reader for a native one. -/
def Has (n : Network) (native slave : String) : Prop := ∃ r, n.plugin.findRemote native slave = .ok r

/-- A reader of the first slave. -/
def nativeReader? (n : Network) (native : String) : Option NativeReader :=
  (n.slave? 0).bind (·.reader? native)

/-- The id of a session that the first slave has stored. -/
def storedId? (n : Network) (native : String) : Option String :=
  (n.nativeReader? native).bind (·.sessionId)

/-- **Neither side has changed**: the readers that are registered, the sessions of all readers, and
the readers of the slave with the ids that are stored there. -/
structure Unchanged (n n' : Network) : Prop where
  here : Plugin.Apart n.plugin n'.plugin
  there : ∀ name, n'.nativeReader? name = n.nativeReader? name

/-- All readers but one are as before on both sides. -/
def OthersKept (slave native : String) (n n' : Network) : Prop :=
  ∀ name, name ≠ native → n'.plugin.findRemote name slave = n.plugin.findRemote name slave ∧
    n'.nativeReader? name = n.nativeReader? name

/-- **What comes of an announcement.** -/
structure Announced (slave native : String) (n : Network) (v : Except SlaveError String)
    (n' : Network) : Prop where
  granted_iff : (∃ id, v = .ok id) ↔ ¬ n.Has native slave
  /-- the master has a reader that it had not before, and the slave stores the id of its session -/
  granted : ∀ id, v = .ok id → ∃ r reader, n.plugin.reader? r = none ∧
    n'.plugin.findRemote native slave = .ok r ∧ n'.plugin.reader? r = some reader ∧
    reader.session.id = id ∧ n'.storedId? native = some id ∧ OthersKept slave native n n'
  refused : ∀ reason, v = .error reason → Unchanged n n'

/-- **What comes of a withdrawal.** -/
structure Withdrawn (slave native : String) (n : Network) (v : Except SlaveError Unit)
    (n' : Network) : Prop where
  granted_iff : v = .ok () ↔ n.Has native slave
  /-- neither side has the reader any more -/
  granted : v = .ok () → ¬ n'.Has native slave ∧ n'.nativeReader? native = none ∧
    OthersKept slave native n n'
  refused : ∀ reason, v = .error reason → Unchanged n n'

end Network

/-! ## 2. Sessions on both sides -/

/-- The slave knows the session of a reader of the master. -/
structure Knows (p : Plugin) (sl : Slave) (station native : String) (k : Nat) (reader : Reader) :
    Prop where
  here : p.reader? k = some reader
  pair : reader.session.native = native ∧ reader.session.slave = station
  id : sl.sessionId? native = some reader.session.id

/-- **The slave knows the session of every reader that the master has for it.** -/
def Concord (station : String) (p : Plugin) (sl : Slave) : Prop :=
  ∀ native k, p.registry.get? (ReaderName.make native station) = some k →
    ∃ reader, Knows p sl station native k reader

section Concord

variable {station native : String} {p q : Plugin} {sl sl' : Slave} {k : Nat} {reader : Reader}

theorem Knows.keep (h : Knows p sl station native k reader)
    (hreader : ∃ reader', q.reader? k = some reader' ∧ reader'.session = reader.session)
    (hid : sl'.sessionId? native = sl.sessionId? native) :
    ∃ reader', Knows q sl' station native k reader' := by
  obtain ⟨reader', hreader', hsession⟩ := hreader
  refine ⟨reader', hreader', ?_, ?_⟩
  · rw [hsession]
    exact h.pair
  · rw [hsession, hid, h.id]

/-- Both sides agree as long as neither the registry nor a session nor a stored id changes. -/
theorem Concord.apart (h : Concord station p sl) (hapart : Plugin.Apart p q)
    (hids : ∀ name, sl'.sessionId? name = sl.sessionId? name) : Concord station q sl' := by
  intro native k hk
  rw [hapart.registry] at hk
  obtain ⟨reader, hknows⟩ := h native k hk
  refine hknows.keep ?_ (hids native)
  obtain ⟨reader', hreader', hstanding⟩ := hapart.symm.reader hknows.here
  exact ⟨reader', hreader', congrArg Prod.fst hstanding⟩

/-- A reader is added, and the slave stores the id of its session. -/
theorem Concord.enroll (h : Concord station p sl) (mode : TransmissionMode) (options : Settings)
    (ev : PluginEvent)
    (hids : ∀ name, sl'.sessionId? name =
      if name = native then some (p.nextSession native station).id else sl.sessionId? name) :
    Concord station ((p.enroll native station mode options).raise ev) sl' := by
  intro name k hk
  have hk' : (p.enroll native station mode options).registry.get? (ReaderName.make name station) =
      some k := hk
  rw [Plugin.get?_enroll] at hk'
  by_cases hname : name = native
  · subst hname
    rw [if_pos rfl] at hk'
    obtain rfl := Option.some.inj hk'
    exact ⟨p.newcomer name station mode options, p.reader?_enroll_new name station mode options,
      ⟨rfl, rfl⟩, (hids name).trans (if_pos rfl)⟩
  · have hne : ReaderName.make name station ≠ ReaderName.make native station :=
      fun hmake => hname (ReaderName.make_inj hmake).1
    rw [if_neg hne] at hk'
    obtain ⟨reader, hknows⟩ := h name k hk'
    exact hknows.keep ⟨reader, Plugin.reader?_enroll_old hknows.here, rfl⟩
      ((hids name).trans (if_neg hname))

/-- A reader is taken out, and the slave keeps what it stored for the others. -/
theorem Concord.unregister (h : Concord station p sl) (n : Nat) (freed : String) (ev : PluginEvent)
    (hids : ∀ name, ReaderName.make name station ≠ freed → sl'.sessionId? name = sl.sessionId? name) :
    Concord station ((p.unregister n freed).raise ev) sl' := by
  intro name k hk
  have hk' : (p.unregister n freed).registry.get? (ReaderName.make name station) = some k := hk
  rw [Plugin.get?_unregister] at hk'
  by_cases hname : ReaderName.make name station = freed
  · rw [if_pos hname] at hk'
    cases hk'
  · rw [if_neg hname] at hk'
    obtain ⟨reader, hknows⟩ := h name k hk'
    obtain ⟨reader', hreader', hsession, -⟩ := Plugin.unregister_of_reader hknows.here n freed
    exact hknows.keep ⟨reader', hreader', hsession⟩ (hids name hname)

theorem Plugin.apart_hearAll (station : String) (p : Plugin) (xs : List Notice) :
    Apart p (p.hearAll station xs) := by
  obtain ⟨observers, notes, h⟩ := hearAll_eq station p xs
  rw [h]
  exact .of_readers rfl rfl rfl

/-- Only the registry decides whether a handshake is refused. -/
theorem Plugin.Refused.of_registry {e : Envelope} {reason : ReaderError} (h : p.Refused e reason)
    (hregistry : q.registry = p.registry) : q.Refused e reason := by
  cases h with
  | unreadable fault hm hbody => exact .unreadable fault hm hbody
  | taken request k hm hbody hk => exact .taken request k hm hbody (by rw [hregistry, hk])
  | missing hm hfree => exact .missing hm (by rw [hregistry, hfree])

end Concord

/-- **Both sides agree**, and nothing is under way but notices for the master. -/
structure Agrees (master station : String) (s : Scene) : Prop where
  free : s.Free master station
  backlog : ∃ xs : List Notice, s.toMaster = xs.map (·.wire master station)
  concord : Concord station s.plugin s.slave

section Agrees

variable {master station native : String} {s : Scene}

/-! ## 3. Looking at both sides -/

theorem has_iff {n : Network} {slave : String} :
    n.Has native slave ↔ ∃ k, n.plugin.registry.get? (ReaderName.make native slave) = some k := by
  unfold Has
  simp only [Plugin.findRemote_eq_ok]

theorem not_has_iff {n : Network} {slave : String} :
    ¬ n.Has native slave ↔ n.plugin.registry.get? (ReaderName.make native slave) = none := by
  rw [has_iff, ← Option.isSome_iff_exists, Bool.not_eq_true, Option.isSome_eq_false_iff,
    Option.isNone_iff_eq_none]

theorem Network.Announced.of_refused {n n' : Network} {slave : String} (hhas : n.Has native slave)
    (h : Unchanged n n') (reason : SlaveError) : Announced slave native n (.error reason) n' where
  granted_iff := by
    refine iff_of_false ?_ (not_not_intro hhas)
    rintro ⟨id, hid⟩
    cases hid
  granted id hid := by cases hid
  refused _ _ := h

theorem Network.Withdrawn.of_refused {n n' : Network} {slave : String}
    (hnot : ¬ n.Has native slave) (h : Unchanged n n') (reason : SlaveError) :
    Withdrawn slave native n (.error reason) n' where
  granted_iff := iff_of_false (by rintro ⟨⟩) hnot
  granted hv := by cases hv
  refused _ _ := h

/-- All other readers are as before if no other name is registered, and no other reader of the slave
is, in another way. -/
theorem Network.OthersKept.of_lookups {n n' : Network} {slave : String}
    (hregistry : ∀ key, key ≠ ReaderName.make native slave →
      n'.plugin.registry.get? key = n.plugin.registry.get? key)
    (hthere : ∀ name, name ≠ native → n'.nativeReader? name = n.nativeReader? name) :
    OthersKept slave native n n' := by
  intro name hname
  refine ⟨?_, hthere name hname⟩
  unfold Plugin.findRemote Plugin.find
  rw [hregistry _ fun hmake => hname (ReaderName.make_inj hmake).1]

theorem Slave.sessionId?_holding (sl : Slave) (native name : String) (x : NativeReader) :
    (sl.holding native x).sessionId? name =
      if name = native then x.sessionId else sl.sessionId? name := by
  unfold sessionId?
  rw [reader?_holding]
  split
  · rfl
  · rfl

/-- Another reader is there as before when the slave is about to announce one. -/
theorem Slave.reader?_prepare_ne (sl : Slave) {name : String} (h : name ≠ native) :
    (sl.prepare native).reader? name = sl.reader? name := by
  rcases sl.prepare_cases native with ⟨x, -, heq⟩ | ⟨-, heq⟩
  · rw [heq]
  · rw [heq, reader?_holding, if_neg h]

/-- No id is stored before the announcement has its result. -/
theorem Slave.sessionId?_prepare (sl : Slave) (native name : String) :
    (sl.prepare native).sessionId? name = sl.sessionId? name := by
  rcases sl.prepare_cases native with ⟨x, -, heq⟩ | ⟨hnone, heq⟩
  · rw [heq]
  · rw [heq, sessionId?_holding]
    split
    · rename_i hname
      rw [hname, sessionId?, hnone]
      rfl
    · rfl

/-! ## 4. Announcements -/

/-- The slave is about to announce a reader. -/
def Scene.prepared (native : String) (s : Scene) : Scene :=
  { s with slave := s.slave.prepare native }

/-- The slave can call the master, and has a reader that it is about to announce. -/
theorem Welcomes.of_free (h : s.Free master station)
    (hfree : s.plugin.registry.get? (ReaderName.make native station) = none) :
    ∃ x, Welcomes master station (s.prepared native) native x := by
  obtain ⟨hengine, hnode, hmaster⟩ := s.slave.prepare_frame native
  have hidle : (s.slave.prepare native).engine.Idle := by
    rw [hengine]
    exact h.idle
  have hprepared : Scene.Free master station (s.prepared native) :=
    { h with idle := hidle, node := hnode.trans h.node, master := hmaster.trans h.master }
  obtain ⟨x, hx⟩ : ∃ x, (s.slave.prepare native).reader? native = some x := by
    rcases s.slave.prepare_cases native with ⟨x, hx, heq⟩ | ⟨-, heq⟩
    · exact ⟨x, by rw [heq, hx]⟩
    · exact ⟨_, by rw [heq, Slave.reader?_holding, if_pos rfl]⟩
  exact ⟨x, { hprepared with new := hfree, there := hx }⟩

section Connected

variable {x : NativeReader} {mode : TransmissionMode} {xs : List Notice}

/-- The slave has stored the id of the new session. -/
theorem sessionId?_connected (x : NativeReader) (mode : TransmissionMode) (xs : List Notice)
    (name : String) :
    ((s.prepared native).connected station native x mode xs).slave.sessionId? name =
      if name = native then some (s.plugin.nextSession native station).id
      else s.slave.sessionId? name := by
  rw [← Slave.sessionId?_prepare s.slave native name]
  exact Slave.sessionId?_holding ..

/-- **Both sides agree** when the reader is connected. -/
theorem Agrees.connected (h : Agrees master station s)
    (hwelcomes : Welcomes master station (s.prepared native) native x) :
    Agrees master station ((s.prepared native).connected station native x mode xs) where
  free :=
    hwelcomes.toFree.relieved (a := (s.prepared native).slave.appeal native mode) _ _ rfl rfl rfl
  backlog := ⟨[], rfl⟩
  concord := by
    refine (h.concord.apart (Plugin.apart_hearAll station s.plugin xs) fun _ => rfl).enroll mode
      .empty _ fun name => ?_
    rw [Plugin.nextSession_hearAll]
    exact sessionId?_connected x mode xs name

/-- **The master has a new reader**, and the slave the id of its session. -/
theorem announced_connected
    (hfree : s.plugin.registry.get? (ReaderName.make native station) = none) (b b' : Backstage) :
    Announced station native (stage master station b s)
      (.ok (s.plugin.nextSession native station).id)
      (stage master station b' ((s.prepared native).connected station native x mode xs)) := by
  let p := s.plugin.hearAll station xs
  have hget : ∀ name, (p.connecting native station mode).registry.get? name =
      if name = ReaderName.make native station then some p.readers.length
      else p.registry.get? name :=
    p.get?_enroll native station mode .empty
  have hregistry : p.registry = s.plugin.registry := Plugin.registry_hearAll ..
  refine ⟨iff_of_true ⟨_, rfl⟩ (not_has_iff.2 hfree), ?_, fun reason hreason => by cases hreason⟩
  intro id hid
  obtain rfl := Except.ok.inj hid
  refine ⟨p.readers.length, p.newcomer native station mode .empty, ?_, ?_, ?_,
    congrArg Session.id (Plugin.nextSession_hearAll ..), ?_, .of_lookups (fun key hkey => ?_)
      fun name hname => ?_⟩
  · show s.plugin.readers[p.readers.length]? = none
    rw [Plugin.readers_hearAll]
    exact List.getElem?_eq_none (Nat.le_refl _)
  · refine (Plugin.findRemote_eq_ok _ native station).2 ?_
    show (p.connecting native station mode).registry.get? _ = _
    rw [hget, if_pos rfl]
  · exact p.reader?_enroll_new native station mode .empty
  · exact (sessionId?_connected x mode xs native).trans (if_pos rfl)
  · show (p.connecting native station mode).registry.get? key = s.plugin.registry.get? key
    rw [hget, if_neg hkey, hregistry]
  · exact ((Slave.reader?_holding ..).trans (if_neg hname)).trans
      (s.slave.reader?_prepare_ne hname)

end Connected

/-- **A reader that the master has not is connected.** -/
theorem Agrees.connect_granted (h : Agrees master station s) (hne : master ≠ station)
    (hfree : s.plugin.registry.get? (ReaderName.make native station) = none)
    (mode : TransmissionMode) (b : Backstage) :
    ∃ v b' t, (stage master station b s).carryOut (.connect native mode) =
        (.ended (some (.connected v)), stage master station b' t) ∧ Agrees master station t ∧
      Announced station native (stage master station b s) v (stage master station b' t) := by
  obtain ⟨xs, htexts⟩ := h.backlog
  obtain ⟨x, hwelcomes⟩ := Welcomes.of_free h.free hfree
  obtain ⟨b', hconnect⟩ := outcome_connect hwelcomes hne mode htexts b
  exact ⟨_, b', _, hconnect, h.connected hwelcomes, announced_connected hfree b b'⟩

/-- **A handshake that is refused** leaves both sides as they were. -/
theorem Agrees.refused (h : Agrees master station s) (hne : master ≠ station) {a : Appeal}
    {reason : ReaderError} {r : Result} (htarget : a.route.target = master)
    (hrequester : a.route.requester = station)
    (hrefused : s.plugin.Refused (a.request s.drawn) reason)
    (hconclude : ∀ b t, (stage master station b t).conclude a.purpose (.slave 0)
      (.error (.remote reason.toRemote)) = (r, stage master station b t)) (b : Backstage) :
    ∃ b' t, outcome ((stage master station b s).launch (.slave 0) a.action a.body a.route none
        Slave.patience a.purpose) = (.ended (some r), stage master station b' t) ∧
      Agrees master station t ∧
      Unchanged (stage master station b s) (stage master station b' t) := by
  obtain ⟨xs, htexts⟩ := h.backlog
  let e := a.request s.drawn
  let sl : Slave := { s.slave with engine := s.rested a (e.replyException reason.toRemote) }
  have hapart := Plugin.apart_hearAll station s.plugin xs
  have hrefused' := hrefused.of_registry hapart.registry
  have hover : ∀ b t, t.slave = sl → (stage master station b t).conclude a.purpose (.slave 0)
      (e.replyException reason.toRemote).result =
        (r, stage master station b { t with slave := sl }) := by
    intro b t ht
    rw [Envelope.result_replyException, hconclude, ← ht]
  obtain ⟨b', houtcome⟩ := outcome_appeal h.free hne htarget hrequester htexts
    (Plugin.handle_of_refused _ e hrefused') rfl rfl hover b
  exact ⟨b', _, houtcome,
    ⟨h.free.relieved _ _ rfl rfl rfl, ⟨[], rfl⟩, h.concord.apart hapart fun _ => rfl⟩,
    hapart, fun _ => rfl⟩

/-- **A reader that the master has is not connected again.** -/
theorem Agrees.connect_refused (h : Agrees master station s) (hne : master ≠ station) {k : Nat}
    (hk : s.plugin.registry.get? (ReaderName.make native station) = some k)
    (mode : TransmissionMode) (b : Backstage) :
    ∃ v b' t, (stage master station b s).carryOut (.connect native mode) =
        (.ended (some (.connected v)), stage master station b' t) ∧ Agrees master station t ∧
      Announced station native (stage master station b s) v (stage master station b' t) := by
  obtain rfl : s.slave.node = station := h.free.node
  obtain ⟨xs, htexts⟩ := h.backlog
  -- the slave has the reader, so that nothing is made ready
  have hprepare : s.slave.prepare native = s.slave := by
    obtain ⟨reader, hknows⟩ := h.concord native k hk
    rcases s.slave.prepare_cases native with ⟨x, -, heq⟩ | ⟨hnone, -⟩
    · exact heq
    · have hid := hknows.id
      rw [Slave.sessionId?, hnone] at hid
      cases hid
  have hrefused : s.plugin.Refused ((s.slave.appeal native mode).request s.drawn)
      (.duplicateReader native s.slave.node) :=
    .taken ⟨mode, .empty⟩ k (Method.ofName?_name .readerConnect)
      (ConnectRequest.ofBody_toText ⟨mode, .empty⟩) hk
  obtain ⟨b', t, houtcome, hagrees, hunchanged⟩ := h.refused hne h.free.master rfl hrefused
    (fun b t => conclude_connect_stage master s.slave.node b rfl) b
  have hhas : (stage master s.slave.node b s).Has native s.slave.node := has_iff.2 ⟨k, hk⟩
  have hlaunch : (stage master s.slave.node b s).carryOut (.connect native mode) =
      outcome ((stage master s.slave.node b s).launch (.slave 0) Method.readerConnect.name
        (Slave.announcement mode) (s.slave.route native) none Slave.patience (.connect native)) := by
    show outcome ((stage master s.slave.node b { s with slave := s.slave.prepare native }).launch
      (.slave 0) Method.readerConnect.name (Slave.announcement mode)
      ((s.slave.prepare native).route native) none Slave.patience (.connect native)) = _
    rw [hprepare]
  exact ⟨_, b', t, hlaunch.trans houtcome, hagrees, .of_refused hhas hunchanged _⟩

theorem Agrees.connect (h : Agrees master station s) (hne : master ≠ station) (native : String)
    (mode : TransmissionMode) (b : Backstage) :
    ∃ v b' t, (stage master station b s).carryOut (.connect native mode) =
        (.ended (some (.connected v)), stage master station b' t) ∧ Agrees master station t ∧
      Announced station native (stage master station b s) v (stage master station b' t) := by
  cases hk : s.plugin.registry.get? (ReaderName.make native station) with
  | none => exact h.connect_granted hne hk mode b
  | some k => exact h.connect_refused hne hk mode b

/-! ## 5. Withdrawals -/

/-- The withdrawal of a reader, as a call of the slave. -/
def Slave.farewell (sl : Slave) (native : String) : Appeal :=
  ⟨Method.readerDisconnect.name, "", sl.route native, .disconnect native⟩

theorem conclude_disconnect_stage (master station : String) (b : Backstage)
    {result : Except CallError String} {v : Except SlaveError Unit} {sl : Slave}
    (h : s.slave.disconnected native result = (v, sl)) :
    (stage master station b s).conclude (.disconnect native) (.slave 0) result =
      (.disconnected v, stage master station b { s with slave := sl }) := by
  have hslave : (stage master station b s).slave? 0 = some s.slave := rfl
  simp only [conclude, hslave, h]
  rfl

theorem Plugin.handle_of_registered {p : Plugin} {e : Envelope} {k : Nat}
    (hm : Method.ofName? e.action = some .readerDisconnect)
    (hk : p.registry.get? e.readerName = some k) :
    p.handle e = some (⟨.ok (.readerDisconnected e.readerName),
      e.id.map fun id => .noResponse (some id)⟩, p.afterDisconnect e k) := by
  rcases p.remove_cases e.route.nativeReader e.route.requester with ⟨hfree, -⟩ | ⟨k', hk', heq⟩
  · rw [Envelope.readerName, hfree] at hk
    cases hk
  · rw [Envelope.readerName, hk'] at hk
    obtain rfl := Option.some.inj hk
    simp only [handle, hm, handleDisconnect, heq]
    rfl

theorem Slave.reader?_erase (sl : Slave) (native name : String) :
    Slave.reader? { sl with readers := sl.readers.erase native } name =
      if name = native then none else sl.reader? name :=
  Table.get?_erase ..

/-- **Neither side has the reader any more.** -/
theorem withdrawn_relieved {k : Nat} {q : Plugin} {sl : Slave} {r : Result}
    (hk : s.plugin.registry.get? (ReaderName.make native station) = some k)
    (hget : ∀ key, q.registry.get? key =
      if key = ReaderName.make native station then none else s.plugin.registry.get? key)
    (hthere : ∀ name, sl.reader? name = if name = native then none else s.slave.reader? name)
    (b b' : Backstage) :
    Withdrawn station native (stage master station b s) (.ok ())
      (stage master station b' (s.relieved q sl r)) where
  granted_iff := iff_of_true rfl (has_iff.2 ⟨k, hk⟩)
  granted _ := ⟨not_has_iff.2 ((hget _).trans (if_pos rfl)), (hthere native).trans (if_pos rfl),
    .of_lookups (fun key hkey => (hget key).trans (if_neg hkey))
      fun name hname => (hthere name).trans (if_neg hname)⟩
  refused _ hv := by cases hv

/-- **A reader that the master has is disconnected** on both sides. -/
theorem Agrees.disconnect_granted (h : Agrees master station s) (hne : master ≠ station) {k : Nat}
    (hk : s.plugin.registry.get? (ReaderName.make native station) = some k) (b : Backstage) :
    ∃ v b' t, (stage master station b s).carryOut (.disconnect native) =
        (.ended (some (.disconnected v)), stage master station b' t) ∧ Agrees master station t ∧
      Withdrawn station native (stage master station b s) v (stage master station b' t) := by
  obtain rfl : s.slave.node = station := h.free.node
  obtain ⟨xs, htexts⟩ := h.backlog
  let a := s.slave.farewell native
  let e := a.request s.drawn
  let p := s.plugin.hearAll s.slave.node xs
  let reply := Envelope.noResponse (some s.drawn)
  let sl : Slave :=
    { s.slave with engine := s.rested a reply, readers := s.slave.readers.erase native }
  have hapart : Plugin.Apart s.plugin p := Plugin.apart_hearAll s.slave.node s.plugin xs
  have hk' : p.registry.get? e.readerName = some k := by
    rw [hapart.registry]
    exact hk
  have hhandle := Plugin.handle_of_registered (Method.ofName?_name .readerDisconnect) hk'
  have hconclude : ∀ (b : Backstage) (t : Scene),
      t.slave = { s.slave with engine := s.rested a reply } →
        (stage master s.slave.node b t).conclude a.purpose (.slave 0) reply.result =
          (.disconnected (.ok ()), stage master s.slave.node b { t with slave := sl }) := by
    intro b t ht
    refine conclude_disconnect_stage master s.slave.node b ?_
    rw [ht, Envelope.result_of_unmarked (RemoteException.not_marked rfl)]
    rfl
  obtain ⟨b', houtcome⟩ :=
    outcome_appeal h.free hne h.free.master rfl htexts hhandle rfl rfl hconclude b
  have hget : ∀ key, (p.afterDisconnect e k).registry.get? key =
      if key = e.readerName then none else s.plugin.registry.get? key := by
    rw [← hapart.registry]
    exact p.get?_unregister k e.readerName
  have hthere : ∀ name, sl.reader? name = if name = native then none else s.slave.reader? name :=
    s.slave.reader?_erase native
  refine ⟨.ok (), b', _, houtcome, ⟨h.free.relieved _ _ rfl rfl rfl, ⟨[], rfl⟩, ?_⟩,
    withdrawn_relieved hk hget hthere b b'⟩
  refine (h.concord.apart hapart fun _ => rfl).unregister k e.readerName _ fun name hname => ?_
  have hother : name ≠ native := fun heq => hname (by rw [heq]; rfl)
  show (sl.reader? name).bind (·.sessionId) = _
  rw [hthere, if_neg hother]
  rfl

/-- **A reader that the master has not is not disconnected.** -/
theorem Agrees.disconnect_refused (h : Agrees master station s) (hne : master ≠ station)
    (hfree : s.plugin.registry.get? (ReaderName.make native station) = none) (b : Backstage) :
    ∃ v b' t, (stage master station b s).carryOut (.disconnect native) =
        (.ended (some (.disconnected v)), stage master station b' t) ∧ Agrees master station t ∧
      Withdrawn station native (stage master station b s) v (stage master station b' t) := by
  obtain rfl : s.slave.node = station := h.free.node
  have hrefused : s.plugin.Refused ((s.slave.farewell native).request s.drawn) _ :=
    .missing (Method.ofName?_name .readerDisconnect) hfree
  obtain ⟨b', t, houtcome, hagrees, hunchanged⟩ := h.refused hne h.free.master rfl hrefused
    (fun b t => conclude_disconnect_stage master s.slave.node b rfl) b
  have hnot : ¬ (stage master s.slave.node b s).Has native s.slave.node := not_has_iff.2 hfree
  exact ⟨_, b', t, houtcome, hagrees, .of_refused hnot hunchanged _⟩

theorem Agrees.disconnect (h : Agrees master station s) (hne : master ≠ station) (native : String)
    (b : Backstage) :
    ∃ v b' t, (stage master station b s).carryOut (.disconnect native) =
        (.ended (some (.disconnected v)), stage master station b' t) ∧ Agrees master station t ∧
      Withdrawn station native (stage master station b s) v (stage master station b' t) := by
  cases hk : s.plugin.registry.get? (ReaderName.make native station) with
  | none => exact h.disconnect_refused hne hk b
  | some k => exact h.disconnect_granted hne hk b

/-! ## 6. Everything else -/

/-- **A card is put in or taken out**, if the slave has the reader. -/
theorem Agrees.change (h : Agrees master station s) (hne : master ≠ station) (native : String)
    (change : Slave → Except SlaveError (Envelope × Slave))
    (hchange : (∃ reason, change s.slave = .error reason) ∨
      ∃ x y, x.sessionId = s.slave.sessionId? native ∧
        change s.slave = .ok (Notice.envelope master station y, s.slave.holding native x))
    (b : Backstage) :
    ∃ r b' t, (stage master station b s).changeCard 0 change = (r, stage master station b' t) ∧
      Agrees master station t := by
  rcases hchange with ⟨reason, hfailed⟩ | ⟨x, y, hid, hchanged⟩
  · refine ⟨.error reason, b, s, ?_, h⟩
    have hslave : (stage master station b s).slave? 0 = some s.slave := rfl
    simp only [changeCard, hslave, hfailed]
  · obtain ⟨xs, htexts⟩ := h.backlog
    obtain ⟨b', hsent⟩ := changeCard_stage hne hchanged h.free.master b
    refine ⟨_, b', _, hsent, { h.free with }, ⟨xs ++ [y], ?_⟩,
      h.concord.apart (.of_readers rfl rfl rfl) fun name => ?_⟩
    · show s.toMaster ++ [y.wire master station] = (xs ++ [y]).map (·.wire master station)
      rw [List.map_append, htexts]
      rfl
    · show (s.slave.holding native x).sessionId? name = _
      rw [Slave.sessionId?_holding]
      split
      · rename_i hname
        rw [hname, hid]
      · rfl

theorem Agrees.insert (h : Agrees master station s) (hne : master ≠ station) (native : String)
    (card : SimulatedCard) (b : Backstage) :
    ∃ o b' t, (stage master station b s).carryOut (.insert native card) =
        (o, stage master station b' t) ∧ Agrees master station t := by
  obtain ⟨r, b', t, hsent, ht⟩ := h.change hne native (·.insertCard native card) (by
      obtain rfl : s.slave.node = station := h.free.node
      obtain rfl : s.slave.master = master := h.free.master
      unfold Slave.insertCard Slave.sessionId?
      cases hx : s.slave.reader? native with
      | none => exact .inl ⟨_, rfl⟩
      | some x => exact .inr ⟨{ x with card := some card }, ⟨_, native, _⟩, rfl, rfl⟩) b
  exact ⟨.sent r, b', t, by simp only [carryOut, perform, hsent], ht⟩

theorem Agrees.remove (h : Agrees master station s) (hne : master ≠ station) (native : String)
    (b : Backstage) :
    ∃ o b' t, (stage master station b s).carryOut (.remove native) =
        (o, stage master station b' t) ∧ Agrees master station t := by
  obtain ⟨r, b', t, hsent, ht⟩ := h.change hne native (·.removeCard native) (by
      obtain rfl : s.slave.node = station := h.free.node
      obtain rfl : s.slave.master = master := h.free.master
      unfold Slave.removeCard Slave.sessionId?
      cases hx : s.slave.reader? native with
      | none => exact .inl ⟨_, rfl⟩
      | some x => exact .inr ⟨{ x with card := none }, ⟨_, native, _⟩, rfl, rfl⟩) b
  exact ⟨.sent r, b', t, by simp only [carryOut, perform, hsent], ht⟩

/-- **The application gives a virtual reader up**, and the slave learns nothing of it. -/
theorem Concord.drop {p : Plugin} {sl : Slave} (h : Concord station p sl) (native slave : String) :
    Concord station (p.after (p.disconnect native slave)) sl := by
  unfold Plugin.disconnect
  rcases p.remove_cases native slave with ⟨-, heq⟩ | ⟨k, -, heq⟩
  · rw [heq]
    exact h
  · rw [heq]
    exact h.unregister k _ _ fun _ _ => rfl

/-- **Every errand leaves both sides in agreement.** -/
theorem Agrees.carryOut (h : Agrees master station s) (hne : master ≠ station) (errand : Errand)
    (b : Backstage) :
    ∃ o b' t, (stage master station b s).carryOut errand = (o, stage master station b' t) ∧
      Agrees master station t := by
  cases errand with
  | connect native mode =>
    obtain ⟨v, b', t, heq, ht, -⟩ := h.connect hne native mode b
    exact ⟨_, b', t, heq, ht⟩
  | disconnect native =>
    obtain ⟨v, b', t, heq, ht, -⟩ := h.disconnect hne native b
    exact ⟨_, b', t, heq, ht⟩
  | insert native card => exact h.insert hne native card b
  | remove native => exact h.remove hne native b
  | drop native slave =>
    exact ⟨.done, b, { s with plugin := s.plugin.after (s.plugin.disconnect native slave) }, rfl,
      { h.free with }, h.backlog, h.concord.drop native slave⟩
  | pass ms =>
    obtain ⟨xs, htexts⟩ := h.backlog
    obtain ⟨b', hrun⟩ := runUntil_calm h.free.toCalm hne htexts (s.now + ms) b
    let t : Scene := { s with
      plugin := s.plugin.hearAll station xs
      toMaster := []
      now := max s.now (s.now + ms) }
    refine ⟨.done, b', t, ?_, { h.free with }, ⟨[], rfl⟩,
      h.concord.apart (Plugin.apart_hearAll station s.plugin xs) fun _ => rfl⟩
    rw [← hrun]
    rfl
  | attend change =>
    exact ⟨.done, b, { s with plugin := s.plugin.withHearing (change s.plugin.hearing) }, rfl,
      { h.free with }, h.backlog, h.concord.apart (.of_readers rfl rfl rfl) fun _ => rfl⟩

theorem Agrees.carryOutAll (h : Agrees master station s) (hne : master ≠ station)
    (errands : List Errand) (b : Backstage) :
    ∃ b' t, (stage master station b s).carryOutAll errands = stage master station b' t ∧
      Agrees master station t := by
  induction errands generalizing s b with
  | nil => exact ⟨b, s, rfl, h⟩
  | cons errand errands ih =>
    obtain ⟨o, b₁, t₁, hfirst, h₁⟩ := h.carryOut hne errand b
    obtain ⟨b', t, hrest, ht⟩ := ih h₁ b₁
    refine ⟨b', t, ?_, ht⟩
    show ((stage master station b s).carryOut errand).2.carryOutAll errands = _
    rw [hfirst]
    exact hrest

end Agrees

/-! ## 7. The main statement -/

namespace Network

/-- **The master and the slave agree on their sessions**, and go on to do so whatever is done next. -/
structure SessionsAgree (slave : String) (n : Network) : Prop where
  /-- the slave stores the id of the session of every reader that the master has for it -/
  known : ∀ native r, n.plugin.findRemote native slave = .ok r → ∃ reader,
    n.plugin.reader? r = some reader ∧
    (reader.session.native = native ∧ reader.session.slave = slave) ∧
    n.storedId? native = some reader.session.id
  /-- an announcement ends, and is granted exactly if the master has not the reader -/
  connect : ∀ native mode, ∃ v n',
    n.carryOut (.connect native mode) = (.ended (some (.connected v)), n') ∧
    Announced slave native n v n'
  /-- a withdrawal ends, and is granted exactly if the master has the reader -/
  disconnect : ∀ native, ∃ v n',
    n.carryOut (.disconnect native) = (.ended (some (.disconnected v)), n') ∧
    Withdrawn slave native n v n'

theorem sessionsAgree_of_agrees {master station : String} {s : Scene}
    (h : Agrees master station s) (hne : master ≠ station) (b : Backstage) :
    SessionsAgree station (stage master station b s) where
  known native r hr := by
    obtain ⟨reader, hknows⟩ := h.concord native r ((s.plugin.findRemote_eq_ok native station).1 hr)
    exact ⟨reader, hknows.here, hknows.pair, hknows.id⟩
  connect native mode := by
    obtain ⟨v, b', t, heq, -, hannounced⟩ := h.connect hne native mode b
    exact ⟨v, _, heq, hannounced⟩
  disconnect native := by
    obtain ⟨v, b', t, heq, -, hwithdrawn⟩ := h.disconnect hne native b
    exact ⟨v, _, heq, hwithdrawn⟩

/-- **The master and the slave agree on their sessions** after any errands on a pair. -/
theorem sessions_agree {config : Config} {slave : String} {n : Network}
    (hpair : pair config slave = .ok n) (hne : config.nodeId ≠ slave) (errands : List Errand) :
    SessionsAgree slave (n.settle.carryOutAll errands) := by
  obtain ⟨b, s, hsettle, hmirrors⟩ := pair_mirrors hpair hne
  have hagrees : Agrees config.nodeId slave s :=
    { free := { hmirrors.calm, hmirrors.responds with }
      backlog := by
        obtain ⟨xs, htexts, -⟩ := hmirrors.backlog
        exact ⟨xs, htexts⟩
      concord := by
        intro native k hk
        have hnone : s.plugin.registry.get? (ReaderName.make native slave) = none :=
          (hmirrors.absent native rfl).1
        rw [hnone] at hk
        cases hk }
  obtain ⟨b', t, hall, ht⟩ := hagrees.carryOutAll hne errands b
  rw [hsettle, hall]
  exact sessionsAgree_of_agrees ht hne b'

/-- The master has not a reader that its application gave up. -/
theorem not_has_drop (n : Network) (native slave : String) :
    ¬ (n.carryOut (.drop native slave)).2.Has native slave := by
  rw [not_has_iff]
  show (n.plugin.after (n.plugin.disconnect native slave)).registry.get? _ = none
  unfold Plugin.disconnect
  rcases n.plugin.remove_cases native slave with ⟨hfree, heq⟩ | ⟨k, -, heq⟩
  · rw [heq]
    exact hfree
  · rw [heq]
    show (n.plugin.unregister k _).registry.get? _ = none
    rw [Plugin.get?_unregister, if_pos rfl]

/-- A reader is announced, given up at the master, and announced again: the slave, which has kept the
first session, gets another one. -/
theorem sessions_agree_reunion :
    ∃ n, pair .default "S" = .ok n ∧ ∃ id n',
      (n.settle.carryOutAll [.connect "R" .contacts, .drop "R" "S"]).carryOut
        (.connect "R" .contacts) = (.ended (some (.connected (.ok id))), n') ∧
      n'.storedId? "R" = some id ∧ n'.Has "R" "S" := by
  have hpair : pair .default "S" = .ok _ := rfl
  obtain ⟨v, n', hconnect, hannounced⟩ := (sessions_agree hpair (by decide)
    [.connect "R" .contacts, .drop "R" "S"]).connect "R" .contacts
  obtain ⟨id, rfl⟩ := hannounced.granted_iff.2 (not_has_drop _ "R" "S")
  obtain ⟨r, reader, -, hfound, -, -, hstored, -⟩ := hannounced.granted id rfl
  exact ⟨_, hpair, id, n', hconnect, hstored, r, hfound⟩

end Network

end CardLink
