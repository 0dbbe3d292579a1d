import CardLink.Proofs.Virtual.Mirror

/-!
# What is done to the pair and to the desk

A deed that the desk allows has the same outcome on the pair, and the pair mirrors the desk that comes
of it.

* `Mirrors.change`: a card is put in or taken out, and a notice sets out for the master.
* `Mirrors.settle`: the observers are told of all that waits.
* `Mirrors.operated`: the request has gone to the slave and its response has come back.
* `Mirrors.connected`: both sides have a reader more.
* `Mirrors.insert`, `remove`, `pace`, `attend`, `pass`, `operate`, `connect`: one deed each.
-/

namespace CardLink

open Network

section Deeds

variable {master : String} {s : Scene} {d : Desk} {native : String} {r : Nat} {l : LocalReader}

/-! ## 1. Cards -/

/-- The slave with another content of one of its readers. -/
def Slave.holding (sl : Slave) (native : String) (x : NativeReader) : Slave :=
  { sl with readers := sl.readers.insert native x }

theorem changeCard_stage {station : String} (hne : master ≠ station)
    {change : Slave → Except SlaveError (Envelope × Slave)} {y : Notice} {sl : Slave}
    (hchange : change s.slave = .ok (y.envelope master station, sl)) (hmaster : sl.master = master)
    (b : Backstage) :
    ∃ b', (stage master station b s).changeCard 0 change = (.ok (), stage master station b'
      { s with slave := sl, toMaster := s.toMaster ++ [y.wire master station] }) := by
  obtain ⟨b', hsend⟩ := beginSending_master master station b { s with slave := sl } hne
    (y.envelope master station)
  refine ⟨b', ?_⟩
  have hslave : (stage master station b s).slave? 0 = some s.slave := rfl
  have hupdate : ((stage master station b s).updateSlave 0 fun _ => sl) =
      stage master station b { s with slave := sl } := rfl
  simp only [changeCard, hslave, hchange, hupdate, hmaster, send, hsend]
  rfl

theorem Slave.reader?_holding (sl : Slave) (native name : String) (x : NativeReader) :
    (sl.holding native x).reader? name = if name = native then some x else sl.reader? name :=
  Table.get?_insert ..

theorem Slave.insertCard_of_reader {sl : Slave} {x : NativeReader}
    (hx : sl.reader? native = some x) (card : SimulatedCard) :
    sl.insertCard native card = .ok ((sl.holding native { x with card := some card }).notice native
      ⟨Slave.pluginName, native, .inserted, x.inside.reaction card⟩,
        sl.holding native { x with card := some card }) := by
  simp only [insertCard, hx]
  rfl

theorem Slave.removeCard_of_reader {sl : Slave} {x : NativeReader}
    (hx : sl.reader? native = some x) :
    sl.removeCard native = .ok ((sl.holding native { x with card := none }).notice native
      (.plain Slave.pluginName native .removed), sl.holding native { x with card := none }) := by
  simp only [removeCard, hx]
  rfl

/-- A slave that is to announce a reader has it, or gets it. -/
theorem Slave.prepare_cases (sl : Slave) (native : String) :
    (∃ x, sl.reader? native = some x ∧ sl.prepare native = sl) ∨
    (sl.reader? native = none ∧ sl.prepare native = sl.holding native ⟨none, none, none⟩) := by
  unfold prepare Table.contains
  cases hx : sl.reader? native with
  | some x =>
    rw [show sl.readers.get? native = some x from hx]
    exact .inl ⟨x, rfl, rfl⟩
  | none =>
    rw [show sl.readers.get? native = none from hx]
    exact .inr ⟨rfl, rfl⟩

/-- **What is in a reader changes, and the observers will be told.** -/
theorem Mirrors.change (h : Mirrors master s d) (hr : d.readers.get? native = some (r, l))
    {x : NativeReader} (hselection : x.selection = l.selection) {y : Notice}
    (hnative : y.native = native) :
    Mirrors master
      { s with
        slave := s.slave.holding native x
        toMaster := s.toMaster ++ [y.wire master d.station] }
      ((d.put native r x.inside).raise r (y.told d.plugin d.station)) := by
  have hstands := h.stands native r l hr
  obtain ⟨reader, hreader, hattached⟩ := hstands.here
  obtain ⟨xs, htexts, hxs⟩ := h.backlog
  have hnew : Stands master d.station d.patience
      { s with
        slave := s.slave.holding native x
        toMaster := s.toMaster ++ [y.wire master d.station] } native r x.inside :=
    { registered := hstands.registered
      here := ⟨reader, hreader, { hattached with
        selection := hattached.selection.trans hselection.symm }⟩
      there := ⟨x, by rw [Slave.reader?_holding, if_pos rfl], rfl⟩ }
  have hothers : ∀ name, name ≠ native →
      (s.slave.holding native x).reader? name = s.slave.reader? name := by
    intro name hname
    rw [Slave.reader?_holding, if_neg hname]
  obtain ⟨hall, hnone⟩ := h.swap hr (t := { s with
    slave := s.slave.holding native x
    toMaster := s.toMaster ++ [y.wire master d.station] }) rfl (fun _ _ => rfl) hothers hnew
  refine ⟨{ h.calm with }, { h.manages with }, { h.responds with }, ⟨xs ++ [y], ?_, ?_⟩, hall, hnone⟩
  · show s.toMaster ++ [y.wire master d.station] = (xs ++ [y]).map (·.wire master d.station)
    rw [List.map_append, htexts]
    rfl
  · refine hxs.snoc ?_ ?_
    · rw [hnative]
      exact hstands.registered
    · rw [h.manages.name]

/-- **A card is put in.** -/
theorem Mirrors.insert (h : Mirrors master s d) (hne : master ≠ d.station)
    (hr : d.readers.get? native = some (r, l)) (card : SimulatedCard) (b : Backstage) :
    ∃ b' t, (stage master d.station b s).perform (.insert native card) =
        (.sent (.ok ()), stage master d.station b' t) ∧
      Mirrors master t ((d.put native r { l with card := some card }).raise r
        ⟨d.plugin, d.name native, .inserted, l.reaction card⟩) := by
  obtain ⟨x, hx, rfl⟩ := (h.stands native r l hr).there
  let x' : NativeReader := { x with card := some card }
  let y : Notice := ⟨(s.slave.holding native x').sessionId? native, native,
    ⟨Slave.pluginName, native, .inserted, x.inside.reaction card⟩⟩
  have hinsert : s.slave.insertCard native card =
      .ok (y.envelope master d.station, s.slave.holding native x') := by
    rw [← h.responds.node, ← h.responds.master]
    exact Slave.insertCard_of_reader hx card
  obtain ⟨b', hchange⟩ := changeCard_stage (s := s) hne hinsert h.responds.master b
  refine ⟨b', _, ?_, h.change hr (x := x') rfl (y := y) rfl⟩
  simp only [perform, hchange]

/-- **The card is taken out.** -/
theorem Mirrors.remove (h : Mirrors master s d) (hne : master ≠ d.station)
    (hr : d.readers.get? native = some (r, l)) (b : Backstage) :
    ∃ b' t, (stage master d.station b s).perform (.remove native) =
        (.sent (.ok ()), stage master d.station b' t) ∧
      Mirrors master t ((d.put native r { l with card := none }).raise r
        (.plain d.plugin (d.name native) .removed)) := by
  obtain ⟨x, hx, rfl⟩ := (h.stands native r l hr).there
  let x' : NativeReader := { x with card := none }
  let y : Notice := ⟨(s.slave.holding native x').sessionId? native, native,
    .plain Slave.pluginName native .removed⟩
  have hremove : s.slave.removeCard native =
      .ok (y.envelope master d.station, s.slave.holding native x') := by
    rw [← h.responds.node, ← h.responds.master]
    exact Slave.removeCard_of_reader hx
  obtain ⟨b', hchange⟩ := changeCard_stage (s := s) hne hremove h.responds.master b
  refine ⟨b', _, ?_, h.change hr (x := x') rfl (y := y) rfl⟩
  simp only [perform, hchange]

/-! ## 2. Time and observers -/

theorem Mirrors.pace (h : Mirrors master s d) {ms : Nat} (hms : ms < d.patience) (b : Backstage) :
    ∃ b' t, (stage master d.station b s).perform (.pace ms) =
        (.done, stage master d.station b' t) ∧ Mirrors master t d := by
  refine ⟨b, { s with slave := { s.slave with delay := ms } }, rfl, ?_⟩
  exact ⟨{ h.calm with }, h.manages, { h.responds with soon := hms }, h.backlog,
    fun name k m hname => (h.stands name k m hname).frame rfl rfl rfl, h.absent⟩

theorem Mirrors.attend (h : Mirrors master s d) (change : Hearing → Hearing) (b : Backstage) :
    ∃ b' t, (stage master d.station b s).perform (.attend change) =
        (.done, stage master d.station b' t) ∧
      Mirrors master t { d with hearing := change d.hearing } := by
  refine ⟨b, { s with plugin := s.plugin.withHearing (change s.plugin.hearing) }, rfl, ?_⟩
  have hhearing : (s.plugin.withHearing (change s.plugin.hearing)).hearing = change d.hearing := by
    rw [Plugin.hearing_withHearing, h.manages.hearing]
  exact ⟨{ h.calm with }, { h.manages with hearing := hhearing }, { h.responds with }, h.backlog,
    fun name k m hname => (h.stands name k m hname).frame rfl rfl rfl, h.absent⟩

theorem quiet_of_calm {s : Scene} (h : s.Calm) (hempty : s.toMaster = []) : s.Quiet where
  plain := Scene.plain_alone h.others
  ready := h.ready
  awake := by
    rw [Scene.awake_alone h.others, h.toSlave, hempty, h.ready]
    rfl
  later t ht := by
    rw [h.others] at ht
    exact absurd ht List.not_mem_nil

/-- A network on which nothing is under way but notices settles when the master has taken them. -/
theorem settle_calm {station : String} {xs : List Notice} (h : s.Calm) (hne : master ≠ station)
    (htexts : s.toMaster = xs.map (·.wire master station)) (b : Backstage) :
    ∃ b', (stage master station b s).settle = stage master station b'
      { s with plugin := s.plugin.hearAll station xs, toMaster := [] } := by
  have hquiet : Scene.Quiet { s with plugin := s.plugin.hearAll station xs, toMaster := [] } :=
    quiet_of_calm { h with } rfl
  have hbudget : xs.length + 1 ≤ s.budget := by
    show _ ≤ 64 * (s.others.length + s.toMaster.length + s.toSlave.length + 3)
    rw [htexts, List.length_map]
    omega
  exact settle_of_leads hne (leads_flush hne h htexts) hquiet hbudget b

/-- **The network settles when the observers were told.** -/
theorem Mirrors.settle (h : Mirrors master s d) (hne : master ≠ d.station) (b : Backstage) :
    ∃ b' t, (stage master d.station b s).settle = stage master d.station b' t ∧
      t.results = s.results ∧ Mirrors master t d.flush := by
  obtain ⟨xs, htexts, hxs⟩ := h.backlog
  obtain ⟨b', hsettle⟩ := settle_calm h.calm hne htexts b
  exact ⟨b', _, hsettle, rfl, h.flush hxs⟩

/-- The relation is not about time, ids and results. -/
theorem Mirrors.frame (h : Mirrors master s d) {t : Scene} (hcalm : t.Calm)
    (hplugin : t.plugin = s.plugin) (hslave : t.slave = s.slave) (htexts : t.toMaster = s.toMaster) :
    Mirrors master t d := by
  refine ⟨hcalm, ?_, ?_, ?_, ?_, ?_⟩
  · rw [hplugin]
    exact h.manages
  · rw [hslave]
    exact h.responds
  · rw [hplugin, htexts]
    exact h.backlog
  · intro name k m hname
    exact (h.stands name k m hname).frame (by rw [hplugin]) (by rw [hplugin]) (by rw [hslave])
  · rw [hplugin, hslave]
    exact h.absent

theorem runAlarms_calm {station : String} (h : s.Calm) (b : Backstage) (time k : Nat) :
    (stage master station b s).runAlarms time k = stage master station b s := by
  have hnone : (stage master station b s).agenda.nextDue? = none := by
    simp [Agenda.nextDue?, stage, h.others]
  cases k with
  | zero => rfl
  | succ k => simp only [runAlarms, hnone]

theorem moveTo_calm {station : String} (h : s.Calm) (b : Backstage) (time : Nat) :
    (stage master station b s).moveTo time =
      stage master station b { s with now := max s.now time } := by
  simp [moveTo, mapAgenda, Agenda.moveTo, Agenda.ring, Agenda.isRinging, stage, h.others]

/-- **Time goes by**, and the master takes all notices. -/
theorem runUntil_calm {station : String} {xs : List Notice} (h : s.Calm) (hne : master ≠ station)
    (htexts : s.toMaster = xs.map (·.wire master station)) (time : Nat) (b : Backstage) :
    ∃ b', (stage master station b s).runUntil time = stage master station b'
      { s with
        plugin := s.plugin.hearAll station xs
        toMaster := []
        now := max s.now time } := by
  obtain ⟨b₁, hsettle⟩ := settle_calm h hne htexts b
  let u : Scene := { s with plugin := s.plugin.hearAll station xs, toMaster := [] }
  have hu : u.Calm := { h with }
  have hlater : Scene.Calm { u with now := max s.now time } := { h with }
  have hnone : ([] : List String) = ([] : List Notice).map (·.wire master station) := rfl
  obtain ⟨b₂, hagain⟩ := settle_calm hlater hne hnone b₁
  refine ⟨b₂, ?_⟩
  unfold runUntil
  rw [hsettle, runAlarms_calm hu, moveTo_calm hu]
  exact hagain

/-- Time goes by, and the observers are told of all that waits. -/
theorem Mirrors.pass (h : Mirrors master s d) (hne : master ≠ d.station) (ms : Nat)
    (b : Backstage) :
    ∃ b' t, (stage master d.station b s).perform (.pass ms) =
        (.done, stage master d.station b' t) ∧ Mirrors master t d.flush := by
  obtain ⟨xs, htexts, hxs⟩ := h.backlog
  obtain ⟨b', hrun⟩ := runUntil_calm h.calm hne htexts (s.now + ms) b
  let t : Scene := { s with
    plugin := s.plugin.hearAll d.station xs
    toMaster := []
    now := max s.now (s.now + ms) }
  refine ⟨b', t, ?_, (h.flush hxs).frame (t := t) { h.calm with } rfl rfl rfl⟩
  rw [← hrun]
  rfl

/-! ## 3. Operations -/

/-- What the network finds for the name of a reader. -/
theorem Mirrors.find (h : Mirrors master s d) (hr : d.readers.get? native = some (r, l)) :
    s.plugin.findRemote native d.station = .ok r :=
  (s.plugin.findRemote_eq_ok native d.station).2 (h.stands native r l hr).registered

/-- The virtual reader of a native one stays what it is when an operation is over. -/
theorem Attached.after {station : String} {patience : Nat} {reader : Reader}
    (h : Attached master station patience native l reader) (op : ReaderOperation) (id : String)
    (now : Nat) : Attached master station patience native (l.after op)
      (Reader.remember op { reader with engine := reader.rested l op id now }) := by
  have hidle : (reader.rested l op id now).Idle := h.idle.release
  have hpatience : (reader.rested l op id now).patience = patience :=
    Engine.patience_release.trans h.patience
  cases op with
  | select selection => exact ⟨h.native, h.slave, h.master, hidle, hpatience, rfl⟩
  | transmit qs => exact ⟨h.native, h.slave, h.master, hidle, hpatience, h.selection⟩
  | transmitOne q => exact ⟨h.native, h.slave, h.master, hidle, hpatience, h.selection⟩
  | isPresent => exact ⟨h.native, h.slave, h.master, hidle, hpatience, h.selection⟩

/-- An operation can begin. -/
theorem Mirrors.serves (h : Mirrors master s d) (hr : d.readers.get? native = some (r, l)) :
    ∃ reader x, Serves master d.station s r reader x ∧ x.inside = l ∧
      Attached master d.station d.patience native l reader := by
  have hstands := h.stands native r l hr
  obtain ⟨reader, hreader, hattached⟩ := hstands.here
  obtain ⟨x, hx, hinside⟩ := hstands.there
  have hname : reader.name = ReaderName.make native d.station := by
    rw [Reader.name, hattached.native, hattached.slave]
  refine ⟨reader, x, { h.calm with
    here := hreader
    registered := ?_
    idle := hattached.idle
    slave := hattached.slave
    master := hattached.master
    there := ?_
    answers := h.responds.answers
    soon := ?_ }, hinside, hattached⟩
  · rw [hname]
    exact hstands.registered
  · rw [hattached.native]
    exact hx
  · rw [hattached.patience]
    exact h.responds.soon

/-- **The pair and the desk after an operation.** -/
theorem Mirrors.operated (h : Mirrors master s d) (hr : d.readers.get? native = some (r, l))
    {reader : Reader} {x : NativeReader} (hserves : Serves master d.station s r reader x)
    (hinside : x.inside = l) (hattached : Attached master d.station d.patience native l reader)
    {xs : List Notice} (hxs : Awaits s.plugin d.station xs d.pending) (op : ReaderOperation)
    (now order : Nat) :
    Mirrors master (s.operated d.station r reader x op xs now order)
      (d.flush.put native r (l.after op)) := by
  subst hinside
  have hflush := h.flush hxs
  have hstands := hflush.stands native r x.inside hr
  have hhere := reader?_hearAll d.station hserves.here xs
  have hnative := hattached.native
  have hreader : (s.operated d.station r reader x op xs now order).plugin.reader? r =
      some (Reader.remember op
        { reader with engine := reader.rested x.inside op s.drawn s.now }) := by
    show Plugin.reader? (Plugin.updateReader (Plugin.updateEngine _ r _) r _) r = _
    rw [Plugin.reader?_updateReader, Plugin.reader?_updateEngine hhere]
    simp
  have hothers : ∀ k, k ≠ r → (s.operated d.station r reader x op xs now order).plugin.reader? k =
      (s.plugin.hearAll d.station xs).reader? k := by
    intro k hk
    show Plugin.reader? (Plugin.updateReader (Plugin.updateReader _ r _) r _) k = _
    rw [Plugin.reader?_updateReader_ne _ hk, Plugin.reader?_updateReader_ne _ hk]
  have hthere : ∀ name, (s.slave.served reader.session.native x op).reader? name =
      if name = native then some { x with selection := (x.inside.after op).selection }
      else s.slave.reader? name := by
    rw [hnative]
    exact fun name => Table.get?_insert ..
  have hcard : (x.inside.after op).card = x.card := by
    cases op <;> rfl
  have hnew : Stands master d.station d.patience
      (s.operated d.station r reader x op xs now order) native r (x.inside.after op) :=
    { registered := hstands.registered
      here := ⟨_, hreader, hattached.after op _ _⟩
      there := ⟨_, (hthere native).trans (if_pos rfl), by rw [NativeReader.inside, ← hcard]⟩ }
  obtain ⟨hall, hnone⟩ := hflush.swap hr (t := s.operated d.station r reader x op xs now order)
    rfl hothers (fun name hname => (hthere name).trans (if_neg hname)) hnew
  refine ⟨⟨rfl, rfl, rfl, ?_, ?_⟩, ?_, { h.responds with }, ⟨[], rfl, .nil⟩, hall, hnone⟩
  · show 2 ≤ s.nextId + 2
    omega
  · exact results_append h.calm.results (Nat.lt_add_of_pos_right Nat.two_pos) _
  · have hlength : ((((s.plugin.hearAll d.station xs).updateEngine r fun _ =>
        reader.rested x.inside op s.drawn s.now).updateReader r
          (·.remember op)).readers).length = d.count := by
      rw [Plugin.updateReader, List.length_modify, Plugin.updateEngine, Plugin.updateReader,
        List.length_modify]
      exact hflush.manages.length
    exact { hflush.manages with length := hlength }

theorem Desk.put_self (hr : d.readers.get? native = some (r, l)) : d.put native r l = d := by
  have hreaders : d.readers.insert native (r, l) = d.readers := by
    refine Table.ext_get? fun name => ?_
    rw [Table.get?_insert]
    split
    · rename_i hname
      rw [hname, hr]
    · rfl
  rw [Desk.put, hreaders]

/-- The answer that needs no call is that of the local reader. -/
theorem LocalReader.immediate (l : LocalReader) {op : ReaderOperation} {a : ReaderAnswer}
    (h : op.immediate? = some a) : l.answer op = a ∧ l.after op = l := by
  cases op with
  | transmit qs =>
    cases qs with
    | nil => exact ⟨Option.some.inj h, rfl⟩
    | cons q qs => cases h
  | transmitOne q => cases h
  | isPresent => cases h
  | select selection => cases h

/-- An operation that needs no call. -/
theorem Mirrors.operate_at_once (h : Mirrors master s d) (hne : master ≠ d.station)
    (hr : d.readers.get? native = some (r, l)) {op : ReaderOperation} {a : ReaderAnswer}
    (hop : op.immediate? = some a) (reader : Reader) (b : Backstage) :
    ∃ b' t, outcome ((stage master d.station b s).launchOperation r reader op) =
        (.ended (some (.answer (.ok (l.answer op)))), stage master d.station b' t) ∧
      Mirrors master t (d.flush.put native r (l.after op)) := by
  obtain ⟨rfl, hafter⟩ := l.immediate hop
  let u : Scene := { s with
    nextId := s.nextId + 1
    results := s.results ++ [(s.nextId, .answer (.ok (l.answer op)))] }
  have hcalm : u.Calm := { h.calm with
    ids := Nat.le_succ_of_le h.calm.ids
    results := results_append h.calm.results (Nat.lt_succ_self s.nextId) _ }
  obtain ⟨b', t, hsettle, hresults, ht⟩ := (h.frame hcalm rfl rfl rfl).settle hne b
  have hlaunch : (stage master d.station b s).launchOperation r reader op =
      (s.nextId, stage master d.station b u) := by
    unfold launchOperation
    rw [hop]
    rfl
  have hresult : (stage master d.station b' t).result? s.nextId =
      some (.answer (.ok (l.answer op))) := by
    show t.results.lookup s.nextId = _
    rw [hresults]
    exact lookup_append_last h.calm.results _
  refine ⟨b', t, ?_, ?_⟩
  · rw [hlaunch]
    refine outcome_of_await rfl ?_ hresult
    rw [← hsettle]
    refine await_of_result ?_
    rw [hsettle, hresult]
    rfl
  · rw [hafter, Desk.put_self (d := d.flush) hr]
    exact ht

/-- **An operation has the answer of the local reader**, whether it needs a call or not. -/
theorem Mirrors.operate (h : Mirrors master s d) (hne : master ≠ d.station)
    (hr : d.readers.get? native = some (r, l)) (op : ReaderOperation) (b : Backstage) :
    ∃ b' t, (stage master d.station b s).perform (.operate native op) =
        (.ended (some (.answer (.ok (l.answer op)))), stage master d.station b' t) ∧
      Mirrors master t (d.flush.put native r (l.after op)) := by
  obtain ⟨reader, x, hserves, hinside, hattached⟩ := h.serves hr
  have hperform : (stage master d.station b s).perform (.operate native op) =
      outcome ((stage master d.station b s).launchOperation r reader op) := by
    have hslave : (stage master d.station b s).slave? 0 = some s.slave := rfl
    have hfind : (stage master d.station b s).plugin.findRemote native s.slave.node = .ok r := by
      rw [h.responds.node]
      exact h.find hr
    have hreader : (stage master d.station b s).plugin.reader? r = some reader := hserves.here
    simp only [perform, hslave, Network.operate, hfind, hreader]
  rw [hperform]
  cases hop : op.immediate? with
  | some a => exact h.operate_at_once hne hr hop reader b
  | none =>
    obtain ⟨xs, htexts, hxs⟩ := h.backlog
    obtain ⟨b', now, order, hid, hawait⟩ := await_operation hne hserves hop htexts b
    refine ⟨b', _, ?_, h.operated hr hserves hinside hattached hxs op now order⟩
    refine outcome_of_await hid hawait ?_
    rw [result?_operated hserves, hinside]

/-! ## 4. Announcements -/

theorem Plugin.attached_newcomer (p : Plugin) (hroom : 1 ≤ p.limit) (native station : String)
    (mode : TransmissionMode) :
    Attached p.address station p.patience native .empty
      (p.newcomer native station mode .empty) where
  native := rfl
  slave := rfl
  master := rfl
  idle := Engine.idle_new hroom p.patience
  patience := rfl
  selection := rfl

/-- The plugin manages one reader more. -/
theorem Manages.enroll {p : Plugin} (h : Manages master p d) {mode : TransmissionMode}
    (hnew : p.registry.get? (ReaderName.make native d.station) = none) :
    Manages master (p.connecting native d.station mode) (d.enroll native) where
  name := h.name
  address := h.address
  patience := h.patience
  room := h.room
  ids := h.ids
  issued := congrArg (· + 1) h.issued
  length := by
    rw [Plugin.connecting, Plugin.raise, Plugin.enroll, Plugin.register, List.length_append]
    exact congrArg (· + 1) h.length
  size := (Plugin.size_enroll hnew).trans (congrArg (· + 1) h.size)
  hearing := by
    rw [Plugin.connecting, Plugin.hearing_raise, Plugin.size_enroll hnew, h.size, h.name]
    show (Hearing.extend p.hearing).announce _ _ = _
    rw [h.hearing]
    rfl

/-- The new reader is registered under its own name only. -/
theorem Manages.get?_connecting {p : Plugin} (h : Manages master p d) (mode : TransmissionMode)
    (name : String) : (p.connecting native d.station mode).registry.get?
        (ReaderName.make name d.station) =
      if name = native then some d.count else p.registry.get? (ReaderName.make name d.station) := by
  show (p.enroll native d.station mode .empty).registry.get? _ = _
  rw [Plugin.get?_enroll, h.length]
  by_cases heq : name = native
  · rw [heq, if_pos rfl, if_pos rfl]
  · have hname : ReaderName.make name d.station ≠ ReaderName.make native d.station :=
      fun hmake => heq (ReaderName.make_inj hmake).1
    rw [if_neg heq, if_neg hname]

/-- **The pair and the desk after an announcement.** -/
theorem Mirrors.connected (h : Mirrors master s d) (hr : d.readers.get? native = none)
    (x : NativeReader) (hx : x.inside = .empty) (mode : TransmissionMode)
    {xs : List Notice} (hxs : Awaits s.plugin d.station xs d.pending) :
    Mirrors master
      (Scene.connected d.station { s with slave := s.slave.holding native x } native x mode xs)
      (d.flush.enroll native) := by
  have hflush := h.flush hxs
  let p := s.plugin.hearAll d.station xs
  let y : NativeReader := { x with sessionId := some (s.plugin.nextSession native d.station).id }
  let t := Scene.connected d.station { s with slave := s.slave.holding native x } native x mode xs
  have hfree := (hflush.absent native hr).1
  have hget : ∀ name, (d.flush.enroll native).readers.get? name =
      if name = native then some (d.count, .empty) else d.readers.get? name :=
    fun name => Table.get?_insert ..
  have hregistry : ∀ name, t.plugin.registry.get? (ReaderName.make name d.station) =
      if name = native then some d.count
      else p.registry.get? (ReaderName.make name d.station) :=
    hflush.manages.get?_connecting mode
  have hthere : ∀ name, t.slave.reader? name =
      if name = native then some y else s.slave.reader? name := by
    intro name
    show ((s.slave.holding native x).holding native y).reader? name = _
    rw [Slave.reader?_holding, Slave.reader?_holding]
    split
    · rfl
    · rfl
  refine ⟨⟨rfl, rfl, rfl, Nat.le_succ_of_le h.calm.ids, ?_⟩, hflush.manages.enroll hfree,
    { h.responds with idle := h.responds.idle.release }, ⟨[], rfl, .nil⟩, ?_, ?_⟩
  · exact results_append h.calm.results (Nat.lt_succ_self s.nextId) _
  · intro name k m hname
    rw [hget] at hname
    by_cases heq : name = native
    · subst heq
      rw [if_pos rfl] at hname
      obtain ⟨rfl, rfl⟩ := Prod.mk.inj (Option.some.inj hname)
      have hattached := p.attached_newcomer hflush.manages.room name d.station mode
      rw [hflush.manages.address, hflush.manages.patience] at hattached
      have hhere := p.reader?_enroll_new name d.station mode .empty
      rw [hflush.manages.length] at hhere
      exact
        { registered := (hregistry name).trans (if_pos rfl)
          here := ⟨_, hhere, hattached⟩
          there := ⟨y, (hthere name).trans (if_pos rfl), hx⟩ }
    · rw [if_neg heq] at hname
      have hold := hflush.stands name k m hname
      obtain ⟨reader, hreader, -⟩ := hold.here
      refine hold.frame ((hregistry name).trans (if_neg heq)) ?_ ((hthere name).trans (if_neg heq))
      exact (Plugin.reader?_enroll_old hreader).trans hreader.symm
  · intro name hname
    rw [hget] at hname
    by_cases heq : name = native
    · rw [if_pos heq] at hname
      cases hname
    · rw [if_neg heq] at hname
      obtain ⟨hnone, hthere'⟩ := hflush.absent name hname
      exact ⟨(hregistry name).trans ((if_neg heq).trans hnone),
        (hthere name).trans ((if_neg heq).trans hthere')⟩

/-- **A reader is announced** for the first time. -/
theorem Mirrors.connect (h : Mirrors master s d) (hne : master ≠ d.station)
    (hr : d.readers.get? native = none) (mode : TransmissionMode) (b : Backstage) :
    ∃ b' t, (stage master d.station b s).perform (.connect native mode) =
        (.ended (some (.connected (.ok (Identifier.session (d.count + 1))))),
          stage master d.station b' t) ∧
      Mirrors master t (d.flush.enroll native) := by
  obtain ⟨xs, htexts, hxs⟩ := h.backlog
  let x : NativeReader := ⟨none, none, none⟩
  let u : Scene := { s with slave := s.slave.holding native x }
  obtain ⟨hfree, hnone⟩ := h.absent native hr
  have hwelcomes : Welcomes master d.station u native x :=
    { h.calm with
      idle := h.responds.idle
      node := h.responds.node
      master := h.responds.master
      new := hfree
      there := (Slave.reader?_holding ..).trans (if_pos rfl) }
  have hprepare : s.slave.prepare native = s.slave.holding native x := by
    rcases s.slave.prepare_cases native with ⟨y, hy, -⟩ | ⟨-, hprepare⟩
    · rw [hnone] at hy
      cases hy
    · exact hprepare
  obtain ⟨b', hconnect⟩ := outcome_connect hwelcomes hne mode htexts b
  refine ⟨b', _, ?_, h.connected hr x rfl mode hxs⟩
  show outcome ((stage master d.station b { s with slave := s.slave.prepare native }).launch
    (.slave 0) Method.readerConnect.name (Slave.announcement mode)
    ((s.slave.prepare native).route native) none Slave.patience (.connect native)) = _
  rw [hprepare, ← h.manages.issued, ← h.manages.ids]
  exact hconnect

end Deeds

end CardLink
