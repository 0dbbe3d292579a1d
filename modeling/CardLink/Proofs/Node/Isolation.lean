import CardLink.Proofs.Node.Handshake
import CardLink.Proofs.Node.Routing
import CardLink.Proofs.Observer.Passive

/-!
# Slaves do not reach into one another

A request is about the readers of the slave that sent it. Whatever it asks for, and whatever names it
writes into its body: the readers of other slaves stay registered, open and at work as they were, no
call of any reader gets a response, and observers are told only of readers of this slave.

* `Plugin.Confined`: all that happened concerns the reader of one name.
* `Plugin.Tells`: what observers are told of a request.
* `Plugin.effect`: what a request comes to, for observers that only take note.
* `Plugin.Isolated`: nothing of other slaves was touched.
* **`Node.requests_isolated`**: the main statement, for every request that comes in.
* **`Node.undisturbed`**: a slave notices nothing of any number of requests of other slaves.

NOT here: requests of one slave under the name of another. A node believes what the route says.
-/

namespace CardLink

namespace NodeEvent

def pluginName : NodeEvent → String
  | .reader e => e.pluginName
  | .plugin e => e.pluginName

/-- The readers that the event is about. -/
def readerNames : NodeEvent → List String
  | .reader e => [e.readerName]
  | .plugin e => e.readerNames

end NodeEvent

namespace Plugin

/-! ## 1. Observers that only take note -/

/-- All observers on the node only take note of what they are told. -/
structure Attended (p : Plugin) : Prop where
  readers : p.readerObservers.Passive
  plugin : p.pluginObservers.Passive

/-- The plugin with more notes of its observers. -/
def noting (p : Plugin) (notes : List (Note NodeEvent)) : Plugin :=
  { p with notes := p.notes ++ notes }

/-- What the observers of the reader with this number note of an event. -/
def toldReader (p : Plugin) (k : Nat) (event : ReaderEvent) : List (Note NodeEvent) :=
  (p.readerObservers.told event (p.readerObservers.observers k).toList).map (Note.map .reader)

/-- What the observers of the plugin note of an event. -/
def toldPlugin (p : Plugin) (event : PluginEvent) : List (Note NodeEvent) :=
  (p.pluginObservers.told event (p.pluginObservers.observers 0).toList).map (Note.map .plugin)

section Attended

variable {p : Plugin}

theorem raiseReader_of_passive (h : p.readerObservers.Passive) (k : Nat) (event : ReaderEvent) :
    p.raiseReader k event = p.noting (p.toldReader k event) := by
  obtain ⟨hnotes, hrested⟩ := h.notify Audience.registrations k event
  unfold raiseReader
  simp only [hnotes, hrested]
  rfl

theorem raise_of_passive (h : p.pluginObservers.Passive) (event : PluginEvent) :
    p.raise event = p.noting (p.toldPlugin event) := by
  obtain ⟨hnotes, hrested⟩ := h.notify (fun _ _ => p.registry.size) 0 event
  unfold raise
  simp only [hnotes, hrested]
  rfl

end Attended

/-! ## 2. What concerns one reader -/

/-- **All that happened concerns the reader of this name.** No call of any reader got a response. -/
structure Confined (p q : Plugin) (name : String) : Prop where
  readers : ∀ k r, p.reader? k = some r → r.name ≠ name → q.reader? k = some r
  newcomers : ∀ k r, p.reader? k = none → q.reader? k = some r → r.name = name
  /-- the other readers are registered where they were -/
  registered : ∀ k r, p.reader? k = some r → r.name ≠ name →
    ∀ name', q.registry.get? name' = some k ↔ p.registry.get? name' = some k
  registry : ∀ name', name' ≠ name → q.registry.get? name' = p.registry.get? name'
  engines : ∀ k engine, p.engine? k = some engine → q.engine? k = some engine
  /-- who watches the other readers -/
  observers : ∀ k r, p.reader? k = some r → r.name ≠ name →
    q.readerObservers.observers k = p.readerObservers.observers k
  watchers : q.readerObservers.watchers = p.readerObservers.watchers
  pluginObservers : q.pluginObservers = p.pluginObservers
  /-- monitors that the reader does not hold -/
  monitors : ∀ m, (∀ k r, p.reader? k = some r → r.name = name → r.monitor ≠ some m) →
    q.monitor? m = p.monitor? m

section Confined

variable {p q : Plugin} {name native slave : String} {k m : Nat} {r : Reader}

theorem Confined.refl (p : Plugin) (name : String) : Confined p p name where
  readers _ _ hr _ := hr
  newcomers k r hnone hr := by
    rw [hnone] at hr
    cases hr
  registered _ _ _ _ _ := Iff.rfl
  registry _ _ := rfl
  engines _ _ he := he
  observers _ _ _ _ := rfl
  watchers := rfl
  pluginObservers := rfl
  monitors _ _ := rfl

theorem Confined.noting (h : Confined p q name) (notes : List (Note NodeEvent)) :
    Confined p (q.noting notes) name :=
  ⟨h.readers, h.newcomers, h.registered, h.registry, h.engines, h.observers, h.watchers,
    h.pluginObservers, h.monitors⟩

/-- A new reader is the one of its pair. -/
theorem confined_enroll (hfree : p.registry.get? (ReaderName.make native slave) = none)
    (mode : TransmissionMode) (options : Settings) :
    Confined p (p.enroll native slave mode options) (ReaderName.make native slave) where
  readers _ _ hr _ := reader?_enroll_old hr
  newcomers k r hnone hr := by
    rcases reader?_enroll hr with hold | ⟨-, hsession, -⟩
    · rw [hnone] at hold
      cases hold
    · rw [Reader.name, hsession]
      rfl
  registered k r hr _ name' := by
    have hold : k < p.readers.length := (List.getElem?_eq_some_iff.1 hr).1
    rw [get?_enroll]
    split
    · rename_i hname
      rw [hname, hfree]
      refine iff_of_false (fun hnew => ?_) (Option.some_ne_none k).symm
      have hk := Option.some.inj hnew
      omega
    · exact Iff.rfl
  registry name' hne := by rw [get?_enroll, if_neg hne]
  engines k engine he := by
    obtain ⟨r, hr, rfl⟩ := Option.map_eq_some_iff.1 he
    unfold engine?
    rw [reader?_enroll_old hr]
    rfl
  observers k _ _ _ := Audience.observers_addSubject p.readerObservers k
  watchers := rfl
  pluginObservers := rfl
  monitors _ _ := rfl

/-! ### A reader that goes -/

theorem readerObservers_close (p : Plugin) (k : Nat) :
    (p.close k).readerObservers = p.readerObservers := by
  unfold close stopMonitor
  split
  · rfl
  · rfl

theorem monitor?_close (h : ∀ r, p.reader? k = some r → r.monitor ≠ some m) :
    (p.close k).monitor? m = p.monitor? m := by
  have hother : ((p.updateReader k fun r => { r with closed := true }).reader? k).bind (·.monitor) ≠
      some m := by
    intro hheld
    obtain ⟨r', hr', hmonitor⟩ := Option.bind_eq_some_iff.1 hheld
    rw [reader?_updateReader] at hr'
    obtain ⟨r, hr, rfl⟩ := Option.map_eq_some_iff.1 hr'
    exact h r hr (by simpa using hmonitor)
  show ((p.updateReader k fun r => { r with closed := true }).stopMonitor k).2.monitor? m = _
  rw [monitor?_stopMonitor]
  simp only [hother, if_false]
  exact Option.map_id'

theorem observers_unregister_of_ne (h : k ≠ m) (name : String) :
    (p.unregister k name).readerObservers.observers m = p.readerObservers.observers m := by
  show ((p.close k).readerObservers.clear k).observers m = _
  rw [readerObservers_close]
  exact Audience.observers_clear_of_ne p.readerObservers h

/-- A reader that is taken out is the only one that is concerned. -/
theorem confined_unregister (hr : p.reader? k = some r)
    (hk : p.registry.get? r.name = some k) :
    Confined p (p.unregister k r.name) r.name := by
  have hne : ∀ {k' r'}, p.reader? k' = some r' → r'.name ≠ r.name → k ≠ k' := by
    rintro k' r' hr' hname rfl
    rw [hr] at hr'
    exact hname (congrArg Reader.name (Option.some.inj hr').symm)
  refine ⟨fun k' r' hr' hname => ?_, fun k' r' hnone hr' => ?_, fun k' r' hr' hname name' => ?_,
    fun name' hname => ?_, fun k' engine he => ?_, fun k' r' hr' hname => ?_, ?_, (unregister_quiet p k r.name).1,
    fun m hm => ?_⟩
  · rw [reader?_unregister_of_ne (hne hr' hname)]
    exact hr'
  · obtain ⟨r₀, hr₀, -⟩ := reader_of_unregister hr'
    rw [hnone] at hr₀
    cases hr₀
  · rw [get?_unregister]
    split
    · rename_i hname'
      rw [hname', hk]
      refine iff_of_false (Option.some_ne_none k').symm fun heq => ?_
      exact hne hr' hname (Option.some.inj heq)
    · exact Iff.rfl
  · rw [get?_unregister, if_neg hname]
  · rw [engine?_unregister]
    exact he
  · exact observers_unregister_of_ne (hne hr' hname) r.name
  · show ((p.close k).readerObservers.clear k).watchers = _
    rw [readerObservers_close]
    rfl
  · refine monitor?_close fun r' hr' => hm k r' hr' ?_
    rw [hr] at hr'
    exact congrArg Reader.name (Option.some.inj hr').symm

end Confined

/-! ## 3. What a request comes to -/

/-- **What observers are told of a request**, whatever names its body has. -/
inductive Tells (p : Plugin) (e : Envelope) : List (Note NodeEvent) → Prop where
  /-- an event of the reader that is registered for the pair, told at this reader -/
  | reader (sent : ReaderEvent) (k : Nat) (r : Reader)
      (hm : Method.ofName? e.action = some .readerEvent)
      (hbody : ReaderEvent.decoder.ofText e.body = .ok sent)
      (hk : p.registry.get? e.readerName = some k) (hr : p.reader? k = some r)
      (hnative : r.session.native = e.route.nativeReader)
      (hslave : r.session.slave = e.route.requester) :
      Tells p e (p.toldReader k { sent with pluginName := p.name, readerName := r.name })
  /-- an event of the plugin, about readers of the slave that sent the request -/
  | plugin (event : PluginEvent) (hm : Method.ofName? e.action ≠ some .readerEvent)
      (hplugin : event.pluginName = p.name)
      (hnames : ∀ name ∈ event.readerNames,
        ∃ native, name = ReaderName.make native e.route.requester) :
      Tells p e (p.toldPlugin event)

/-- The note is of an event that has the name of this plugin, and names only readers of this slave. -/
def About (plugin slave : String) (note : Note NodeEvent) : Prop :=
  ∃ who event, note = .told who event ∧ event.pluginName = plugin ∧
    ∀ name ∈ event.readerNames, ∃ native, name = ReaderName.make native slave

/-- **What a request comes to**: nobody handles it, or it fails and nothing happens, or it is carried
out for the one reader that it is about, and observers are told. -/
inductive Effect (p : Plugin) (e : Envelope) : Option (Handled × Plugin) → Prop where
  | unhandled : Effect p e none
  | failed (reason : ReaderError) (reply : Option Envelope) :
      Effect p e (some (⟨.error reason, reply⟩, p))
  | done (d : Delivery) (reply : Option Envelope) (q : Plugin) (notes : List (Note NodeEvent))
      (hq : Confined p q e.readerName) (hattended : q.Attended) (hquiet : q.notes = p.notes)
      (hnotes : Tells p e notes) : Effect p e (some (⟨.ok d, reply⟩, q.noting notes))

section Effect

variable {p : Plugin} {e : Envelope} {evs : List Event} {k : Nat}

/-- The reader that is registered for the pair of a request is the reader of this pair. -/
theorem Orderly.pair (hO : Orderly evs p) (hk : p.registry.get? e.readerName = some k) :
    ∃ r, p.reader? k = some r ∧ r.name = e.readerName ∧
      r.session.native = e.route.nativeReader ∧ r.session.slave = e.route.requester := by
  obtain ⟨r, hr, hname⟩ := hO.stored _ k hk
  obtain ⟨hnative, hslave⟩ := ReaderName.make_inj hname
  exact ⟨r, hr, hname, hnative, hslave⟩

theorem effect_readerEvent (hO : Orderly evs p) (hp : p.Attended)
    (hm : Method.ofName? e.action = some .readerEvent) :
    Effect p e (some (p.handleReaderEvent e)) := by
  unfold handleReaderEvent
  cases hbody : ReaderEvent.decoder.ofText e.body with
  | error fault => exact .failed _ _
  | ok sent =>
    unfold findRemote find
    cases hk : p.registry.get? (ReaderName.make e.route.nativeReader e.route.requester) with
    | none => exact .failed _ _
    | some k =>
      obtain ⟨r, hr, hname, hnative, hslave⟩ := hO.pair hk
      simp only
      rw [raiseReader_of_passive hp.readers, ← Envelope.readerName, ← hname]
      exact .done _ _ p _ (.refl p _) hp rfl (.reader sent k r hm hbody hk hr hnative hslave)

theorem effect_pluginEvent (hp : p.Attended) (hm : Method.ofName? e.action = some .pluginEvent) :
    Effect p e (some (p.handlePluginEvent e)) := by
  unfold handlePluginEvent
  cases PluginEvent.decoder.ofText e.body with
  | error fault => exact .failed _ _
  | ok event =>
    simp only
    rw [raise_of_passive hp.plugin]
    refine .done _ _ p _ (.refl p _) hp rfl (.plugin _ (by simp [hm]) rfl fun name hname => ?_)
    obtain ⟨native, -, rfl⟩ := List.mem_map.1 hname
    exact ⟨native, rfl⟩

theorem tells_single (t : PluginEventType) (hm : Method.ofName? e.action ≠ some .readerEvent) :
    Tells p e (p.toldPlugin (.single p.name e.readerName t)) := by
  refine .plugin _ hm rfl fun name hname => ?_
  exact ⟨e.route.nativeReader, List.mem_singleton.1 hname⟩

/-- **Observers are told of readers of this slave alone.** -/
theorem Tells.about {notes : List (Note NodeEvent)} (h : Tells p e notes) :
    ∀ note ∈ notes, About p.name e.route.requester note := by
  intro note hnote
  cases h with
  | reader sent k r hm hbody hk hr hnative hslave =>
    obtain ⟨note', hnote', rfl⟩ := List.mem_map.1 hnote
    obtain ⟨who, rfl⟩ := Audience.mem_told hnote'
    refine ⟨who, _, rfl, rfl, fun name hname => ⟨r.session.native, ?_⟩⟩
    rw [List.mem_singleton.1 hname, ← hslave]
    rfl
  | plugin event hm hplugin hnames =>
    obtain ⟨note', hnote', rfl⟩ := List.mem_map.1 hnote
    obtain ⟨who, rfl⟩ := Audience.mem_told hnote'
    exact ⟨who, _, rfl, hplugin, hnames⟩

/-- **Every request has one of these effects.** -/
theorem effect (hO : Orderly evs p) (hp : p.Attended) (e : Envelope) :
    Effect p e (p.handle e) := by
  have hhandling := p.handling e
  generalize hh : p.handle e = handled at hhandling
  cases hhandling with
  | unknown => exact .unhandled
  | notice verdict q hm =>
    rw [← hh]
    unfold handle
    rcases hm with hm | hm
    · rw [hm]
      exact effect_readerEvent hO hp hm
    · rw [hm]
      exact effect_pluginEvent hp hm
  | refused reason h => exact .failed _ _
  | connected request hm hbody hfree =>
    have hplugin : (p.enroll e.route.nativeReader e.route.requester request.transmissionMode
        request.options).pluginObservers.Passive := hp.plugin
    unfold afterConnect
    rw [raise_of_passive hplugin]
    exact .done _ _ _ _ (confined_enroll hfree _ _) ⟨hp.readers.withLists _, hp.plugin⟩ rfl
      (tells_single _ (by simp [hm]))
  | disconnected k hm hk =>
    obtain ⟨r, hr, hname, -⟩ := hO.pair hk
    obtain ⟨hobservers, hnotes⟩ := unregister_quiet p k e.readerName
    have hplugin : (p.unregister k e.readerName).pluginObservers.Passive := by
      rw [hobservers]
      exact hp.plugin
    have hreaders : (p.unregister k e.readerName).readerObservers.Passive := by
      show ((p.close k).readerObservers.clear k).Passive
      rw [readerObservers_close]
      exact hp.readers.withLists _
    unfold afterDisconnect
    rw [raise_of_passive hplugin, toldPlugin, hobservers]
    refine .done _ _ _ _ ?_ ⟨hreaders, hplugin⟩ hnotes (tells_single _ (by simp [hm]))
    rw [← hname] at hk ⊢
    exact confined_unregister hr hk

end Effect

/-! ## 4. Other slaves -/

/-- **Nothing of other slaves was touched**, and no call of any reader got a response. -/
structure Isolated (p q : Plugin) (slave : String) : Prop where
  /-- readers of other slaves are as they were: not closed, and none of their calls ended -/
  readers : ∀ k r, p.reader? k = some r → r.session.slave ≠ slave → q.reader? k = some r
  newcomers : ∀ k r, p.reader? k = none → q.reader? k = some r → r.session.slave = slave
  /-- readers of other slaves are registered where they were -/
  registered : ∀ k r, p.reader? k = some r → r.session.slave ≠ slave →
    ∀ name, q.registry.get? name = some k ↔ p.registry.get? name = some k
  /-- what is no name of a reader of this slave is registered as it was -/
  registry : ∀ name, (∀ native, name ≠ ReaderName.make native slave) →
    q.registry.get? name = p.registry.get? name
  /-- the calls of all readers wait as they did -/
  engines : ∀ k engine, p.engine? k = some engine → q.engine? k = some engine
  observers : ∀ k r, p.reader? k = some r → r.session.slave ≠ slave →
    q.readerObservers.observers k = p.readerObservers.observers k
  watchers : q.readerObservers.watchers = p.readerObservers.watchers
  pluginObservers : q.pluginObservers = p.pluginObservers
  monitors : ∀ m, (∀ k r, p.reader? k = some r → r.session.slave = slave → r.monitor ≠ some m) →
    q.monitor? m = p.monitor? m

/-- **What concerns one reader concerns one slave**, since no two slaves share a name of a reader. -/
theorem Confined.isolated {p q : Plugin} {native slave : String}
    (h : Confined p q (ReaderName.make native slave)) : Isolated p q slave := by
  have hslave : ∀ r : Reader, r.name = ReaderName.make native slave → r.session.slave = slave :=
    fun _ hname => (ReaderName.make_inj hname).2
  exact {
    readers := fun k r hr hne => h.readers k r hr fun hname => hne (hslave r hname)
    newcomers := fun k r hnone hr => hslave r (h.newcomers k r hnone hr)
    registered := fun k r hr hne => h.registered k r hr fun hname => hne (hslave r hname)
    registry := fun name hname => h.registry name (hname native)
    engines := h.engines
    observers := fun k r hr hne => h.observers k r hr fun hname => hne (hslave r hname)
    watchers := h.watchers
    pluginObservers := h.pluginObservers
    monitors := fun m hm => h.monitors m fun k r hr hname => hm k r hr (hslave r hname) }

end Plugin

namespace Node

open Plugin

/-! ## 5. The main statement -/

section Serve

variable {n m : Node} {e : Envelope} {i : Ingress} {is : List Ingress} {evs : List Plugin.Event}
  {ids : Nat → String} {slave name address : String} {patience limit : Nat}

/-- A request that its handler refused ends in an error, whether that could be replied or not. -/
theorem serve_of_failed {reason : ReaderError} {reply : Option Envelope} {q : Plugin}
    (he : e.isRequest = true) (h : n.plugin.handle e = some (⟨.error reason, reply⟩, q))
    (sender : Sender) :
    (n.serve sender (.envelope e)).result = .error (.handler reason) := by
  cases reply with
  | none =>
    rw [serve_eq (i := .envelope e) (dispatch_of_silent he h)]
    exact close_fst _ _
  | some reply =>
    rw [serve_eq (i := .envelope e) (dispatch_of_replied he h)]
    exact conclude_refused rfl _ _

/-- **What a request of a slave does**, once it was dispatched to its end. -/
structure Requested (p : Plugin) (e : Envelope) (served : Served) : Prop where
  /-- only the reader of its pair is concerned -/
  confined : Confined p served.node.plugin e.readerName
  /-- and so nothing of other slaves -/
  isolated : Isolated p served.node.plugin e.route.requester
  /-- observers still only take note -/
  attended : served.node.plugin.Attended
  /-- they were told of readers of this slave alone, and of nothing if the request failed -/
  told : ∃ notes, served.node.plugin.notes = p.notes ++ notes ∧
    (∀ note ∈ notes, About p.name e.route.requester note) ∧
    (Tells p e notes ∨ notes = [] ∧ ∃ reason, served.result = .error reason)

/-- A request that fails leaves everything as it was. -/
theorem requested_of_failed {p : Plugin} {served : Served} {reason : DispatchError}
    (hp : p.Attended) (hplugin : served.node.plugin = p) (hresult : served.result = .error reason) :
    Requested p e served := by
  obtain rfl := hplugin.symm
  have hconfined := Confined.refl served.node.plugin e.readerName
  exact ⟨hconfined, hconfined.isolated, hp, [], (List.append_nil _).symm,
    fun _ hnote => absurd hnote List.not_mem_nil, .inr ⟨rfl, _, hresult⟩⟩

/-- **Every request concerns one reader of its slave**, in every state and with every sender. -/
theorem requested_serve (hO : Orderly evs n.plugin) (hp : n.plugin.Attended)
    (he : e.isRequest = true) (sender : Sender) :
    Requested n.plugin e (n.serve sender (.envelope e)) := by
  have hplugin : (n.serve sender (.envelope e)).node.plugin =
      ((n.plugin.handle e).map (·.2)).getD n.plugin :=
    (plugin_serve sender (.envelope e) n).trans (plugin_dispatch_of_request he)
  have heffect := effect hO hp e
  generalize hh : n.plugin.handle e = handled at heffect hplugin
  cases heffect with
  | unhandled =>
    have hresult : (n.serve sender (.envelope e)).result = .error (.noHandler e.action) := by
      rw [serve_eq (i := .envelope e) (dispatch_of_unknown he hh)]
      rfl
    exact requested_of_failed hp hplugin hresult
  | failed reason reply => exact requested_of_failed hp hplugin (serve_of_failed he hh sender)
  | done d reply q notes hq hattended hquiet htells =>
    have hserved : (n.serve sender (.envelope e)).node.plugin = q.noting notes := hplugin
    have hconfined : Confined n.plugin (n.serve sender (.envelope e)).node.plugin e.readerName := by
      rw [hserved]
      exact hq.noting notes
    refine ⟨hconfined, hconfined.isolated, ?_, notes, ?_, htells.about, .inl htells⟩
    · rw [hserved]
      exact ⟨hattended.readers, hattended.plugin⟩
    · rw [hserved, ← hquiet]
      rfl

/-- **Slaves do not reach into one another.** Whatever state a node came to, and whatever a request
says: it concerns one reader of the slave that sent it, and observers are told of nothing else. -/
theorem requests_isolated
    (h : Trace LiveStep (Plugin.new ids name address patience limit) evs n.plugin)
    (hp : n.plugin.Attended) (hread : i.read = .ok e) (he : e.isRequest = true)
    (sender : Sender) : Requested n.plugin e (n.serve sender i) := by
  obtain ⟨m, hm, hserve⟩ := serve_of_ingress (n := n) sender hread
  rw [hserve, ← hm]
  rw [← hm] at h hp
  exact requested_serve (orderly_of_live h) hp he sender

end Serve

/-- A slave announces a reader and wants no reply. -/
def arrival (native slave : String) : Envelope :=
  .notification "readerConnect" "" ⟨none, native, "", slave, "M"⟩

/-- Two readers of two slaves, whose names differ only in what is escaped in them. -/
def lookalikes : Node :=
  (((ofConfig .default "M").dispatch (arrival "R-x" "S")).2.dispatch (arrival "R" "x-S")).2

/-- Each of the two readers is watched by an observer. -/
def overseen : Node :=
  lookalikes.withPlugin { lookalikes.plugin with
    readerObservers :=
      ⟨[⟨"first", 0, .record⟩, ⟨"second", 1, .fail ["tired"]⟩], .empty, [⟨[0]⟩, ⟨[1]⟩], [], []⟩ }

/-- An event of the reader of `S`, in whose body there is the name of the reader of `x-S`. -/
def forgery : Envelope :=
  .notification "readerEvent" (ReaderEvent.plain "Other" "remote-R-x\\-S" .inserted).toJson.toText
    ⟨none, "R-x", "", "S", "M"⟩

/-- The observer of the other reader is not told. -/
theorem requests_isolated_forgery :
    (∃ evs, Trace LiveStep (ofConfig .default "M").plugin evs overseen.plugin) ∧
      overseen.plugin.Attended ∧ forgery.isRequest = true ∧
      Requested overseen.plugin forgery (overseen.serve .working (.envelope forgery)) ∧
      (overseen.serve .working (.envelope forgery)).node.plugin.notes =
        [.told "first" (.reader (.plain overseen.plugin.name "remote-R\\-x-S" .inserted))] := by
  have htrace : ∃ evs, Trace LiveStep (ofConfig .default "M").plugin evs overseen.plugin := by
    obtain ⟨ev₁, h₁⟩ := dispatch_step (ofConfig .default "M") (arrival "R-x" "S")
    obtain ⟨ev₂, h₂⟩ := dispatch_step _ (arrival "R" "x-S")
    have h₃ : LiveStep lookalikes.plugin .other overseen.plugin :=
      ⟨.other _ (.of_readers rfl rfl rfl), .of_eq fun _ => rfl⟩
    exact ⟨_, ((Trace.start.snoc _ _ _ _ h₁).snoc _ _ _ _ h₂).snoc _ _ _ _ h₃⟩
  have hattended : overseen.plugin.Attended := by
    refine ⟨⟨fun w hw => ?_, rfl⟩, ⟨fun w hw => absurd hw List.not_mem_nil, rfl⟩⟩
    rcases List.mem_cons.1 hw with rfl | hw
    · trivial
    · obtain rfl := List.mem_singleton.1 hw
      trivial
  obtain ⟨evs, h⟩ := htrace
  exact ⟨⟨evs, h⟩, hattended, rfl, requests_isolated h hattended rfl rfl .working,
    by decide +kernel⟩

/-! ## 6. Any number of requests -/

/-- A request of another slave than this one is dispatched to its end. -/
def Foreign (slave : String) (n : Node) (i : Ingress) (m : Node) : Prop :=
  ∃ e sender, i.read = .ok e ∧ e.isRequest = true ∧ e.route.requester ≠ slave ∧
    m = (n.serve sender i).node

/-- **The readers of a slave are as they were**: the same ones are registered, their calls wait, the
same observers watch them, and nobody was told of them. -/
structure Undisturbed (p q : Plugin) (slave : String) : Prop where
  registry : ∀ native,
    q.registry.get? (ReaderName.make native slave) = p.registry.get? (ReaderName.make native slave)
  readers : ∀ k r, p.reader? k = some r → r.session.slave = slave → q.reader? k = some r
  observers : ∀ k r, p.reader? k = some r → r.session.slave = slave →
    q.readerObservers.observers k = p.readerObservers.observers k
  notes : ∃ notes, q.notes = p.notes ++ notes ∧ ∀ note ∈ notes, ∃ who event,
    note = .told who event ∧ ∀ name ∈ event.readerNames, ∀ native,
      name ≠ ReaderName.make native slave

section Undisturbed

variable {p q q' : Plugin} {slave : String} {n m : Node} {e : Envelope} {is : List Ingress}
  {evs : List Plugin.Event} {ids : Nat → String} {name address : String} {patience limit : Nat}

theorem Undisturbed.refl (p : Plugin) (slave : String) : Undisturbed p p slave where
  registry _ := rfl
  readers _ _ hr _ := hr
  observers _ _ _ _ := rfl
  notes := ⟨[], (List.append_nil _).symm, fun _ hnote => absurd hnote List.not_mem_nil⟩

theorem Undisturbed.trans (h : Undisturbed p q slave) (h' : Undisturbed q q' slave) :
    Undisturbed p q' slave where
  registry native := (h'.registry native).trans (h.registry native)
  readers k r hr hslave := h'.readers k r (h.readers k r hr hslave) hslave
  observers k r hr hslave :=
    (h'.observers k r (h.readers k r hr hslave) hslave).trans (h.observers k r hr hslave)
  notes := by
    obtain ⟨notes, heq, habout⟩ := h.notes
    obtain ⟨notes', heq', habout'⟩ := h'.notes
    refine ⟨notes ++ notes', by rw [heq', heq, List.append_assoc], fun note hnote => ?_⟩
    rcases List.mem_append.1 hnote with hnote | hnote
    · exact habout note hnote
    · exact habout' note hnote

/-- One request of another slave. -/
theorem Requested.undisturbed {p : Plugin} {served : Served} (h : Requested p e served)
    (hne : e.route.requester ≠ slave) : Undisturbed p served.node.plugin slave where
  registry native := by
    refine h.isolated.registry _ fun native' heq => hne ?_
    exact (ReaderName.make_inj heq).2.symm
  readers k r hr hslave := h.isolated.readers k r hr (by rw [hslave]; exact hne.symm)
  observers k r hr hslave := h.isolated.observers k r hr (by rw [hslave]; exact hne.symm)
  notes := by
    obtain ⟨notes, heq, habout, -⟩ := h.told
    refine ⟨notes, heq, fun note hnote => ?_⟩
    obtain ⟨who, event, rfl, -, hnames⟩ := habout note hnote
    refine ⟨who, event, rfl, fun name hname native heq' => ?_⟩
    obtain ⟨native', rfl⟩ := hnames name hname
    exact hne (ReaderName.make_inj heq').2

/-- **A slave notices nothing of the others**, however many requests they send. -/
theorem undisturbed
    (h : Trace LiveStep (Plugin.new ids name address patience limit) evs n.plugin)
    (hp : n.plugin.Attended) (hrun : Trace (Foreign slave) n is m) :
    Undisturbed n.plugin m.plugin slave := by
  -- each request leaves a state that can be reached, in which observers still only take note
  have hall : (∃ evs', Trace LiveStep (Plugin.new ids name address patience limit) evs' m.plugin) ∧
      m.plugin.Attended ∧ Undisturbed n.plugin m.plugin slave := by
    refine hrun.invariant (I := fun _ m =>
      (∃ evs', Trace LiveStep (Plugin.new ids name address patience limit) evs' m.plugin) ∧
        m.plugin.Attended ∧ Undisturbed n.plugin m.plugin slave)
      ⟨⟨evs, h⟩, hp, .refl _ _⟩ fun is m i m' _ hI hs => ?_
    obtain ⟨⟨evs', ht⟩, hattended, hsame⟩ := hI
    obtain ⟨e, sender, hread, he, hne, rfl⟩ := hs
    obtain ⟨l, hl, hserve⟩ := serve_of_ingress (n := m) sender hread
    rw [hserve]
    rw [← hl] at ht hattended hsame
    have hrequested := requested_serve (orderly_of_live ht) hattended he sender
    refine ⟨?_, hrequested.attended, hsame.trans (hrequested.undisturbed hne)⟩
    obtain ⟨ev, hstep⟩ := dispatch_step l e
    refine ⟨_, ht.snoc _ _ ev _ ?_⟩
    rw [plugin_serve]
    exact hstep
  exact hall.2.2

end Undisturbed

end Node

end CardLink
