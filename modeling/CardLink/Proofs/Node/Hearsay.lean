import CardLink.Proofs.Node.Isolation

/-!
# What observers of a reader are told

A text that comes in may carry an event of a reader of a slave. If the reader is registered, its
observers are told of the event, each as often as it is registered; nothing else that comes in tells
them anything. Readers keep their numbers and their observers while they are registered, and a number
is never used again.

* `Envelope.tiding?`, `tiding?`: the event of a reader that an envelope or a text carries.
* `heard`: what the observers of one name noted of one reader.
* `Plugin.Tended`: what holds of the registry and of the observers all the time.
* `Plugin.Proceeds`: readers keep their numbers and their observers, and the observers hear of this
  news.
* `Plugin.Dealt`, `Plugin.dealt`: what becomes of a plugin that handles a request.
* **`Plugin.proceeds_handle`**: the news of a request are those of its tiding.
-/

namespace CardLink

/-! ## 1. Events on their way -/

/-- The event of a reader that an envelope carries. -/
def Envelope.tiding? (native slave : String) (e : Envelope) : Option ReaderEvent :=
  if e.isRequest = true ∧ Method.ofName? e.action = some .readerEvent ∧
      e.route.nativeReader = native ∧ e.route.requester = slave then
    (ReaderEvent.decoder.ofText e.body).toOption
  else none

/-- The event of a reader that a text carries. -/
def tiding? (native slave wire : String) : Option ReaderEvent :=
  (Envelope.ofWire wire).toOption.bind (·.tiding? native slave)

/-- The text carries no event of any reader of the slave. -/
def Silent (slave wire : String) : Prop := ∀ native, tiding? native slave wire = none

section Tidings

variable {native slave wire : String} {e : Envelope}

theorem tiding?_toWire (native slave : String) (e : Envelope) :
    CardLink.tiding? native slave e.toWire = e.tiding? native slave := by
  unfold CardLink.tiding?
  rw [Envelope.ofWire_toWire]
  rfl

theorem silent_of_response (h : e.isRequest = false) : Silent slave e.toWire := by
  intro native
  rw [tiding?_toWire]
  exact if_neg fun hall => by simp [h] at hall

theorem silent_of_action (h : Method.ofName? e.action ≠ some .readerEvent) :
    Silent slave e.toWire := by
  intro native
  rw [tiding?_toWire]
  exact if_neg fun hall => h hall.2.1

/-- The notice of a slave carries its event, and no event of any other reader. -/
theorem tiding?_notice (sl : Slave) (native name : String) (event : ReaderEvent) :
    tiding? name sl.node (sl.notice native event).toWire =
      if native = name then some event else none := by
  have hmethod : Method.ofName? (sl.notice native event).action = some .readerEvent :=
    Method.ofName?_name .readerEvent
  have hread : ReaderEvent.decoder.ofText (sl.notice native event).body = .ok event :=
    ReaderEvent.reads.ofText event event.exact
  rw [tiding?_toWire, Envelope.tiding?, hread]
  by_cases hname : native = name
  · rw [if_pos hname]
    exact if_pos ⟨rfl, hmethod, hname, rfl⟩
  · rw [if_neg hname]
    exact if_neg fun hall => hname hall.2.2.1

end Tidings

/-! ## 2. What is noted -/

/-- What the observers named `who` noted of the reader named `name`. -/
def heard (who name : String) (notes : List (Note NodeEvent)) : List ReaderEvent :=
  notes.filterMap fun
    | .told w (.reader event) => if w = who ∧ event.readerName = name then some event else none
    | _ => none

/-- An event as the observers of a virtual reader get it. -/
def ReaderEvent.passedOn (plugin name : String) (event : ReaderEvent) : ReaderEvent :=
  { event with readerName := name, pluginName := plugin }

namespace Plugin

/-- How often the observers of this name are registered at a reader. -/
def registrations (p : Plugin) (k : Nat) (who : String) : Nat :=
  (p.readerObservers.listeners k).countP (·.name = who)

/-- What the observers named `who` will note of the reader `name` when an event of the reader
`about` comes in. -/
def echo (p : Plugin) (about : String) (event? : Option ReaderEvent) (who name : String) :
    List ReaderEvent :=
  match event?, p.registry.get? about with
  | some event, some k =>
    if about = name then List.replicate (p.registrations k who) (event.passedOn p.name about) else []
  | _, _ => []

end Plugin

section Heard

variable {p : Plugin} {who name : String}

theorem heard_append (ns ns' : List (Note NodeEvent)) :
    heard who name (ns ++ ns') = heard who name ns ++ heard who name ns' :=
  List.filterMap_append

theorem heard_toldReader (k : Nat) (event : ReaderEvent) :
    heard who name (p.toldReader k event) =
      if event.readerName = name then List.replicate (p.registrations k who) event else [] := by
  unfold Plugin.toldReader Plugin.registrations
  rw [Audience.told_observers, List.map_map]
  induction p.readerObservers.listeners k with
  | nil => simp [heard]
  | cons w ws ih =>
    rw [List.map_cons, ← List.singleton_append, heard_append, ih]
    by_cases hname : event.readerName = name
    · by_cases hwho : w.name = who
      · simp [heard, Note.map, hname, hwho, List.replicate_succ]
      · simp [heard, Note.map, hname, hwho]
    · simp [heard, Note.map, hname]

theorem heard_toldPlugin (event : PluginEvent) : heard who name (p.toldPlugin event) = [] := by
  unfold heard
  rw [List.filterMap_eq_nil_iff]
  intro n hn
  obtain ⟨m, hm, rfl⟩ := List.mem_map.1 hn
  obtain ⟨w, rfl⟩ := Audience.mem_told hm
  rfl

end Heard

namespace Plugin

/-! ## 3. How a plugin proceeds -/

/-- **What holds all the time**: the registry is in order, and observers only take note. -/
structure Tended (p : Plugin) : Prop where
  orderly : ∃ evs, Orderly evs p
  attended : p.Attended

/-- **Readers keep their numbers**, and those that are `kept` keep their observers; the observers of
readers are told what `news` says, for each name of observers and of readers. -/
structure Proceeds (kept : Nat → Prop) (p q : Plugin)
    (news : String → String → List ReaderEvent) : Prop where
  name : q.name = p.name
  numbers : p.readers.length ≤ q.readers.length
  /-- no number is used again -/
  registered : ∀ name k, q.registry.get? name = some k → k < p.readers.length →
    p.registry.get? name = some k
  listeners : ∀ name k, kept k → q.registry.get? name = some k → k < p.readers.length →
    q.readerObservers.listeners k = p.readerObservers.listeners k
  tended : q.Tended
  heard : ∀ who name, heard who name q.notes = heard who name p.notes ++ news who name

/-- Observers of readers are told nothing. -/
def noNews : String → String → List ReaderEvent := fun _ _ => []

/-- **Nothing was done that observers could take note of**, nor to the registry. -/
structure Still (p q : Plugin) : Prop extends Apart p q where
  name : q.name = p.name
  readerObservers : q.readerObservers = p.readerObservers
  pluginObservers : q.pluginObservers = p.pluginObservers
  notes : q.notes = p.notes

section Proceeds

variable {kept : Nat → Prop} {p q r : Plugin} {news : String → String → List ReaderEvent}
  {name : String} {k : Nat}

theorem Still.refl (p : Plugin) : Still p p := ⟨.of_readers rfl rfl rfl, rfl, rfl, rfl, rfl⟩

theorem Still.trans (h : Still p q) (h' : Still q r) : Still p r where
  registry := h'.registry.trans h.registry
  sessions := h'.sessions.trans h.sessions
  readers := h'.readers.trans h.readers
  name := h'.name.trans h.name
  readerObservers := h'.readerObservers.trans h.readerObservers
  pluginObservers := h'.pluginObservers.trans h.pluginObservers
  notes := h'.notes.trans h.notes

/-- A registered reader has one of the numbers that were given out. -/
theorem Tended.number_lt (h : Tended p) (hk : p.registry.get? name = some k) :
    k < p.readers.length := by
  obtain ⟨evs, hO⟩ := h.orderly
  obtain ⟨reader, hreader, -⟩ := hO.stored name k hk
  exact (List.getElem?_eq_some_iff.1 hreader).1

theorem Tended.still (h : Tended p) (hs : Still p q) : Tended q where
  orderly := by
    obtain ⟨evs, hO⟩ := h.orderly
    exact ⟨evs, hO.apart hs.toApart⟩
  attended :=
    ⟨by rw [hs.readerObservers]; exact h.attended.readers,
      by rw [hs.pluginObservers]; exact h.attended.plugin⟩

theorem Still.proceeds (hs : Still p q) (h : Tended p) : Proceeds kept p q noNews where
  name := hs.name
  numbers := by
    have hlength := congrArg List.length hs.readers
    rw [List.length_map, List.length_map] at hlength
    omega
  registered name k hk _ := by
    rw [← hs.registry]
    exact hk
  listeners _ _ _ _ _ := by rw [hs.readerObservers]
  tended := h.still hs
  heard who name := by rw [hs.notes, noNews, List.append_nil]

/-- Nothing more is told. -/
theorem Proceeds.trans (h : Proceeds kept p q news) (h' : Proceeds kept q r noNews) :
    Proceeds kept p r news where
  name := h'.name.trans h.name
  numbers := Nat.le_trans h.numbers h'.numbers
  registered name k hk hlt :=
    h.registered name k (h'.registered name k hk (Nat.lt_of_lt_of_le hlt h.numbers)) hlt
  listeners name k hkept hk hlt := by
    have hlt' := Nat.lt_of_lt_of_le hlt h.numbers
    rw [h'.listeners name k hkept hk hlt',
      h.listeners name k hkept (h'.registered name k hk hlt') hlt]
  tended := h'.tended
  heard who name := by rw [h'.heard, h.heard, noNews, List.append_nil]

/-- Observers take note, and that is all. -/
theorem proceeds_noting (h : Tended p) {notes : List (Note NodeEvent)}
    (hnotes : ∀ who name, CardLink.heard who name notes = news who name) :
    Proceeds kept p (p.noting notes) news where
  name := rfl
  numbers := Nat.le_refl _
  registered _ _ hk _ := hk
  listeners _ _ _ _ _ := rfl
  tended := by
    obtain ⟨evs, hO⟩ := h.orderly
    exact ⟨⟨evs, hO.apart (.of_readers rfl rfl rfl)⟩, h.attended.readers, h.attended.plugin⟩
  heard who name := by
    show CardLink.heard who name (p.notes ++ notes) = _
    rw [heard_append, hnotes]

/-- The observers of the plugin are told, and those of readers are not. -/
theorem proceeds_raise (h : Tended p) (event : PluginEvent) :
    Proceeds kept p (p.raise event) noNews := by
  rw [raise_of_passive h.attended.plugin]
  exact proceeds_noting h fun _ _ => heard_toldPlugin event

variable {native slave : String}

/-- A new reader has a number of its own. -/
theorem proceeds_enroll (kept : Nat → Prop) (h : Tended p)
    (hfree : p.registry.get? (ReaderName.make native slave) = none) (mode : TransmissionMode)
    (options : Settings) : Proceeds kept p (p.enroll native slave mode options) noNews where
  name := rfl
  numbers := by
    show _ ≤ (p.readers ++ [_]).length
    rw [List.length_append]
    omega
  registered name k hk hlt := by
    rw [get?_enroll] at hk
    split at hk
    · have heq := Option.some.inj hk
      omega
    · exact hk
  listeners name k _ _ _ := by
    unfold Audience.listeners
    rw [show (p.enroll native slave mode options).readerObservers.observers k = _ from
      Audience.observers_addSubject p.readerObservers k]
    rfl
  tended := by
    obtain ⟨evs, hO⟩ := h.orderly
    exact ⟨⟨_, hO.enroll hfree⟩, h.attended.readers.withLists _, h.attended.plugin⟩
  heard _ _ := (List.append_nil _).symm

/-- A reader that goes takes its own observers along. -/
theorem proceeds_unregister (kept : Nat → Prop) (h : Tended p)
    (hk : p.registry.get? (ReaderName.make native slave) = some k) :
    Proceeds kept p (p.unregister k (ReaderName.make native slave)) noNews := by
  obtain ⟨hobservers, hnotes⟩ := unregister_quiet p k (ReaderName.make native slave)
  obtain ⟨evs, hO⟩ := h.orderly
  have hget := get?_unregister p k (ReaderName.make native slave)
  have hwatchers : (p.unregister k (ReaderName.make native slave)).readerObservers =
      p.readerObservers.clear k := by
    show (p.close k).readerObservers.clear k = _
    rw [readerObservers_close]
  refine ⟨?_, ?_, fun name m hm _ => ?_, fun name m _ hm _ => ?_, ⟨?_, ?_, ?_⟩, fun who name => ?_⟩
  · unfold unregister close stopMonitor
    split
    · rfl
    · rfl
  · have hlength := congrArg List.length (sessions_unregister p k (ReaderName.make native slave))
    rw [List.length_map, List.length_map] at hlength
    omega
  · rw [hget] at hm
    split at hm
    · cases hm
    · exact hm
  · -- a reader under another name has another number
    have hne : k ≠ m := by
      rintro rfl
      rw [hget] at hm
      split at hm
      · cases hm
      · rename_i hname
        obtain ⟨reader, hreader, rfl⟩ := hO.stored name k hm
        obtain ⟨reader', hreader', hname'⟩ := hO.stored _ k hk
        rw [hreader] at hreader'
        exact hname (by rw [Option.some.inj hreader', hname'])
    rw [hwatchers]
    unfold Audience.listeners
    rw [Audience.observers_clear_of_ne p.readerObservers hne]
    rfl
  · exact ⟨evs ++ [.removed native slave (.ok k)], hO.unregister hk rfl rfl⟩
  · rw [hwatchers]
    exact h.attended.readers.withLists _
  · rw [hobservers]
    exact h.attended.plugin
  · rw [hnotes, noNews, List.append_nil]

/-- **The application gives a reader up.** -/
theorem proceeds_disconnect (kept : Nat → Prop) (h : Tended p) (native slave : String) :
    Proceeds kept p (p.after (p.disconnect native slave)) noNews := by
  unfold disconnect
  rcases p.remove_cases native slave with ⟨-, heq⟩ | ⟨k, hk, heq⟩
  · rw [heq]
    exact (Still.refl p).proceeds h
  · rw [heq]
    have hgone := proceeds_unregister kept h hk
    exact hgone.trans (proceeds_raise hgone.tended _)

end Proceeds

/-! ## 4. What becomes of a request -/

/-- **What becomes of a plugin that handles a request.** -/
inductive Dealt (p : Plugin) (e : Envelope) : Plugin → Prop where
  | same (h : ∀ event k, Method.ofName? e.action = some .readerEvent →
      ReaderEvent.decoder.ofText e.body = .ok event → p.registry.get? e.readerName ≠ some k) :
      Dealt p e p
  | told (event : ReaderEvent) (k : Nat) (hm : Method.ofName? e.action = some .readerEvent)
      (hbody : ReaderEvent.decoder.ofText e.body = .ok event)
      (hk : p.registry.get? e.readerName = some k) :
      Dealt p e (p.raiseReader k (event.passedOn p.name e.readerName))
  | announced (event : PluginEvent) (hm : Method.ofName? e.action ≠ some .readerEvent) :
      Dealt p e (p.raise event)
  | connected (request : ConnectRequest) (hm : Method.ofName? e.action ≠ some .readerEvent)
      (hfree : p.registry.get? e.readerName = none) : Dealt p e (p.afterConnect e request)
  | disconnected (k : Nat) (hm : Method.ofName? e.action ≠ some .readerEvent)
      (hk : p.registry.get? e.readerName = some k) : Dealt p e (p.afterDisconnect e k)

section Dealt

variable {kept : Nat → Prop} {p q : Plugin} {e : Envelope} {handled : Handled}

theorem dealt_readerEvent (hm : Method.ofName? e.action = some .readerEvent) :
    Dealt p e (p.handleReaderEvent e).2 := by
  unfold handleReaderEvent
  cases hbody : ReaderEvent.decoder.ofText e.body with
  | error fault =>
    refine .same fun event k _ hbody' => ?_
    rw [hbody] at hbody'
    cases hbody'
  | ok event =>
    unfold findRemote find
    cases hk : p.registry.get? (ReaderName.make e.route.nativeReader e.route.requester) with
    | none =>
      refine .same fun event k _ _ hk' => ?_
      rw [Envelope.readerName, hk] at hk'
      cases hk'
    | some k => exact .told event k hm hbody hk

theorem dealt_pluginEvent (hm : Method.ofName? e.action = some .pluginEvent) :
    Dealt p e (p.handlePluginEvent e).2 := by
  unfold handlePluginEvent
  cases PluginEvent.decoder.ofText e.body with
  | error fault => exact .same fun event k hm' => by simp [hm] at hm'
  | ok event => exact .announced _ (by simp [hm])

theorem dealt (h : p.handle e = some (handled, q)) : Dealt p e q := by
  have hhandling := p.handling e
  rw [h] at hhandling
  cases hhandling with
  | notice verdict _ hm =>
    unfold handle at h
    rcases hm with hm | hm
    · simp only [hm, Option.some.injEq] at h
      have hevent := dealt_readerEvent (p := p) hm
      rw [h] at hevent
      exact hevent
    · simp only [hm, Option.some.injEq] at h
      have hevent := dealt_pluginEvent (p := p) hm
      rw [h] at hevent
      exact hevent
  | refused reason why =>
    refine .same fun event k hm => ?_
    cases why with
    | unreadable fault hm' => simp [hm'] at hm
    | taken request k' hm' => simp [hm'] at hm
    | missing hm' => simp [hm'] at hm
  | connected request hm _ hfree => exact .connected request (by simp [hm]) hfree
  | disconnected k hm hk => exact .disconnected k (by simp [hm]) hk

/-- A request that carries no event of a reader has no echo. -/
theorem echo_of_silent {slave who native : String} (about : String)
    (h : Method.ofName? e.action ≠ some .readerEvent) :
    p.echo about (e.tiding? native slave) who = fun _ => [] := by
  have hnone : e.tiding? native slave = none := if_neg fun hall => h hall.2.1
  rw [hnone]
  rfl

/-- **The news of a request are those of its tiding.** -/
theorem proceeds_handle (h : Tended p) (he : e.isRequest = true)
    (hq : p.handle e = some (handled, q)) :
    Proceeds kept p q
      (p.echo e.readerName (e.tiding? e.route.nativeReader e.route.requester)) := by
  cases dealt hq with
  | same hnot =>
    have hecho : p.echo e.readerName (e.tiding? e.route.nativeReader e.route.requester) =
        noNews := by
      funext who name
      unfold echo Envelope.tiding?
      split
      · rename_i event k hevent hk
        split at hevent
        · rename_i hall
          cases hbody : ReaderEvent.decoder.ofText e.body with
          | error fault => simp [hbody, Except.toOption] at hevent
          | ok event' => exact absurd hk (hnot event' k hall.2.1 hbody)
        · cases hevent
      · rfl
    rw [hecho]
    exact (Still.refl p).proceeds h
  | told event k hm hbody hk =>
    rw [raiseReader_of_passive h.attended.readers]
    refine proceeds_noting h fun who name => ?_
    have htiding : e.tiding? e.route.nativeReader e.route.requester = some event := by
      unfold Envelope.tiding?
      rw [if_pos ⟨he, hm, rfl, rfl⟩, hbody]
      rfl
    unfold echo
    rw [heard_toldReader, htiding, hk]
    rfl
  | announced event hm =>
    rw [show p.echo e.readerName _ = noNews from funext fun who => echo_of_silent _ hm]
    exact proceeds_raise h event
  | connected request hm hfree =>
    rw [show p.echo e.readerName _ = noNews from funext fun who => echo_of_silent _ hm]
    have hnew := proceeds_enroll kept h hfree request.transmissionMode request.options
    exact hnew.trans (proceeds_raise hnew.tended _)
  | disconnected k hm hk =>
    rw [show p.echo e.readerName _ = noNews from funext fun who => echo_of_silent _ hm]
    have hgone := proceeds_unregister kept h hk
    exact hgone.trans (proceeds_raise hgone.tended _)

end Dealt

end Plugin

end CardLink
