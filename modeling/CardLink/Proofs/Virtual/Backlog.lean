import CardLink.Proofs.Card.Bodies
import CardLink.Proofs.Network.Turns

/-!
# Notices on their way to the master

A slave sends its notices without waiting, so that some may lie in the queue of the master when a
call begins. The master takes them first, in their order, and passes them on to the observers.

* `Notice`, `Plugin.hear`: a notice, and what the master does with it.
* `Plugin.handle_notice`: a notice is heard, and not replied to.
* **`leads_backlog`**: the master takes all notices before anybody else goes on.
* `leads_cleared`, `leads_flush`: its queue is empty then, with calls under way or without.
-/

namespace CardLink

open Network

/-! ## 1. Notices -/

/-- A notice of a slave about one of its readers. -/
structure Notice where
  sessionId : Option String
  native : String
  event : ReaderEvent

namespace Notice

/-- The envelope that carries a notice. -/
def envelope (master station : String) (x : Notice) : Envelope :=
  .notification Method.readerEvent.name x.event.toJson.toText
    ⟨x.sessionId, x.native, "", station, master⟩

def wire (master station : String) (x : Notice) : String := (x.envelope master station).toWire

/-- What the observers are told. -/
def told (plugin station : String) (x : Notice) : ReaderEvent :=
  { x.event with readerName := ReaderName.make x.native station, pluginName := plugin }

end Notice

namespace Plugin

/-- The plugin after a notice: the observers of the reader are told, if it is registered. -/
def hear (station : String) (p : Plugin) (x : Notice) : Plugin :=
  match p.findRemote x.native station with
  | .error _ => p
  | .ok r => p.raiseReader r (x.told p.name station)

section Hear

variable {station : String} {p : Plugin} {x : Notice}

theorem hear_registered {r : Nat}
    (h : p.registry.get? (ReaderName.make x.native station) = some r) :
    p.hear station x = p.raiseReader r (x.told p.name station) := by
  simp [hear, findRemote, find, h]

/-- **A notice is heard**, and not replied to. -/
theorem handle_notice (master station : String) (p : Plugin) (x : Notice) :
    ∃ v, p.handle (x.envelope master station) = some (⟨v, none⟩, p.hear station x) := by
  have hread : ReaderEvent.decoder.ofText x.event.toJson.toText = .ok x.event :=
    ReaderEvent.reads.ofText x.event x.event.exact
  have hmethod : Method.ofName? (x.envelope master station).action = some .readerEvent :=
    Method.ofName?_name .readerEvent
  have hbody : (x.envelope master station).body = x.event.toJson.toText := rfl
  have hnative : (x.envelope master station).route.nativeReader = x.native := rfl
  have hrequester : (x.envelope master station).route.requester = station := rfl
  simp only [handle, hmethod, handleReaderEvent, hbody, hread, hnative, hrequester, hear,
    Notice.told]
  cases p.findRemote x.native station with
  | error reason => exact ⟨_, rfl⟩
  | ok r => exact ⟨_, rfl⟩

/-- A notice leaves all readers as they are. -/
theorem hear_withReaders (readers : List Reader) :
    hear station { p with readers := readers } x = { p.hear station x with readers := readers } := by
  have hfind : findRemote { p with readers := readers } x.native station =
      p.findRemote x.native station := rfl
  unfold hear
  rw [hfind]
  cases p.findRemote x.native station with
  | error reason => rfl
  | ok r => rfl

/-- A notice concerns the observers only. -/
theorem hear_eq (station : String) (p : Plugin) (x : Notice) : ∃ observers notes,
    p.hear station x = { p with readerObservers := observers, notes := notes } := by
  unfold hear
  cases p.findRemote x.native station with
  | error reason => exact ⟨_, _, rfl⟩
  | ok r => exact ⟨_, _, rfl⟩

theorem readers_hear : (p.hear station x).readers = p.readers := by
  obtain ⟨observers, notes, h⟩ := hear_eq station p x
  rw [h]

end Hear

/-- The plugin after some notices. -/
def hearAll (station : String) (p : Plugin) (xs : List Notice) : Plugin :=
  xs.foldl (hear station) p

/-- Notices concern the observers only. -/
theorem hearAll_eq (station : String) (p : Plugin) (xs : List Notice) : ∃ observers notes,
    p.hearAll station xs = { p with readerObservers := observers, notes := notes } := by
  induction xs generalizing p with
  | nil => exact ⟨_, _, rfl⟩
  | cons x xs ih =>
    obtain ⟨observers, notes, hx⟩ := hear_eq station p x
    obtain ⟨observers', notes', hxs⟩ := ih (p := p.hear station x)
    refine ⟨observers', notes', ?_⟩
    show (p.hear station x).hearAll station xs = _
    rw [hxs, hx]

theorem readers_hearAll {station : String} {p : Plugin} (xs : List Notice) :
    (p.hearAll station xs).readers = p.readers := by
  obtain ⟨observers, notes, h⟩ := hearAll_eq station p xs
  rw [h]

theorem registry_hearAll {station : String} {p : Plugin} (xs : List Notice) :
    (p.hearAll station xs).registry = p.registry := by
  obtain ⟨observers, notes, h⟩ := hearAll_eq station p xs
  rw [h]

theorem hearAll_withReaders {station : String} {p : Plugin} (readers : List Reader)
    (xs : List Notice) :
    hearAll station { p with readers := readers } xs =
      { p.hearAll station xs with readers := readers } := by
  induction xs generalizing p with
  | nil => rfl
  | cons x xs ih =>
    show hearAll station (hear station { p with readers := readers } x) xs = _
    rw [hear_withReaders, ih]
    rfl

/-- Notices and changes of a reader do not get in each other's way. -/
theorem hearAll_updateReader {station : String} {p : Plugin} (r : Nat)
    (f : Reader → Reader) (xs : List Notice) :
    (p.updateReader r f).hearAll station xs =
      (p.hearAll station xs).updateReader r f := by
  unfold updateReader
  rw [hearAll_withReaders, readers_hearAll]

end Plugin

/-! ## 2. The backlog -/

namespace Scene

/-- The tasks beside the receivers are calls that wait. -/
def Waiting (s : Scene) : Prop :=
  ∀ t ∈ s.others, ∃ ticket p, t.job = .call ticket p ∧ s.hasMail ticket = false

variable {s : Scene}

theorem Waiting.plain (h : s.Waiting) : s.Plain := by
  intro t ht
  obtain ⟨ticket, p, hjob, -⟩ := h t ht
  exact .inl ⟨ticket, p, hjob⟩

theorem Waiting.awake (h : s.Waiting) :
    s.awake = joined (!s.toSlave.isEmpty) 1 (joined (!s.toMaster.isEmpty) 0 s.ready) := by
  have hcannot : ∀ t ∈ s.others, s.canGoOn t = false := by
    intro t ht
    obtain ⟨ticket, p, hjob, hmail⟩ := h t ht
    unfold canGoOn
    rw [hjob]
    exact hmail
  have hfold : ∀ (ts : List (Task Job)) (ready : List Nat), (∀ t ∈ ts, s.canGoOn t = false) →
      ts.foldl (fun ready t => joined (s.canGoOn t) t.id ready) ready = ready := by
    intro ts
    induction ts with
    | nil => intro ready _; rfl
    | cons t ts ih =>
      intro ready hts
      rw [List.foldl_cons, hts t List.mem_cons_self, joined_false]
      exact ih ready fun u hu => hts u (List.mem_cons_of_mem t hu)
  exact hfold s.others _ hcannot

/-- While the receiver of the master is first, and that of the slave awake if need be, nobody joins
the queue. -/
theorem Waiting.awake_first (h : s.Waiting) {rest : List Nat} (hready : s.ready = 0 :: rest)
    (h1 : s.toSlave ≠ [] → 1 ∈ rest) : s.awake = 0 :: rest := by
  rw [h.awake, hready, joined_mem List.mem_cons_self]
  cases hslave : s.toSlave with
  | nil => exact joined_false 1 _
  | cons w ws => exact joined_mem (List.mem_cons_of_mem 0 (h1 (by simp [hslave])))

/-- The calls wait on when the master has taken a notice. -/
theorem Waiting.hear (h : s.Waiting) {station : String} (x : Notice) (ready : List Nat)
    (texts : List String) :
    Waiting { s with
      ready := ready, toMaster := texts, plugin := s.plugin.hear station x } := by
  intro t ht
  obtain ⟨ticket, p, hjob, hmail⟩ := h t ht
  refine ⟨ticket, p, hjob, ?_⟩
  have hengine : Scene.engine? { s with
      ready := ready, toMaster := texts, plugin := s.plugin.hear station x } ticket.caller =
      s.engine? ticket.caller := by
    cases ticket.caller with
    | reader r =>
      show ((s.plugin.hear station x).readers[r]?).map _ = (s.plugin.readers[r]?).map _
      rw [Plugin.readers_hear]
    | client => rfl
    | slave j => rfl
  rw [← hmail]
  unfold hasMail Scene.call?
  rw [hengine]

end Scene

section Backlog

variable {master station : String} {rest : List Nat}

theorem leads_notice {s : Scene} (hne : master ≠ station) (hwaiting : s.Waiting)
    (hawake : s.awake = 0 :: rest) (h0 : 0 ∉ rest) {x : Notice}
    {texts : List String} (htexts : s.toMaster = x.wire master station :: texts) :
    Leads master station 1 s { s with
      plugin := s.plugin.hear station x
      toMaster := texts
      ready := 0 :: rest } := by
  have hrest : rest.filter (· != 0) = rest := by
    rw [List.filter_eq_self]
    intro k hk
    have hk0 : k ≠ 0 := fun h => h0 (h ▸ hk)
    simpa using hk0
  have hleads := leads_text_to_master (t := { s with
    plugin := s.plugin.hear station x, toMaster := texts, ready := rest })
    hne hwaiting.plain hawake htexts fun b => by
      obtain ⟨v, hv⟩ := Plugin.handle_notice master station s.plugin x
      exact masterReceives_handled master station b _ rfl hv
  rw [← hrest]
  exact hleads

/-- **The master takes all notices before anybody else goes on.** -/
theorem leads_backlog (hne : master ≠ station) (h0 : 0 ∉ rest) (xs : List Notice)
    (texts : List String) :
    ∀ s : Scene, s.Waiting → s.ready = 0 :: rest → (s.toSlave ≠ [] → 1 ∈ rest) →
      s.toMaster = xs.map (·.wire master station) ++ texts →
      Leads master station xs.length s { s with
        plugin := s.plugin.hearAll station xs
        toMaster := texts
        ready := 0 :: rest } := by
  induction xs with
  | nil =>
    intro s _ hready _ htexts
    have hsame : { s with
        plugin := s.plugin.hearAll station [], toMaster := texts, ready := 0 :: rest } = s := by
      rw [← hready, show texts = s.toMaster from htexts.symm]
      rfl
    rw [hsame]
    exact Leads.refl s
  | cons x xs ih =>
    intro s hwaiting hready h1 htexts
    have hfirst := leads_notice hne hwaiting (hwaiting.awake_first hready h1) h0 htexts
    have hothers := ih { s with
        plugin := s.plugin.hear station x
        toMaster := xs.map (·.wire master station) ++ texts
        ready := 0 :: rest } (hwaiting.hear x (0 :: rest) _) rfl h1 rfl
    rw [List.length_cons, Nat.add_comm]
    exact hfirst.trans hothers

theorem Scene.Waiting.hearAll {station : String} (xs : List Notice) (ready : List Nat)
    (texts : List String) {s : Scene} (h : s.Waiting) :
    Scene.Waiting { s with
      ready := ready, toMaster := texts, plugin := s.plugin.hearAll station xs } := by
  induction xs generalizing s with
  | nil => exact h
  | cons x xs ih => exact ih (h.hear x ready texts)

/-- The queue of the master is empty in the end, and its receiver waits. -/
theorem leads_cleared {s : Scene} (hne : master ≠ station) (hwaiting : s.Waiting)
    (hready : s.ready = 0 :: rest) (h0 : 0 ∉ rest) (h1 : s.toSlave ≠ [] → 1 ∈ rest)
    {xs : List Notice} (htexts : s.toMaster = xs.map (·.wire master station)) :
    Leads master station (xs.length + 1) s { s with
      plugin := s.plugin.hearAll station xs
      toMaster := []
      ready := rest } := by
  have hbacklog := leads_backlog hne h0 xs [] s hwaiting hready h1 (by rw [htexts, List.append_nil])
  have hwaiting' : Scene.Waiting { s with
      plugin := s.plugin.hearAll station xs, toMaster := [], ready := 0 :: rest } :=
    hwaiting.hearAll xs (0 :: rest) []
  have hawake := hwaiting'.awake_first rfl h1
  exact hbacklog.trans (leads_master_idle hne hwaiting'.plain hawake rfl)

/-- **When nothing else is under way** the master takes all notices, and the network is as before. -/
theorem leads_flush {s : Scene} (hne : master ≠ station) (h : s.Calm) {xs : List Notice}
    (htexts : s.toMaster = xs.map (·.wire master station)) :
    Leads master station (xs.length + 1) s
      { s with plugin := s.plugin.hearAll station xs, toMaster := [] } := by
  cases xs with
  | nil =>
    have hsame : { s with plugin := s.plugin.hearAll station [], toMaster := [] } = s := by
      rw [show ([] : List String) = s.toMaster from htexts.symm]
      rfl
    rw [hsame]
    exact (Leads.refl s).mono (Nat.zero_le _)
  | cons x xs =>
    have hwaiting : s.Waiting := by
      intro t ht
      rw [h.others] at ht
      exact absurd ht List.not_mem_nil
    have hawake : s.awake = 0 :: [] := by
      rw [hwaiting.awake, h.toSlave, h.ready, htexts]
      rfl
    have hfirst := leads_notice hne hwaiting hawake List.not_mem_nil htexts
    have hothers := leads_cleared (s := { s with
        plugin := s.plugin.hear station x
        toMaster := xs.map (·.wire master station)
        ready := [0] }) hne (hwaiting.hear x [0] _) rfl List.not_mem_nil
      (fun hslave => absurd h.toSlave hslave) rfl
    have hscene : { s with plugin := s.plugin.hearAll station (x :: xs), toMaster := [] } =
        { s with
          plugin := (s.plugin.hear station x).hearAll station xs
          toMaster := []
          ready := [] } := by
      rw [← h.ready]
      rfl
    rw [hscene, List.length_cons, Nat.add_right_comm, Nat.add_comm (xs.length + 1) 1]
    exact hfirst.trans hothers

end Backlog

end CardLink
