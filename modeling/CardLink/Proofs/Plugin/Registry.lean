import CardLink.Plugin
import CardLink.Proofs.Names
import CardLink.Proofs.Trace

/-!
# What is done to the registry of readers

Readers are created and removed, by the slave or by the application, in any order and for any pairs.
Between two such operations everything else may happen that a plugin does: observers come and go and
are told of events, calls run, monitors are started and stopped. None of that touches the registry,
the sessions, or whether a reader is closed.

* `Plugin.create_cases`, `Plugin.remove_cases`: what the operations do, each in full.
* `Plugin.Apart`: what everything else leaves alone.
* `Plugin.Step`: one step; `Plugin.Announced`: what the observers are told in it.
-/

namespace CardLink

/-- What a reader keeps, or loses only for good. -/
def Reader.standing (r : Reader) : Session × Bool := (r.session, r.closed)

namespace Plugin

/-! ## 1. The operations -/

/-- The session of the next reader. -/
def nextSession (p : Plugin) (native slave : String) : Session :=
  (p.sessions.create native slave p.address).1

/-- The plugin with a reader for a new session, before anybody is told. -/
def enroll (p : Plugin) (native slave : String) (mode : TransmissionMode) (options : Settings) :
    Plugin :=
  { p with sessions := (p.sessions.create native slave p.address).2 }.register
    (p.nextSession native slave) mode options

section Operations

variable (p : Plugin) (native slave : String)

theorem create_cases (mode : TransmissionMode) (options : Settings) :
    (∃ n, p.registry.get? (ReaderName.make native slave) = some n ∧
      p.create native slave mode options = .error (.duplicateReader native slave)) ∨
    (p.registry.get? (ReaderName.make native slave) = none ∧
      p.create native slave mode options = .ok (p.nextSession native slave,
        (p.enroll native slave mode options).raise
          (.single p.name (ReaderName.make native slave) .readerConnected))) := by
  unfold create
  cases hget : p.registry.get? (ReaderName.make native slave) with
  | none =>
    have hfree : p.registry.contains (ReaderName.make native slave) = false := by
      simp [Table.contains, hget]
    exact .inr ⟨rfl, by simp [hfree, enroll, nextSession]⟩
  | some n =>
    have htaken : p.registry.contains (ReaderName.make native slave) = true := by
      simp [Table.contains, hget]
    exact .inl ⟨n, rfl, by simp [htaken]⟩

theorem remove_cases :
    (p.registry.get? (ReaderName.make native slave) = none ∧
      p.remove native slave = .error (.notFound (ReaderName.make native slave))) ∨
    (∃ n, p.registry.get? (ReaderName.make native slave) = some n ∧
      p.remove native slave = .ok (n, (p.unregister n (ReaderName.make native slave)).raise
        (.single p.name (ReaderName.make native slave) .readerDisconnected))) := by
  unfold remove find
  cases hget : p.registry.get? (ReaderName.make native slave) with
  | none => exact .inl ⟨rfl, by simp [hget]⟩
  | some n => exact .inr ⟨n, rfl, by simp [hget]⟩

/-- The application finds the readers that are registered. -/
theorem findRemote_eq_ok {n : Nat} :
    p.findRemote native slave = .ok n ↔ p.registry.get? (ReaderName.make native slave) = some n := by
  unfold findRemote find
  cases p.registry.get? (ReaderName.make native slave) with
  | none => simp
  | some m => simp

/-! ### A new reader -/

/-- The reader that is created. -/
def newcomer (mode : TransmissionMode) (options : Settings) : Reader :=
  .new p.name (p.nextSession native slave) (.new p.patience p.limit) mode options

theorem get?_enroll (mode : TransmissionMode) (options : Settings) (name : String) :
    (p.enroll native slave mode options).registry.get? name =
      if name = ReaderName.make native slave then some p.readers.length
      else p.registry.get? name :=
  Table.get?_insert _ _ _ _

theorem reader?_enroll_new (mode : TransmissionMode) (options : Settings) :
    (p.enroll native slave mode options).reader? p.readers.length =
      some (p.newcomer native slave mode options) :=
  List.getElem?_concat_length

variable {p native slave} {mode : TransmissionMode} {options : Settings} {n : Nat} {r : Reader}

theorem size_enroll (hfree : p.registry.get? (ReaderName.make native slave) = none) :
    (p.enroll native slave mode options).registry.size = p.registry.size + 1 :=
  Table.size_insert _ hfree

theorem reader?_enroll_old (hr : p.reader? n = some r) :
    (p.enroll native slave mode options).reader? n = some r := by
  obtain ⟨hlt, -⟩ := List.getElem?_eq_some_iff.1 hr
  show (p.readers ++ [_])[n]? = some r
  rw [List.getElem?_append_left hlt]
  exact hr

/-- A reader after the creation of another one was there before, or is the new one. -/
theorem reader?_enroll (hr : (p.enroll native slave mode options).reader? n = some r) :
    p.reader? n = some r ∨
      n = p.readers.length ∧ r.session = p.nextSession native slave ∧ r.closed = false := by
  have hr' : (p.readers ++ [p.newcomer native slave mode options])[n]? = some r := hr
  by_cases hlt : n < p.readers.length
  · rw [List.getElem?_append_left hlt] at hr'
    exact .inl hr'
  · rw [List.getElem?_append_right (Nat.le_of_not_lt hlt)] at hr'
    cases hd : n - p.readers.length with
    | zero =>
      rw [hd] at hr'
      obtain rfl := Option.some.inj hr'
      exact .inr ⟨by omega, rfl, rfl⟩
    | succ k => simp [hd] at hr'

end Operations

/-! ## 2. What is left alone -/

/-- **Nothing was created, removed or closed** between the two states. -/
structure Apart (p q : Plugin) : Prop where
  registry : q.registry = p.registry
  sessions : q.sessions = p.sessions
  readers : q.readers.map Reader.standing = p.readers.map Reader.standing

section Apart

variable {p q : Plugin} {n : Nat} {r : Reader}

theorem Apart.of_readers (hregistry : q.registry = p.registry) (hsessions : q.sessions = p.sessions)
    (hreaders : q.readers = p.readers) : Apart p q :=
  ⟨hregistry, hsessions, by rw [hreaders]⟩

/-- Every reader is still there as it was. -/
theorem Apart.reader (h : Apart p q) (hr : q.reader? n = some r) :
    ∃ r', p.reader? n = some r' ∧ r'.standing = r.standing := by
  have hn : (q.readers.map Reader.standing)[n]? = some r.standing := by
    rw [List.getElem?_map]
    show (q.reader? n).map Reader.standing = _
    rw [hr]
    rfl
  rw [h.readers, List.getElem?_map] at hn
  exact Option.map_eq_some_iff.1 hn

theorem Apart.symm (h : Apart p q) : Apart q p :=
  ⟨h.registry.symm, h.sessions.symm, h.readers.symm⟩

theorem reader?_updateReader (p : Plugin) (n m : Nat) (f : Reader → Reader) :
    (p.updateReader n f).reader? m = (p.reader? m).map fun r => if n = m then f r else r := by
  show (p.readers.modify n f)[m]? = _
  rw [List.getElem?_modify]
  show _ = (p.readers[m]?).map _
  cases p.readers[m]? with
  | none => rfl
  | some r => by_cases hnm : n = m <;> simp [hnm]

theorem monitor?_updateMonitor (p : Plugin) (m k : Nat) (f : Monitor → Monitor) :
    (p.updateMonitor m f).monitor? k = (p.monitor? k).map fun w => if m = k then f w else w := by
  show (p.monitors.modify m f)[k]? = (p.monitors[k]?).map _
  rw [List.getElem?_modify]
  cases p.monitors[k]? with
  | none => rfl
  | some w => by_cases hmk : m = k <;> simp [hmk]

/-- The reader lets go of its monitor. -/
theorem reader?_stopMonitor (p : Plugin) (n k : Nat) : (p.stopMonitor n).2.reader? k =
    (p.reader? k).map fun r => if n = k then { r with monitor := none } else r := by
  unfold stopMonitor
  cases hheld : (p.reader? n).bind (·.monitor) with
  | some m => exact reader?_updateReader p n k _
  | none =>
    show p.reader? k = _
    cases hr : p.reader? k with
    | none => rfl
    | some r =>
      refine congrArg some ?_
      by_cases hnk : n = k
      · subst hnk
        rw [hr] at hheld
        have hnone : r.monitor = none := hheld
        simp [← hnone]
      · simp [hnk]

/-- And the monitor is told to stop. -/
theorem monitor?_stopMonitor (p : Plugin) (n m : Nat) : (p.stopMonitor n).2.monitor? m =
    (p.monitor? m).map fun w => if (p.reader? n).bind (·.monitor) = some m then w.stop else w := by
  unfold stopMonitor
  cases (p.reader? n).bind (·.monitor) with
  | none => simp
  | some k =>
    refine (monitor?_updateMonitor p k m Monitor.stop).trans ?_
    simp only [Option.some.injEq]

/-- A change that leaves the session and the closing of a reader alone. -/
theorem apart_updateReader (p : Plugin) (n : Nat) {f : Reader → Reader}
    (hf : ∀ r, (f r).standing = r.standing) : Apart p (p.updateReader n f) where
  registry := rfl
  sessions := rfl
  readers := by
    refine List.ext_getElem? fun m => ?_
    rw [List.getElem?_map, List.getElem?_map]
    show ((p.updateReader n f).reader? m).map Reader.standing = (p.reader? m).map Reader.standing
    rw [reader?_updateReader]
    cases p.reader? m with
    | none => rfl
    | some r => by_cases hnm : n = m <;> simp [hnm, hf]

theorem apart_raise (p : Plugin) (e : PluginEvent) : Apart p (p.raise e) := .of_readers rfl rfl rfl

theorem apart_updateEngine (p : Plugin) (n : Nat) (f : Engine → Engine) :
    Apart p (p.updateEngine n f) :=
  apart_updateReader p n fun _ => rfl

theorem apart_stopMonitor (p : Plugin) (n : Nat) : Apart p (p.stopMonitor n).2 := by
  unfold stopMonitor
  cases (p.reader? n).bind (·.monitor) with
  | none => exact .of_readers rfl rfl rfl
  | some m =>
    obtain ⟨hregistry, hsessions, hreaders⟩ :=
      apart_updateReader p n (f := fun r => { r with monitor := none }) fun _ => rfl
    exact ⟨hregistry, hsessions, hreaders⟩

theorem apart_startMonitor (p : Plugin) (n period now : Nat) :
    Apart p (p.startMonitor n period now).2 := by
  unfold startMonitor
  cases p.reader? n with
  | none => exact .of_readers rfl rfl rfl
  | some r =>
    show Apart p (if r.closed || p.isMonitoring n then (false, p) else _).2
    split
    · exact .of_readers rfl rfl rfl
    · obtain ⟨hregistry, hsessions, hreaders⟩ :=
        apart_updateReader (p.addMonitor n period now) n
          (f := fun r => { r with monitor := some p.monitors.length }) fun _ => rfl
      exact ⟨hregistry, hsessions, hreaders⟩

theorem apart_polled (p : Plugin) (m : Nat) (answer : Option Bool) :
    Apart p (p.polled m answer) := by
  unfold polled
  cases p.monitor? m with
  | none => exact .of_readers rfl rfl rfl
  | some monitor =>
    cases answer with
    | none => exact .of_readers rfl rfl rfl
    | some present =>
      simp only
      split
      · exact .of_readers rfl rfl rfl
      · split
        · exact .of_readers rfl rfl rfl
        · exact .of_readers rfl rfl rfl

/-- Closing a reader closes it, and leaves all others as they were. -/
theorem close_reader (p : Plugin) (n m : Nat) :
    ((p.close n).reader? m).map Reader.standing =
      (p.reader? m).map fun r => (r.session, if n = m then true else r.closed) := by
  have happart := apart_stopMonitor (p.updateReader n fun r => { r with closed := true }) n
  have hm := congrArg (·[m]?) happart.readers
  simp only [List.getElem?_map] at hm
  refine Eq.trans hm ?_
  show ((p.updateReader n _).reader? m).map Reader.standing = _
  rw [reader?_updateReader, Option.map_map]
  congr 1
  funext r
  by_cases hnm : n = m <;> simp [hnm, Reader.standing]

end Apart

/-! ## 3. Steps -/

/-- What is done to a plugin, and how it ended. -/
inductive Event where
  | created (native slave : String) (result : Except ReaderError Session)
  | removed (native slave : String) (result : Except ReaderError Nat)
  | disconnected (native slave : String) (result : Except ReaderError Unit)
  /-- something that is not about the registry -/
  | other

/-- What an operation leaves behind: one that fails leaves the plugin as it was. -/
def after (p : Plugin) : Except ReaderError Plugin → Plugin
  | .ok q => q
  | .error _ => p

/-- **One step of a plugin.** -/
inductive Step (p : Plugin) : Event → Plugin → Prop where
  | create (native slave : String) (mode : TransmissionMode) (options : Settings) :
      Step p (.created native slave ((p.create native slave mode options).map (·.1)))
        (p.after ((p.create native slave mode options).map (·.2)))
  | remove (native slave : String) :
      Step p (.removed native slave ((p.remove native slave).map (·.1)))
        (p.after ((p.remove native slave).map (·.2)))
  | disconnect (native slave : String) :
      Step p (.disconnected native slave ((p.disconnect native slave).map fun _ => ()))
        (p.after (p.disconnect native slave))
  | other (q : Plugin) (h : Apart p q) : Step p .other q

namespace Event

/-- The session that was issued. -/
def session? : Event → Option Session
  | .created _ _ (.ok session) => some session
  | _ => none

/-- The name that was registered or freed. -/
def change? : Event → Option (String × PluginEventType)
  | .created native slave (.ok _) => some (ReaderName.make native slave, .readerConnected)
  | .removed native slave (.ok _) => some (ReaderName.make native slave, .readerDisconnected)
  | .disconnected native slave (.ok _) => some (ReaderName.make native slave, .readerDisconnected)
  | _ => none

/-- The operation was refused. -/
def Fails : Event → Prop
  | .created _ _ (.error _) => True
  | .removed _ _ (.error _) => True
  | .disconnected _ _ (.error _) => True
  | _ => False

theorem quiet_of_fails {ev : Event} (h : ev.Fails) : ev.session? = none ∧ ev.change? = none := by
  cases ev with
  | created native slave result =>
    cases result with
    | ok session => exact h.elim
    | error reason => exact ⟨rfl, rfl⟩
  | removed native slave result =>
    cases result with
    | ok n => exact h.elim
    | error reason => exact ⟨rfl, rfl⟩
  | disconnected native slave result =>
    cases result with
    | ok u => exact h.elim
    | error reason => exact ⟨rfl, rfl⟩
  | other => exact h.elim

end Event

/-- **The observers are told of this change, once the registry has it**: the event is raised in a
state with the new registry, in which the observers have not been told of anything yet. -/
def Announced (p q : Plugin) (change : String × PluginEventType) : Prop :=
  ∃ mid : Plugin, mid.registry = q.registry ∧ mid.pluginObservers = p.pluginObservers ∧
    mid.notes = p.notes ∧ q = mid.raise (.single p.name change.1 change.2)

section Steps

variable {p q : Plugin} {ev : Event}

/-- **What a step does**: it fails and changes nothing, or a reader for a free name is added, or the
reader of a taken name is taken out, or nothing is done to the registry. -/
theorem step_cases (hs : Step p ev q) :
    (ev.Fails ∧ q = p) ∨
    (∃ native slave mode options,
      ev = .created native slave (.ok (p.nextSession native slave)) ∧
      p.registry.get? (ReaderName.make native slave) = none ∧
      q = (p.enroll native slave mode options).raise
        (.single p.name (ReaderName.make native slave) .readerConnected)) ∨
    (∃ native slave n,
      (ev = .removed native slave (.ok n) ∨ ev = .disconnected native slave (.ok ())) ∧
      p.registry.get? (ReaderName.make native slave) = some n ∧
      q = (p.unregister n (ReaderName.make native slave)).raise
        (.single p.name (ReaderName.make native slave) .readerDisconnected)) ∨
    (ev = .other ∧ Apart p q) := by
  cases hs with
  | create native slave mode options =>
    rcases create_cases p native slave mode options with ⟨n, -, heq⟩ | ⟨hfree, heq⟩
    · rw [heq]
      exact .inl ⟨trivial, rfl⟩
    · rw [heq]
      exact .inr (.inl ⟨native, slave, mode, options, rfl, hfree, rfl⟩)
  | remove native slave =>
    rcases remove_cases p native slave with ⟨-, heq⟩ | ⟨n, hn, heq⟩
    · rw [heq]
      exact .inl ⟨trivial, rfl⟩
    · rw [heq]
      exact .inr (.inr (.inl ⟨native, slave, n, .inl rfl, hn, rfl⟩))
  | disconnect native slave =>
    unfold disconnect
    rcases remove_cases p native slave with ⟨-, heq⟩ | ⟨n, hn, heq⟩
    · rw [heq]
      exact .inl ⟨trivial, rfl⟩
    · rw [heq]
      exact .inr (.inr (.inl ⟨native, slave, n, .inr rfl, hn, rfl⟩))
  | other _ h => exact .inr (.inr (.inr ⟨rfl, h⟩))

theorem unregister_quiet (p : Plugin) (n : Nat) (name : String) :
    (p.unregister n name).pluginObservers = p.pluginObservers ∧
      (p.unregister n name).notes = p.notes := by
  unfold unregister close stopMonitor
  simp only
  split
  · exact ⟨rfl, rfl⟩
  · exact ⟨rfl, rfl⟩

/-- **Every change is announced.** -/
theorem announced_of_step (hs : Step p ev q) {change : String × PluginEventType}
    (hchange : ev.change? = some change) : Announced p q change := by
  rcases step_cases hs with ⟨hfails, -⟩ | ⟨native, slave, mode, options, rfl, -, rfl⟩ |
    ⟨native, slave, n, hev, -, rfl⟩ | ⟨rfl, -⟩
  · rw [(Event.quiet_of_fails hfails).2] at hchange
    cases hchange
  · obtain rfl : (ReaderName.make native slave, .readerConnected) = change :=
      Option.some.inj hchange
    exact ⟨p.enroll native slave mode options, rfl, rfl, rfl, rfl⟩
  · obtain rfl : (ReaderName.make native slave, .readerDisconnected) = change := by
      rcases hev with rfl | rfl
      · exact Option.some.inj hchange
      · exact Option.some.inj hchange
    obtain ⟨hobservers, hnotes⟩ := unregister_quiet p n (ReaderName.make native slave)
    exact ⟨p.unregister n _, rfl, hobservers, hnotes, rfl⟩
  · cases hchange

end Steps

end Plugin

end CardLink
