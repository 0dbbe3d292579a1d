import CardLink.Proofs.Virtual.Announce
import CardLink.Proofs.Virtual.Desk
import CardLink.Proofs.Virtual.Exchange

/-!
# A pair that mirrors a desk

The master and the slave hold between them what the desk holds: for each reader the card and the
selection, for the observers what they noted, and for events that wait the notices in the queue of
the master.

* `Stands`: a reader of the desk, as it stands at the master and at the slave.
* `Plugin.hearing_hearAll`: notices that are taken are events that the observers are told of.
* **`Mirrors`**: the relation of a scene and a desk.
* `Mirrors.swap`: one reader changes on both sides, and all others stand as before.
-/

namespace CardLink

open Network

/-! ## 1. One reader -/

/-- A virtual reader of the slave's reader `native`, with nothing under way. -/
structure Attached (master station : String) (patience : Nat) (native : String) (l : LocalReader)
    (reader : Reader) : Prop where
  native : reader.session.native = native
  slave : reader.session.slave = station
  master : reader.session.master = master
  idle : reader.engine.Idle
  patience : reader.engine.patience = patience
  selection : reader.selection = l.selection

/-- **A reader of the desk at the master and at the slave.** -/
structure Stands (master station : String) (patience : Nat) (s : Scene) (native : String) (r : Nat)
    (l : LocalReader) : Prop where
  registered : s.plugin.registry.get? (ReaderName.make native station) = some r
  here : ∃ reader, s.plugin.reader? r = some reader ∧
    Attached master station patience native l reader
  there : ∃ x, s.slave.reader? native = some x ∧ x.inside = l

section Stands

variable {master station : String} {patience : Nat} {s t : Scene} {native native' : String}
  {r r' : Nat} {l l' : LocalReader}

/-- Different readers have different numbers. -/
theorem Stands.number_ne (h : Stands master station patience s native r l)
    (h' : Stands master station patience s native' r' l') (hne : native' ≠ native) : r' ≠ r := by
  rintro rfl
  obtain ⟨reader, hreader, hattached⟩ := h.here
  obtain ⟨reader', hreader', hattached'⟩ := h'.here
  rw [hreader] at hreader'
  obtain rfl := Option.some.inj hreader'
  exact hne (hattached'.native.symm.trans hattached.native)

/-- A reader stands as before where nothing of it changes. -/
theorem Stands.frame (h : Stands master station patience s native r l)
    (hregistered : t.plugin.registry.get? (ReaderName.make native station) =
      s.plugin.registry.get? (ReaderName.make native station))
    (hhere : t.plugin.reader? r = s.plugin.reader? r)
    (hthere : t.slave.reader? native = s.slave.reader? native) :
    Stands master station patience t native r l where
  registered := hregistered.trans h.registered
  here := by
    rw [hhere]
    exact h.here
  there := by
    rw [hthere]
    exact h.there

end Stands

/-! ## 2. Events that wait -/

/-- Notices, and the events that the observers will be told of. -/
def Awaits (p : Plugin) (station : String) (xs : List Notice) (es : List (Nat × ReaderEvent)) :
    Prop :=
  List.Forall₂ (fun x e => p.registry.get? (ReaderName.make x.native station) = some e.1 ∧
    x.told p.name station = e.2) xs es

/-- **Notices that are taken are events that the observers are told of.** -/
theorem Plugin.hearing_hearAll {p : Plugin} {station : String} {xs : List Notice}
    {es : List (Nat × ReaderEvent)} (h : Awaits p station xs es) :
    (p.hearAll station xs).hearing = es.foldl Hearing.tell p.hearing := by
  induction xs generalizing p es with
  | nil =>
    cases h
    rfl
  | cons x xs ih =>
    obtain ⟨e, es, ⟨hregistered, htold⟩, hxs, rfl⟩ := List.forall₂_cons_left_iff.1 h
    show ((p.hear station x).hearAll station xs).hearing = es.foldl Hearing.tell (p.hearing.tell e)
    rw [Plugin.hear_registered hregistered, htold, ← Plugin.hearing_raiseReader]
    exact ih hxs

/-- One more notice. -/
theorem Awaits.snoc {p : Plugin} {station : String} {xs : List Notice}
    {es : List (Nat × ReaderEvent)} (h : Awaits p station xs es) {x : Notice}
    {e : Nat × ReaderEvent}
    (hregistered : p.registry.get? (ReaderName.make x.native station) = some e.1)
    (htold : x.told p.name station = e.2) : Awaits p station (xs ++ [x]) (es ++ [e]) :=
  List.rel_append h (.cons ⟨hregistered, htold⟩ .nil)

/-! ## 3. The pair and the desk -/

/-- The plugin has the settings of the desk, and as many readers. -/
structure Manages (master : String) (p : Plugin) (d : Desk) : Prop where
  name : p.name = d.plugin
  address : p.address = master
  patience : p.patience = d.patience
  room : 1 ≤ p.limit
  ids : p.sessions.ids = Identifier.session
  issued : p.sessions.issued = d.count
  length : p.readers.length = d.count
  size : p.registry.size = d.count
  hearing : p.hearing = d.hearing

/-- The slave answers, sooner than calls wait. -/
structure Responds (master : String) (sl : Slave) (d : Desk) : Prop where
  node : sl.node = d.station
  master : sl.master = master
  answers : sl.silent = false
  soon : sl.delay < d.patience
  idle : sl.engine.Idle

/-- **The pair mirrors the desk.** -/
structure Mirrors (master : String) (s : Scene) (d : Desk) : Prop where
  calm : s.Calm
  manages : Manages master s.plugin d
  responds : Responds master s.slave d
  backlog : ∃ xs : List Notice, s.toMaster = xs.map (·.wire master d.station) ∧
    Awaits s.plugin d.station xs d.pending
  stands : ∀ native r l, d.readers.get? native = some (r, l) →
    Stands master d.station d.patience s native r l
  absent : ∀ native, d.readers.get? native = none →
    s.plugin.registry.get? (ReaderName.make native d.station) = none ∧
      s.slave.reader? native = none

section Mirrors

variable {master : String} {s t : Scene} {d : Desk} {native : String} {r : Nat} {l l' : LocalReader}

/-- **One reader changes on both sides**, and all others stand as before. -/
theorem Mirrors.swap (h : Mirrors master s d) (hr : d.readers.get? native = some (r, l))
    (hregistry : t.plugin.registry = s.plugin.registry)
    (hhere : ∀ k, k ≠ r → t.plugin.reader? k = s.plugin.reader? k)
    (hthere : ∀ name, name ≠ native → t.slave.reader? name = s.slave.reader? name)
    (hnew : Stands master d.station d.patience t native r l') :
    (∀ name k m, (d.put native r l').readers.get? name = some (k, m) →
      Stands master d.station d.patience t name k m) ∧
    ∀ name, (d.put native r l').readers.get? name = none →
      t.plugin.registry.get? (ReaderName.make name d.station) = none ∧
        t.slave.reader? name = none := by
  have hget : ∀ name, (d.put native r l').readers.get? name =
      if name = native then some (r, l') else d.readers.get? name :=
    fun name => Table.get?_insert ..
  constructor
  · intro name k m hname
    rw [hget] at hname
    by_cases heq : name = native
    · subst heq
      rw [if_pos rfl] at hname
      obtain ⟨rfl, rfl⟩ := Prod.mk.inj (Option.some.inj hname)
      exact hnew
    · rw [if_neg heq] at hname
      have hold := h.stands name k m hname
      have hk := (h.stands native r l hr).number_ne hold heq
      exact hold.frame (by rw [hregistry]) (hhere k hk) (hthere name heq)
  · intro name hname
    rw [hget] at hname
    by_cases heq : name = native
    · rw [if_pos heq] at hname
      cases hname
    · rw [if_neg heq] at hname
      obtain ⟨hfree, hnone⟩ := h.absent name hname
      rw [hregistry, hthere name heq]
      exact ⟨hfree, hnone⟩

/-- **The observers are told of all that waits.** -/
theorem Mirrors.flush (h : Mirrors master s d) {xs : List Notice}
    (hxs : Awaits s.plugin d.station xs d.pending) :
    Mirrors master { s with plugin := s.plugin.hearAll d.station xs, toMaster := [] } d.flush := by
  have hhearing := Plugin.hearing_hearAll hxs
  obtain ⟨observers, notes, heq⟩ := Plugin.hearAll_eq d.station s.plugin xs
  have hmanages : Manages master (s.plugin.hearAll d.station xs) d.flush := by
    rw [h.manages.hearing] at hhearing
    rw [heq] at hhearing ⊢
    exact { h.manages with hearing := hhearing }
  refine ⟨{ h.calm with }, hmanages, { h.responds with }, ⟨[], rfl, .nil⟩, ?_, ?_⟩
  · intro name k m hname
    refine (h.stands name k m hname).frame ?_ ?_ rfl
    · rw [heq]
    · rw [heq]
      rfl
  · intro name hname
    rw [heq]
    exact h.absent name hname

end Mirrors

end CardLink
