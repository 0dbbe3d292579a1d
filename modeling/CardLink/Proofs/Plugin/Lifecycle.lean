import Mathlib.Data.List.Nodup
import CardLink.Proofs.Plugin.Registry

/-!
# The life of registered readers

Whatever was created and removed before, and in whatever order: a reader is open exactly while it is
registered, it is registered under the name of its own pair, and its session is shared with no other
reader. What the observers of the plugin are told of one name alternates, and its last word says
whether the name is taken.

* `Plugin.Orderly`: the invariant; `orderly_step` for one step, `orderly_of_trace` for a run.
* `Plugin.closed_of_trace`: a closed reader stays closed.
* **`Plugin.lifecycle`**: what holds after every run.

Sessions have their own ids if the source does not repeat itself, whatever it is; nothing else here
depends on it.

NOT here: observers that create or remove readers when they are told of an event.
-/

namespace CardLink.Plugin

/-! ## 1. What was said of a name -/

/-- What the observers were told of one name, the earliest first. -/
def turns (name : String) (evs : List Event) : List PluginEventType :=
  ((evs.filterMap Event.change?).filter (·.1 = name)).map (·.2)

/-- What is said at this place of a row. -/
def turn (i : Nat) : PluginEventType := if i % 2 = 0 then .readerConnected else .readerDisconnected

/-- Connecting and disconnecting follow each other, connecting first. -/
def Alternates (ts : List PluginEventType) : Prop := ∀ i t, ts[i]? = some t → t = turn i

section Turns

variable {evs : List Event} {ev : Event} {name name' : String} {t : PluginEventType}
  {ts : List PluginEventType}

theorem turns_concat_of_none (h : ev.change? = none) :
    turns name (evs ++ [ev]) = turns name evs := by
  simp [turns, h]

theorem turns_concat (h : ev.change? = some (name', t)) :
    turns name (evs ++ [ev]) = if name' = name then turns name evs ++ [t] else turns name evs := by
  by_cases hname : name' = name
  · simp [turns, h, hname]
  · simp [turns, h, hname]

theorem alternates_nil : Alternates [] := fun i t h => by simp at h

theorem Alternates.concat (h : Alternates ts) (ht : t = turn ts.length) :
    Alternates (ts ++ [t]) := by
  intro i u hi
  by_cases hlt : i < ts.length
  · rw [List.getElem?_append_left hlt] at hi
    exact h i u hi
  · rw [List.getElem?_append_right (Nat.le_of_not_lt hlt)] at hi
    obtain ⟨hzero, rfl⟩ : i - ts.length = 0 ∧ t = u := by
      cases hd : i - ts.length with
      | zero => simpa [hd] using hi
      | succ k => simp [hd] at hi
    rw [ht, show i = ts.length by omega]

/-- The last word was that the name is taken exactly when an odd number of things was said. -/
theorem Alternates.getLast?_iff (h : Alternates ts) :
    ts.getLast? = some .readerConnected ↔ ts.length % 2 = 1 := by
  rw [List.getLast?_eq_getElem?]
  constructor
  · intro hlast
    have hturn := h _ _ hlast
    obtain ⟨hpos, -⟩ := List.getElem?_eq_some_iff.1 hlast
    unfold turn at hturn
    split at hturn
    · omega
    · cases hturn
  · intro hodd
    have hpos : ts.length - 1 < ts.length := by omega
    rw [List.getElem?_eq_getElem hpos]
    have hturn := h _ _ (List.getElem?_eq_getElem hpos)
    rw [hturn, turn, if_pos (by omega)]

end Turns

/-! ## 2. The invariant -/

/-- **Registry, readers, sessions and history agree.** -/
structure Orderly (evs : List Event) (p : Plugin) : Prop where
  stored : ∀ name n, p.registry.get? name = some n → ∃ r, p.reader? n = some r ∧ r.name = name
  open_iff : ∀ n r, p.reader? n = some r → (r.closed = false ↔ p.registry.get? r.name = some n)
  sessions : p.readers.map (·.session) = evs.filterMap Event.session?
  ids : ∀ n r, p.reader? n = some r → r.session.id = p.sessions.ids (n + 1)
  issued : p.sessions.issued = p.readers.length
  turns : ∀ name, Alternates (turns name evs)
  held : ∀ name, (∃ n, p.registry.get? name = some n) ↔ (Plugin.turns name evs).length % 2 = 1

section Orderly

variable {evs : List Event} {ev : Event} {p q : Plugin} {n : Nat} {r : Reader}

theorem orderly_new (ids : Nat → String) (name address : String) (patience limit : Nat) :
    Orderly [] (new ids name address patience limit) where
  stored name n h := by cases h
  open_iff n r h := by cases h
  sessions := rfl
  ids n r h := by cases h
  issued := rfl
  turns name := alternates_nil
  held name := by
    constructor
    · intro hsome
      obtain ⟨n, h⟩ := hsome
      cases h
    · intro h
      cases h

theorem name_eq_of_standing {r r' : Reader} (h : r'.standing = r.standing) : r'.name = r.name := by
  have hsession : r'.session = r.session := congrArg Prod.fst h
  rw [Reader.name, Reader.name, hsession]

theorem Orderly.apart (h : Orderly evs p) (ha : Apart p q) : Orderly evs q where
  stored name n hn := by
    rw [ha.registry] at hn
    obtain ⟨r, hr, rfl⟩ := h.stored name n hn
    obtain ⟨r', hr', hstanding⟩ := ha.symm.reader hr
    exact ⟨r', hr', name_eq_of_standing hstanding⟩
  open_iff n r hr := by
    obtain ⟨r', hr', hstanding⟩ := ha.reader hr
    have hclosed : r'.closed = r.closed := congrArg Prod.snd hstanding
    rw [ha.registry, ← hclosed, ← name_eq_of_standing hstanding]
    exact h.open_iff n r' hr'
  sessions := by
    have hfst := congrArg (List.map Prod.fst) ha.readers
    rw [List.map_map, List.map_map] at hfst
    exact hfst.trans h.sessions
  ids n r hr := by
    obtain ⟨r', hr', hstanding⟩ := ha.reader hr
    have hsession : r'.session = r.session := congrArg Prod.fst hstanding
    rw [← hsession, ha.sessions]
    exact h.ids n r' hr'
  issued := by
    have hlength := congrArg List.length ha.readers
    rw [List.length_map, List.length_map] at hlength
    rw [ha.sessions, hlength, h.issued]
  turns := h.turns
  held name := by
    rw [ha.registry]
    exact h.held name

/-- Nothing was registered or freed. -/
theorem Orderly.idle (h : Orderly evs p) (hsession : ev.session? = none)
    (hchange : ev.change? = none) : Orderly (evs ++ [ev]) p where
  stored := h.stored
  open_iff := h.open_iff
  sessions := by
    rw [List.filterMap_append, h.sessions]
    simp [hsession]
  ids := h.ids
  issued := h.issued
  turns name := by
    rw [turns_concat_of_none hchange]
    exact h.turns name
  held name := by
    rw [turns_concat_of_none hchange]
    exact h.held name

/-! ### One word more on a name -/

section Word

variable {name name' : String} {t : PluginEventType}

theorem Orderly.turn_of_free (h : Orderly evs p) (hfree : p.registry.get? name = none) :
    turn (Plugin.turns name evs).length = .readerConnected := by
  have heven : ¬ (Plugin.turns name evs).length % 2 = 1 := by
    rw [← h.held name, hfree]
    simp
  rw [turn, if_pos (by omega)]

theorem Orderly.turn_of_taken (h : Orderly evs p) (htaken : p.registry.get? name = some n) :
    turn (Plugin.turns name evs).length = .readerDisconnected := by
  have hodd : (Plugin.turns name evs).length % 2 = 1 := (h.held name).1 ⟨n, htaken⟩
  rw [turn, if_neg (by omega)]

/-- What is said next of a name is what its turn is. -/
theorem Orderly.turns_concat (h : Orderly evs p)
    (hchange : ev.change? = some (name', turn (Plugin.turns name' evs).length)) (name : String) :
    Alternates (Plugin.turns name (evs ++ [ev])) := by
  rw [Plugin.turns_concat hchange]
  by_cases hname : name' = name
  · rw [if_pos hname, ← hname]
    exact (h.turns name').concat rfl
  · rw [if_neg hname]
    exact h.turns name

/-- With each word on a name it is taken if it was free, and free if it was taken. -/
theorem Orderly.held_concat (h : Orderly evs p) (hchange : ev.change? = some (name', t))
    (hself : (∃ n, q.registry.get? name' = some n) ↔ ¬ ∃ n, p.registry.get? name' = some n)
    (hothers : ∀ name, name ≠ name' → q.registry.get? name = p.registry.get? name)
    (name : String) : (∃ n, q.registry.get? name = some n) ↔
      (Plugin.turns name (evs ++ [ev])).length % 2 = 1 := by
  rw [Plugin.turns_concat hchange]
  by_cases hname : name' = name
  · rw [if_pos hname, ← hname, hself, h.held name', List.length_append, List.length_singleton]
    omega
  · rw [if_neg hname, hothers name (Ne.symm hname)]
    exact h.held name

end Word

/-! ### A new reader -/

variable {native slave : String} {mode : TransmissionMode} {options : Settings}

theorem Orderly.enroll (h : Orderly evs p)
    (hfree : p.registry.get? (ReaderName.make native slave) = none) :
    Orderly (evs ++ [.created native slave (.ok (p.nextSession native slave))])
      (p.enroll native slave mode options) where
  stored name n hn := by
    rw [get?_enroll] at hn
    split at hn
    · rename_i hname
      obtain rfl := Option.some.inj hn
      rw [hname]
      exact ⟨_, p.reader?_enroll_new native slave mode options, rfl⟩
    · obtain ⟨r, hr, hname⟩ := h.stored name n hn
      exact ⟨r, reader?_enroll_old hr, hname⟩
  open_iff n r hr := by
    rw [get?_enroll]
    rcases reader?_enroll hr with hold | ⟨rfl, hsession, hopen⟩
    · have hlt : n < p.readers.length := (List.getElem?_eq_some_iff.1 hold).1
      rw [h.open_iff n r hold]
      by_cases hname : r.name = ReaderName.make native slave
      · rw [if_pos hname, hname, hfree]
        constructor
        · intro hnone
          cases hnone
        · intro hsome
          have heq := Option.some.inj hsome
          omega
      · rw [if_neg hname]
    · rw [if_pos (by rw [Reader.name, hsession]; rfl), hopen]
      exact ⟨fun _ => rfl, fun _ => rfl⟩
  sessions := by
    show (p.readers ++ [_]).map Reader.session = _
    rw [List.map_append, h.sessions, List.filterMap_append]
    rfl
  ids n r hr := by
    rcases reader?_enroll hr with hold | ⟨rfl, hsession, -⟩
    · exact h.ids n r hold
    · rw [hsession, ← h.issued]
      rfl
  issued := by
    show p.sessions.issued + 1 = (p.readers ++ [_]).length
    rw [List.length_append, h.issued]
    rfl
  turns := h.turns_concat (by rw [h.turn_of_free hfree]; rfl)
  held := by
    refine h.held_concat rfl ?_ fun name hname => ?_
    · rw [get?_enroll, if_pos rfl, hfree]
      simp
    · rw [get?_enroll, if_neg hname]

/-! ### A reader that goes -/

theorem get?_unregister (p : Plugin) (n : Nat) (name name' : String) :
    (p.unregister n name).registry.get? name' =
      if name' = name then none else p.registry.get? name' := by
  have hkeep : (p.close n).registry = p.registry :=
    (apart_stopMonitor (p.updateReader n fun r => { r with closed := true }) n).registry
  show ((p.close n).registry.erase name).get? name' = _
  rw [hkeep, Table.get?_erase]

/-- The readers after one was taken out: this one is closed, the others are as they were. -/
theorem reader?_unregister (p : Plugin) (n m : Nat) (name : String) :
    ((p.unregister n name).reader? m).map Reader.standing =
      (p.reader? m).map fun r => (r.session, if n = m then true else r.closed) :=
  close_reader p n m

theorem reader_of_unregister {name : String} {m : Nat}
    (hr : (p.unregister n name).reader? m = some r) :
    ∃ r', p.reader? m = some r' ∧ r'.session = r.session ∧
      r.closed = (if n = m then true else r'.closed) := by
  have hmap := reader?_unregister p n m name
  rw [hr] at hmap
  obtain ⟨r', hr', hstanding⟩ := Option.map_eq_some_iff.1 hmap.symm
  exact ⟨r', hr', congrArg Prod.fst hstanding, (congrArg Prod.snd hstanding).symm⟩

theorem unregister_of_reader {m : Nat} (hr : p.reader? m = some r) (n : Nat) (name : String) :
    ∃ r', (p.unregister n name).reader? m = some r' ∧ r'.session = r.session ∧
      r'.closed = (if n = m then true else r.closed) := by
  have hmap := reader?_unregister p n m name
  rw [hr] at hmap
  obtain ⟨r', hr', hstanding⟩ := Option.map_eq_some_iff.1 hmap
  exact ⟨r', hr', congrArg Prod.fst hstanding, congrArg Prod.snd hstanding⟩

theorem sessions_unregister (p : Plugin) (n : Nat) (name : String) :
    (p.unregister n name).readers.map (·.session) = p.readers.map (·.session) := by
  refine List.ext_getElem? fun m => ?_
  have hmap := congrArg (Option.map Prod.fst) (reader?_unregister p n m name)
  rw [Option.map_map, Option.map_map] at hmap
  rw [List.getElem?_map, List.getElem?_map]
  exact hmap

/-- No session is issued when a reader goes. -/
theorem source_unregister (p : Plugin) (n : Nat) (name : String) :
    (p.unregister n name).sessions = p.sessions :=
  (apart_stopMonitor (p.updateReader n fun r => { r with closed := true }) n).sessions

theorem Orderly.unregister (h : Orderly evs p)
    (htaken : p.registry.get? (ReaderName.make native slave) = some n)
    (hsession : ev.session? = none)
    (hchange : ev.change? = some (ReaderName.make native slave, .readerDisconnected)) :
    Orderly (evs ++ [ev]) (p.unregister n (ReaderName.make native slave)) where
  stored name m hm := by
    rw [get?_unregister] at hm
    split at hm
    · cases hm
    · obtain ⟨r, hr, hname⟩ := h.stored name m hm
      obtain ⟨r', hr', hsession', -⟩ := unregister_of_reader hr n (ReaderName.make native slave)
      exact ⟨r', hr', by rw [← hname, Reader.name, Reader.name, hsession']⟩
  open_iff m r hr := by
    obtain ⟨r', hr', hsession', hclosed⟩ := reader_of_unregister hr
    have hname : r'.name = r.name := by rw [Reader.name, Reader.name, hsession']
    rw [get?_unregister, hclosed, ← hname]
    by_cases hnm : n = m
    · subst hnm
      obtain ⟨r₀, hr₀, hname₀⟩ := h.stored _ n htaken
      obtain rfl : r₀ = r' := Option.some.inj (hr₀.symm.trans hr')
      rw [if_pos rfl, if_pos hname₀]
      constructor
      · intro hfalse
        cases hfalse
      · intro hnone
        cases hnone
    · rw [if_neg hnm, h.open_iff m r' hr']
      by_cases hpair : r'.name = ReaderName.make native slave
      · rw [if_pos hpair, hpair, htaken]
        constructor
        · intro hsome
          exact absurd (Option.some.inj hsome) hnm
        · intro hnone
          cases hnone
      · rw [if_neg hpair]
  sessions := by
    rw [sessions_unregister, h.sessions, List.filterMap_append]
    simp [hsession]
  ids m r hr := by
    obtain ⟨r', hr', hsession', -⟩ := reader_of_unregister hr
    rw [← hsession', source_unregister]
    exact h.ids m r' hr'
  issued := by
    have hlength := congrArg List.length (sessions_unregister p n (ReaderName.make native slave))
    rw [List.length_map, List.length_map] at hlength
    rw [hlength, source_unregister, h.issued]
  turns := h.turns_concat (by rw [h.turn_of_taken htaken]; exact hchange)
  held := by
    refine h.held_concat hchange ?_ fun name hname => ?_
    · rw [get?_unregister, if_pos rfl, htaken]
      simp
    · rw [get?_unregister, if_neg hname]

/-! ## 3. Steps and runs -/

/-- **One step keeps the invariant.** -/
theorem orderly_step (h : Orderly evs p) (hs : Step p ev q) : Orderly (evs ++ [ev]) q := by
  rcases step_cases hs with ⟨hfails, rfl⟩ | ⟨native, slave, mode, options, rfl, hfree, rfl⟩ |
    ⟨native, slave, n, hev, htaken, rfl⟩ | ⟨rfl, ha⟩
  · obtain ⟨hsession, hchange⟩ := Event.quiet_of_fails hfails
    exact h.idle hsession hchange
  · exact (h.enroll hfree).apart (apart_raise _ _)
  · refine (h.unregister htaken ?_ ?_).apart (apart_raise _ _)
    · rcases hev with rfl | rfl
      · rfl
      · rfl
    · rcases hev with rfl | rfl
      · rfl
      · rfl
  · exact (h.idle rfl rfl).apart ha

theorem orderly_of_trace {ids : Nat → String} {name address : String} {patience limit : Nat}
    (h : Trace Step (new ids name address patience limit) evs p) : Orderly evs p :=
  h.invariant (orderly_new ids name address patience limit) fun _ _ _ _ _ hI hs =>
    orderly_step hI hs

/-- The ids of sessions are drawn from the same source all the time. -/
theorem source_step (hs : Step p ev q) : q.sessions.ids = p.sessions.ids := by
  rcases step_cases hs with ⟨-, rfl⟩ | ⟨native, slave, mode, options, -, -, rfl⟩ |
    ⟨native, slave, n, -, -, rfl⟩ | ⟨-, ha⟩
  · rfl
  · rfl
  · exact congrArg SessionFactory.ids (source_unregister p n (ReaderName.make native slave))
  · exact congrArg SessionFactory.ids ha.sessions

theorem source_of_trace (h : Trace Step p evs q) : q.sessions.ids = p.sessions.ids :=
  h.invariant (I := fun _ q => q.sessions.ids = p.sessions.ids) rfl fun _ _ _ _ _ hI hs =>
    (source_step hs).trans hI

/-- A closed reader is closed after the next step, too. -/
theorem closed_step (hs : Step p ev q) (hr : p.reader? n = some r) (hclosed : r.closed = true) :
    ∃ r', q.reader? n = some r' ∧ r'.session = r.session ∧ r'.closed = true := by
  rcases step_cases hs with ⟨-, rfl⟩ | ⟨native, slave, mode, options, -, -, rfl⟩ |
    ⟨native, slave, m, -, -, rfl⟩ | ⟨-, ha⟩
  · exact ⟨r, hr, rfl, hclosed⟩
  · exact ⟨r, reader?_enroll_old hr, rfl, hclosed⟩
  · obtain ⟨r', hr', hsession, hclosed'⟩ :=
      unregister_of_reader hr m (ReaderName.make native slave)
    refine ⟨r', hr', hsession, ?_⟩
    rw [hclosed', hclosed]
    split
    · rfl
    · rfl
  · obtain ⟨r', hr', hstanding⟩ := ha.symm.reader hr
    exact ⟨r', hr', congrArg Prod.fst hstanding, (congrArg Prod.snd hstanding).trans hclosed⟩

/-- **A closed reader stays closed.** -/
theorem closed_of_trace (ht : Trace Step p evs q) (hr : p.reader? n = some r)
    (hclosed : r.closed = true) :
    ∃ r', q.reader? n = some r' ∧ r'.session = r.session ∧ r'.closed = true := by
  refine ht.invariant
    (I := fun _ q => ∃ r', q.reader? n = some r' ∧ r'.session = r.session ∧ r'.closed = true)
    ⟨r, hr, rfl, hclosed⟩ fun _ t _ u _ ⟨r₁, hr₁, hsession₁, hclosed₁⟩ hs => ?_
  obtain ⟨r₂, hr₂, hsession₂, hclosed₂⟩ := closed_step hs hr₁ hclosed₁
  exact ⟨r₂, hr₂, hsession₂.trans hsession₁, hclosed₂⟩

end Orderly

/-! ## 4. The main statement -/

/-- A reader is registered for this pair. -/
def IsRegistered (p : Plugin) (native slave : String) : Prop :=
  ∃ name n r, p.registry.get? name = some n ∧ p.reader? n = some r ∧
    r.session.native = native ∧ r.session.slave = slave

/-- **The life of the readers of a plugin after these events.** -/
structure Lifecycle (evs : List Event) (p : Plugin) : Prop where
  /-- a registered reader is registered under the name of its own pair, and is open -/
  stored : ∀ name n, p.registry.get? name = some n → ∃ r, p.reader? n = some r ∧
    name = ReaderName.make r.session.native r.session.slave ∧ r.closed = false
  create_refused : ∀ native slave mode options reason,
    p.create native slave mode options = .error reason ↔
      p.IsRegistered native slave ∧ reason = .duplicateReader native slave
  remove_refused : ∀ native slave reason, p.remove native slave = .error reason ↔
    ¬ p.IsRegistered native slave ∧ reason = .notFound (ReaderName.make native slave)
  disconnect_refused : ∀ native slave reason, p.disconnect native slave = .error reason ↔
    ¬ p.IsRegistered native slave ∧ reason = .notFound (ReaderName.make native slave)
  /-- what is refused changes nothing and tells nobody -/
  refused : ∀ ev q, Step p ev q → ev.Fails → q = p
  /-- what is done is told, once it is done -/
  announced : ∀ ev q change, Step p ev q → ev.change? = some change → Announced p q change
  /-- a reader that goes is closed, and its observers go -/
  freed : ∀ ev q name, Step p ev q → ev.change? = some (name, .readerDisconnected) →
    ∃ n r, p.registry.get? name = some n ∧ q.registry.get? name = none ∧ q.reader? n = some r ∧
      r.closed = true ∧ (q.readerObservers.observers n).toList = []
  /-- a closed reader stays closed and is never registered again -/
  gone : ∀ n r, p.reader? n = some r → r.closed = true → ∀ later q, Trace Step p later q →
    (∃ r', q.reader? n = some r' ∧ r'.session = r.session ∧ r'.closed = true) ∧
      ∀ name, q.registry.get? name ≠ some n
  issued : p.sessions.issuedWord = UInt64.ofNat (evs.filterMap Event.session?).length
  /-- the readers have the sessions that were issued, each its own -/
  sessions : p.readers.map (·.session) = evs.filterMap Event.session?
  distinct : ((evs.filterMap Event.session?).map (·.id)).Nodup
  alternates : ∀ name, Alternates (turns name evs)
  /-- the last word about a name says whether it is taken -/
  held : ∀ name, (∃ n, p.registry.get? name = some n) ↔
    (turns name evs).getLast? = some .readerConnected

section Lifecycle

variable {evs : List Event} {ev : Event} {p q : Plugin} {native slave : String}

theorem Orderly.isRegistered_iff (h : Orderly evs p) :
    p.IsRegistered native slave ↔ ∃ n, p.registry.get? (ReaderName.make native slave) = some n := by
  constructor
  · intro hsome
    obtain ⟨name, n, r, hn, hr, rfl, rfl⟩ := hsome
    obtain ⟨r', hr', hname⟩ := h.stored name n hn
    obtain rfl : r' = r := Option.some.inj (hr'.symm.trans hr)
    rw [← hname] at hn
    exact ⟨n, hn⟩
  · intro hsome
    obtain ⟨n, hn⟩ := hsome
    obtain ⟨r, hr, hname⟩ := h.stored _ n hn
    obtain ⟨hnative, hslave⟩ := ReaderName.make_inj hname
    exact ⟨_, n, r, hn, hr, hnative, hslave⟩

theorem Orderly.create_refused (h : Orderly evs p) (mode : TransmissionMode) (options : Settings)
    (reason : ReaderError) : p.create native slave mode options = .error reason ↔
      p.IsRegistered native slave ∧ reason = .duplicateReader native slave := by
  rw [h.isRegistered_iff]
  rcases create_cases p native slave mode options with ⟨n, hn, heq⟩ | ⟨hfree, heq⟩
  · rw [heq]
    constructor
    · intro hreason
      exact ⟨⟨n, hn⟩, (Except.error.inj hreason).symm⟩
    · intro hsome
      obtain ⟨-, rfl⟩ := hsome
      rfl
  · rw [heq]
    constructor
    · intro hreason
      cases hreason
    · intro hsome
      obtain ⟨⟨n, hn⟩, -⟩ := hsome
      rw [hfree] at hn
      cases hn

theorem Orderly.remove_refused (h : Orderly evs p) (reason : ReaderError) :
    p.remove native slave = .error reason ↔
      ¬ p.IsRegistered native slave ∧ reason = .notFound (ReaderName.make native slave) := by
  rw [h.isRegistered_iff]
  rcases remove_cases p native slave with ⟨hfree, heq⟩ | ⟨n, hn, heq⟩
  · rw [heq]
    constructor
    · intro hreason
      refine ⟨?_, (Except.error.inj hreason).symm⟩
      intro hsome
      obtain ⟨n, hn⟩ := hsome
      rw [hfree] at hn
      cases hn
    · intro hsome
      obtain ⟨-, rfl⟩ := hsome
      rfl
  · rw [heq]
    constructor
    · intro hreason
      cases hreason
    · intro hsome
      obtain ⟨hno, -⟩ := hsome
      exact absurd ⟨n, hn⟩ hno

theorem disconnect_error_iff {reason : ReaderError} :
    p.disconnect native slave = .error reason ↔ p.remove native slave = .error reason := by
  unfold disconnect
  cases p.remove native slave with
  | ok result =>
    constructor
    · intro h
      cases h
    · intro h
      cases h
  | error reason' =>
    constructor
    · intro h
      rw [Except.error.inj h]
    · intro h
      rw [Except.error.inj h]
      rfl

theorem refused_of_step (hs : Step p ev q) (hfails : ev.Fails) : q = p := by
  rcases step_cases hs with ⟨-, rfl⟩ | ⟨native, slave, mode, options, rfl, -, -⟩ |
    ⟨native, slave, n, rfl | rfl, -, -⟩ | ⟨rfl, -⟩
  · rfl
  · exact hfails.elim
  · exact hfails.elim
  · exact hfails.elim
  · exact hfails.elim

theorem observers_clear (a : Audience ReaderEvent) (n : Nat) :
    ((a.clear n).observers n).toList = [] := by
  show ((a.lists.set n .empty).getD n .empty).toList = []
  rw [List.getD_eq_getElem?_getD, List.getElem?_set_self']
  cases a.lists[n]? with
  | none => rfl
  | some l => rfl

/-- What becomes of a reader that is taken out. -/
theorem Orderly.freed (h : Orderly evs p) (hs : Step p ev q) {name : String}
    (hchange : ev.change? = some (name, .readerDisconnected)) :
    ∃ n r, p.registry.get? name = some n ∧ q.registry.get? name = none ∧ q.reader? n = some r ∧
      r.closed = true ∧ (q.readerObservers.observers n).toList = [] := by
  rcases step_cases hs with ⟨hfails, -⟩ | ⟨native, slave, mode, options, rfl, -, -⟩ |
    ⟨native, slave, n, hev, htaken, rfl⟩ | ⟨rfl, -⟩
  · rw [(Event.quiet_of_fails hfails).2] at hchange
    cases hchange
  · cases hchange
  · obtain rfl : ReaderName.make native slave = name := by
      rcases hev with rfl | rfl
      · exact congrArg Prod.fst (Option.some.inj hchange)
      · exact congrArg Prod.fst (Option.some.inj hchange)
    obtain ⟨r, hr, -⟩ := h.stored _ n htaken
    obtain ⟨r', hr', -, hclosed⟩ := unregister_of_reader hr n (ReaderName.make native slave)
    rw [if_pos rfl] at hclosed
    refine ⟨n, r', htaken, ?_, hr', hclosed, observers_clear _ n⟩
    exact (get?_unregister p n _ _).trans (if_pos rfl)
  · cases hchange

/-- No two readers have the same session, if the source does not repeat itself. -/
theorem Orderly.distinct (h : Orderly evs p) (hfresh : Function.Injective p.sessions.ids) :
    ((evs.filterMap Event.session?).map (·.id)).Nodup := by
  have hids : (p.readers.map (·.session)).map (·.id) =
      (List.range p.readers.length).map fun n => p.sessions.ids (n + 1) := by
    refine List.ext_getElem? fun n => ?_
    rw [List.map_map, List.getElem?_map, List.getElem?_map]
    by_cases hn : n < p.readers.length
    · rw [List.getElem?_eq_getElem hn, List.getElem?_range hn]
      exact congrArg some (h.ids n _ (List.getElem?_eq_getElem hn))
    · rw [List.getElem?_eq_none (by omega), List.getElem?_eq_none (by simpa using hn)]
      rfl
  rw [← h.sessions, hids]
  refine List.nodup_range.map fun a b hab => ?_
  exact Nat.succ.inj (hfresh hab)

/-- **The life of readers**: what holds of a plugin after every run, whatever was created, removed
and disconnected, under whatever names, if the source of the ids does not repeat itself. -/
theorem lifecycle {ids : Nat → String} {name address : String} {patience limit : Nat}
    (hfresh : Function.Injective ids)
    (h : Trace Step (new ids name address patience limit) evs p) : Lifecycle evs p := by
  have hO := orderly_of_trace h
  have hdistinct := hO.distinct (by rw [source_of_trace h]; exact hfresh)
  refine ⟨?_, ?_, ?_, ?_, ?_, ?_, ?_, ?_, ?_, hO.sessions, hdistinct, hO.turns, ?_⟩
  · intro name n hn
    obtain ⟨r, hr, rfl⟩ := hO.stored name n hn
    exact ⟨r, hr, rfl, (hO.open_iff n r hr).2 hn⟩
  · intro native slave mode options reason
    exact hO.create_refused mode options reason
  · intro native slave reason
    exact hO.remove_refused reason
  · intro native slave reason
    rw [disconnect_error_iff]
    exact hO.remove_refused reason
  · intro ev q hs hfails
    exact refused_of_step hs hfails
  · intro ev q change hs hchange
    exact announced_of_step hs hchange
  · intro ev q name hs hchange
    exact hO.freed hs hchange
  · intro n r hr hclosed later q hlater
    have hq := closed_of_trace hlater hr hclosed
    refine ⟨hq, fun name hn => ?_⟩
    obtain ⟨r₁, hr₁, -, hclosed₁⟩ := hq
    obtain ⟨r₂, hr₂, rfl⟩ := (orderly_of_trace (h.append hlater)).stored name n hn
    obtain rfl : r₁ = r₂ := Option.some.inj (hr₁.symm.trans hr₂)
    have hopen := ((orderly_of_trace (h.append hlater)).open_iff n r₁ hr₁).2 hn
    rw [hclosed₁] at hopen
    cases hopen
  · have hcount := congrArg List.length hO.sessions
    rw [List.length_map] at hcount
    show UInt64.ofNat p.sessions.issued = _
    rw [hO.issued, hcount]
  · intro name
    rw [(hO.turns name).getLast?_iff]
    exact hO.held name

end Lifecycle

/-- A reader comes, is announced again in vain, goes and comes back; then the application removes it,
and it cannot be removed again. -/
def comingAndGoing : List Event :=
  [.created "R" "S" (.ok ⟨Identifier.session 1, "R", "S", "M"⟩),
   .created "R" "S" (.error (.duplicateReader "R" "S")),
   .removed "R" "S" (.ok 0),
   .created "R" "S" (.ok ⟨Identifier.session 2, "R", "S", "M"⟩),
   .disconnected "R" "S" (.ok ()),
   .removed "R" "S" (.error (.notFound "remote-R-S"))]

theorem lifecycle_comingAndGoing :
    ∃ p, Function.Injective Identifier.session ∧
      Trace Step (new Identifier.session "plugin" "M" 50 1) comingAndGoing p ∧
      Lifecycle comingAndGoing p := by
  have hfresh : Function.Injective Identifier.session := fun _ _ => Identifier.session_inj
  have h₁ : Trace Step (new Identifier.session "plugin" "M" 50 1)
      [.created "R" "S" (.ok ⟨Identifier.session 1, "R", "S", "M"⟩)] _ :=
    .snoc [] _ _ _ .start (.create "R" "S" .contacts .empty)
  have h₂ := Trace.snoc _ _ _ _ h₁ (.create "R" "S" .contacts .empty)
  have h₃ := Trace.snoc _ _ _ _ h₂ (.remove "R" "S")
  have h₄ := Trace.snoc _ _ _ _ h₃ (.create "R" "S" .contactless .empty)
  have h₅ := Trace.snoc _ _ _ _ h₄ (.disconnect "R" "S")
  have h₆ : Trace Step (new Identifier.session "plugin" "M" 50 1) comingAndGoing _ :=
    Trace.snoc _ _ _ _ h₅ (.remove "R" "S")
  exact ⟨_, hfresh, h₆, lifecycle hfresh h₆⟩

end CardLink.Plugin
