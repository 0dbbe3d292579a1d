import CardLink.Proofs.Network.Schedule
import CardLink.Proofs.Virtual.Transparency

/-!
# Events arrive once and in order

The events of a reader travel in the queue of the master, among handshakes, responses and malformed
texts, and those of other readers. Whatever moves are made, and in whatever order: what the observers
of a registered reader have seen of it, and what is still on its way to them, is together what the
slave has sent, in the order in which it was sent.

* `Happening.sentOf`: the events of one reader that the slave sent in a run.
* `Network.onTheWay`: those that the master has not taken yet.
* `Untold`, `untold_of_trace`: before its first event nothing of a reader is seen or on its way.
* `Delivers`, `Delivers.step`, `delivers_of_trace`: what was seen and what is on its way is what was
  sent, after one move and after all of them.
* `Goes.of_connect`, `Move.of_insert`, …: deeds are moves.
* **`Network.events_arrive`**: the main statement, for all runs on a pair.

NOT here: detached nodes, presence monitors, observers that raise events or register others.
-/

namespace CardLink

open Network Plugin

/-! ## 1. Sent and not taken yet -/

/-- The events of a reader that the slave sent, in their order. -/
def Happening.sentOf (native : String) (evs : List Happening) : List ReaderEvent :=
  evs.filterMap fun
    | .sent name event => if name = native then some event else none
    | .other => none

/-- The events of a reader that the master has not taken yet, in their order. -/
def Network.onTheWay (native slave : String) (n : Network) : List ReaderEvent :=
  n.inbox.filterMap (tiding? native slave)

open Happening (sentOf)

section Way

variable {native slave who : String} {n n' : Network} {p : Plugin} {evs evs' : List Happening}
  {wire : String}

theorem sentOf_append : sentOf native (evs ++ evs') = sentOf native evs ++ sentOf native evs' :=
  List.filterMap_append

theorem sentOf_of_other (h : ∀ ev ∈ evs, ev = Happening.other) : sentOf native evs = [] := by
  unfold sentOf
  rw [List.filterMap_eq_nil_iff]
  intro ev hev
  rw [h ev hev]

theorem sentOf_append_others (native : String) (evs : List Happening) {evs' : List Happening}
    (h : ∀ ev ∈ evs', ev = Happening.other) : sentOf native (evs ++ evs') = sentOf native evs := by
  rw [sentOf_append, sentOf_of_other h, List.append_nil]

/-- More texts that carry no event change nothing. -/
theorem onTheWay_append {ws : List String} (hinbox : n'.inbox = n.inbox ++ ws)
    (hsilent : ∀ w ∈ ws, Silent slave w) : n'.onTheWay native slave = n.onTheWay native slave := by
  unfold onTheWay
  rw [hinbox, List.filterMap_append,
    List.filterMap_eq_nil_iff.2 fun w hw => hsilent w hw native, List.append_nil]

/-- The news of a text for the observers of one reader are those of the event that it carries. -/
theorem news_eq (p : Plugin) (native slave who wire : String) :
    p.news wire who (ReaderName.make native slave) =
      p.echo (ReaderName.make native slave) (tiding? native slave wire) who
        (ReaderName.make native slave) := by
  unfold Plugin.news tiding?
  cases Envelope.ofWire wire with
  | error fault => rfl
  | ok e =>
    show p.echo e.readerName (e.tiding? e.route.nativeReader e.route.requester) who _ =
      p.echo _ (e.tiding? native slave) who _
    by_cases hpair : e.route.nativeReader = native ∧ e.route.requester = slave
    · obtain ⟨rfl, rfl⟩ := hpair
      rfl
    · have hname : e.readerName ≠ ReaderName.make native slave :=
        fun hmake => hpair (ReaderName.make_inj hmake)
      have hnone : e.tiding? native slave = none := if_neg fun hall => hpair hall.2.2
      rw [hnone]
      unfold Plugin.echo
      split
      · rw [if_neg hname]
      · rfl

/-- **The observers of a registered reader hear of each event** as often as they are registered. -/
theorem echo_registered {k : Nat} (hk : p.registry.get? (ReaderName.make native slave) = some k)
    (event? : Option ReaderEvent) :
    p.echo (ReaderName.make native slave) event? who (ReaderName.make native slave) =
      event?.toList.flatMap fun event => List.replicate (p.registrations k who)
        (event.passedOn p.name (ReaderName.make native slave)) := by
  cases event? with
  | none => rfl
  | some event =>
    unfold echo
    rw [hk]
    simp

/-- The first text is taken out of the queue, and the event in it is no longer on its way. -/
theorem onTheWay_cons (native slave : String) (hinbox : n.inbox = wire :: n'.inbox) :
    n.onTheWay native slave = (tiding? native slave wire).toList ++ n'.onTheWay native slave := by
  unfold onTheWay
  rw [hinbox]
  cases htiding : tiding? native slave wire with
  | none => rw [List.filterMap_cons_none htiding]; rfl
  | some event => rw [List.filterMap_cons_some htiding]; rfl

/-- A text comes to the end of the queue, and the event in it is the last on its way. -/
theorem onTheWay_snoc (native slave : String) (hinbox : n'.inbox = n.inbox ++ [wire]) :
    n'.onTheWay native slave = n.onTheWay native slave ++ (tiding? native slave wire).toList := by
  unfold onTheWay
  rw [hinbox, List.filterMap_append]
  cases htiding : tiding? native slave wire with
  | none => rw [List.filterMap_cons_none htiding]; rfl
  | some event => rw [List.filterMap_cons_some htiding]; rfl

end Way

/-! ## 2. What moves keep -/

section Run

variable {master station native who plugin : String} {kept : Nat → Prop} {n n' : Network}
  {ev : Happening} {evs : List Happening} {sent : List ReaderEvent} {k times : Nat}

/-- Every move keeps the master and the slave on the hub. -/
theorem Passage.wired (h : Passage master station kept n n' ev) : Wired master station n' := by
  cases h with
  | drift h => exact h.wired
  | sent native event wire htiding hinbox hstill hwired => exact hwired
  | took wire n₁ hinbox hnews hafter => exact hafter.wired
  | arranged hinbox hproceeds hwired => exact hwired

/-- Readers keep their numbers and their observers in every move. -/
theorem Passage.proceeds (hw : Wired master station n) (h : Passage master station kept n n' ev) :
    ∃ news, Plugin.Proceeds kept n.plugin n'.plugin news := by
  cases h with
  | drift h => exact ⟨_, h.still.proceeds hw.tended⟩
  | sent native event wire htiding hinbox hstill hwired => exact ⟨_, hstill.proceeds hw.tended⟩
  | took wire n₁ hinbox hnews hafter =>
    exact ⟨_, hnews.trans (hafter.still.proceeds hnews.tended)⟩
  | arranged hinbox hproceeds hwired => exact ⟨_, hproceeds⟩

theorem wired_of_trace (hw : Wired master station n)
    (h : Trace (Move master station kept) n evs n') : Wired master station n' :=
  h.invariant (I := fun _ n => Wired master station n) hw
    fun _ _ _ _ _ hw hmove => (hw.passage hmove).wired

theorem Network.Goes.wired (h : Goes master station kept n n') (hw : Wired master station n) :
    Wired master station n' := by
  obtain ⟨evs, htrace, -⟩ := h
  exact wired_of_trace hw htrace

theorem name_of_trace (hw : Wired master station n)
    (h : Trace (Move master station kept) n evs n') : n'.plugin.name = n.plugin.name := by
  induction h with
  | start => rfl
  | snoc evs t ev u h hs ih =>
    have ht := wired_of_trace hw h
    obtain ⟨news, hproceeds⟩ := (ht.passage hs).proceeds ht
    exact hproceeds.name.trans ih

/-- **Nothing of a reader is seen or on its way.** -/
structure Untold (native station : String) (n : Network) : Prop where
  way : n.onTheWay native station = []
  heard : ∀ who, heard who (ReaderName.make native station) n.plugin.notes = []

theorem Untold.step (h : Untold native station n) (hp : Passage master station kept n n' ev)
    (hquiet : sentOf native [ev] = []) : Untold native station n' := by
  cases hp with
  | drift hd =>
    obtain ⟨ws, hinbox, hsilent⟩ := hd.inbox
    exact ⟨(onTheWay_append hinbox hsilent).trans h.way,
      fun who => by rw [hd.still.notes, h.heard]⟩
  | sent name event wire htiding hinbox hstill hwired =>
    have hne : name ≠ native := by
      rintro rfl
      simp [sentOf] at hquiet
    refine ⟨?_, fun who => by rw [hstill.notes, h.heard]⟩
    rw [onTheWay_snoc native station hinbox, h.way, htiding, if_neg hne]
    rfl
  | took wire n₁ hinbox hnews hafter =>
    obtain ⟨ws, hinbox', hsilent⟩ := hafter.inbox
    have hway := h.way
    rw [onTheWay_cons native station hinbox, List.append_eq_nil_iff] at hway
    obtain ⟨hfirst, hway⟩ := hway
    have hnone : tiding? native station wire = none := by
      cases htiding : tiding? native station wire with
      | none => rfl
      | some event => simp [htiding] at hfirst
    refine ⟨(onTheWay_append hinbox' hsilent).trans hway, fun who => ?_⟩
    rw [hafter.still.notes, hnews.heard, news_eq, hnone, h.heard]
    rfl
  | arranged hinbox hproceeds hwired =>
    refine ⟨?_, fun who => by rw [hproceeds.heard, h.heard]; rfl⟩
    rw [Network.onTheWay, hinbox]
    exact h.way

/-- **Before its first event nothing of a reader is seen or on its way.** -/
theorem untold_of_trace (hw : Wired master station n) (h0 : Untold native station n)
    (h : Trace (Move master station kept) n evs n') (hquiet : sentOf native evs = []) :
    Untold native station n' := by
  induction h with
  | start => exact h0
  | snoc evs t ev u h hs ih =>
    rw [sentOf_append, List.append_eq_nil_iff] at hquiet
    exact (ih hquiet.1).step ((wired_of_trace hw h).passage hs) hquiet.2

/-! ## 3. Seen, or on its way -/

/-- **What was sent of the reader with the number `k`** was seen by the observers named `who`, each
event as many `times` as they are registered, or is on its way. -/
structure Delivers (native station plugin who : String) (k times : Nat) (sent : List ReaderEvent)
    (n : Network) : Prop where
  name : n.plugin.name = plugin
  registrations : n.plugin.registrations k who = times
  seen : ∃ seen, sent = seen ++ n.onTheWay native station ∧
    heard who (ReaderName.make native station) n.plugin.notes =
      seen.flatMap fun event =>
        List.replicate times (event.passedOn plugin (ReaderName.make native station))

/-- Observers of a registered reader that are kept are registered as often as before. -/
theorem Plugin.Proceeds.registrations {p q : Plugin} {news : String → String → List ReaderEvent}
    (h : Proceeds kept p q news) (hp : p.Tended) (hkept : kept k) {name : String}
    (hk : p.registry.get? name = some k) (hk' : q.registry.get? name = some k) (who : String) :
    q.registrations k who = p.registrations k who := by
  unfold Plugin.registrations
  rw [h.listeners name k hkept hk' (hp.number_lt hk)]

/-- **One move**: an event that is sent is the last on its way, and one that is taken is the last
that was seen. -/
theorem Delivers.step (hw : Wired master station n) (hkept : kept k)
    (hk : n.plugin.registry.get? (ReaderName.make native station) = some k)
    (hk' : n'.plugin.registry.get? (ReaderName.make native station) = some k)
    (h : Delivers native station plugin who k times sent n)
    (hp : Passage master station kept n n' ev) :
    Delivers native station plugin who k times (sent ++ sentOf native [ev]) n' := by
  obtain ⟨news, hproceeds⟩ := hp.proceeds hw
  have hname := hproceeds.name.trans h.name
  have hregistrations := (hproceeds.registrations hw.tended hkept hk hk' who).trans h.registrations
  obtain ⟨seen, hsent, hheard⟩ := h.seen
  cases hp with
  | drift hd =>
    obtain ⟨ws, hinbox, hsilent⟩ := hd.inbox
    refine ⟨hname, hregistrations, seen, ?_, by rw [hd.still.notes, hheard]⟩
    rw [onTheWay_append hinbox hsilent, hsent, sentOf_of_other (by simp), List.append_nil]
  | sent name event wire htiding hinbox hstill hwired =>
    refine ⟨hname, hregistrations, seen, ?_, by rw [hstill.notes, hheard]⟩
    have hlast : sentOf native [.sent name event] = (tiding? native station wire).toList := by
      rw [htiding]
      by_cases heq : name = native <;> simp [sentOf, heq]
    rw [onTheWay_snoc native station hinbox, hsent, hlast, List.append_assoc]
  | took wire n₁ hinbox hnews hafter =>
    obtain ⟨ws, hinbox', hsilent⟩ := hafter.inbox
    refine ⟨hname, hregistrations, seen ++ (tiding? native station wire).toList, ?_, ?_⟩
    · rw [onTheWay_append hinbox' hsilent, hsent, onTheWay_cons native station hinbox,
        sentOf_of_other (by simp), List.append_nil, List.append_assoc]
    · rw [hafter.still.notes, hnews.heard, hheard, news_eq, echo_registered hk, List.flatMap_append,
        h.registrations, h.name]
  | arranged hinbox hproceeds hwired =>
    refine ⟨hname, hregistrations, seen, ?_, ?_⟩
    · rw [Network.onTheWay, hinbox, sentOf_of_other (by simp), List.append_nil]
      exact hsent
    · rw [hproceeds.heard, hheard, Plugin.noNews, List.append_nil]

/-- **All moves**, while the reader stays registered. -/
theorem delivers_of_trace (hw : Wired master station n) (hkept : kept k)
    (hk : n.plugin.registry.get? (ReaderName.make native station) = some k)
    (h0 : Delivers native station plugin who k times [] n)
    (h : Trace (Move master station kept) n evs n')
    (hk' : n'.plugin.registry.get? (ReaderName.make native station) = some k) :
    Delivers native station plugin who k times (sentOf native evs) n' := by
  -- a reader that has its number at the end had it all the time, as no number is used again
  have hall : n.plugin.readers.length ≤ n'.plugin.readers.length ∧
      (n'.plugin.registry.get? (ReaderName.make native station) = some k →
        Delivers native station plugin who k times (sentOf native evs) n') := by
    clear hk'
    induction h with
    | start => exact ⟨Nat.le_refl _, fun _ => h0⟩
    | snoc evs t ev u h hs ih =>
      have ht := wired_of_trace hw h
      have hp := ht.passage hs
      obtain ⟨news, hproceeds⟩ := hp.proceeds ht
      obtain ⟨hnumbers, hdelivers⟩ := ih
      refine ⟨Nat.le_trans hnumbers hproceeds.numbers, fun hku => ?_⟩
      have hlt := Nat.lt_of_lt_of_le (hw.tended.number_lt hk) hnumbers
      have hkt := hproceeds.registered _ k hku hlt
      rw [sentOf_append]
      exact (hdelivers hkt).step ht hkept hkt hku hp
  exact hall.2 hk'

end Run

/-! ## 4. The new pair -/

section Pair

variable {config : Config} {slave : String} {n : Network}

/-- A pair has its master and its slave on the hub. -/
theorem wired_of_pair (hpair : pair config slave = .ok n) (hne : config.nodeId ≠ slave) :
    Wired config.nodeId slave n := by
  obtain ⟨-, b, rfl⟩ := pair_stage hpair
  refine ⟨⟨_, _, rfl, rfl, rfl, fun node => ?_⟩, ⟨_, rfl, rfl, rfl⟩, fun t ht => ?_, ?_, ?_, ?_⟩
  · show ((Table.empty.insert config.nodeId 0).insert slave 1).get? node = some 0 ↔ _
    rw [Table.get?_insert, Table.get?_insert]
    by_cases hslave : slave = node
    · simp [hslave, hslave ▸ hne.symm]
    · simp [hslave, eq_comm]
  · have hpumps : t = ⟨0, .pump 0 .master, none⟩ ∨ t = ⟨1, .pump 1 (.slave 0), none⟩ := by
      simpa [stage, opening] using ht
    rcases hpumps with rfl | rfl
    · simp [Job.Benign]
    · simp [Job.Benign]
  · exact ⟨[], orderly_new _ _ _ _ _⟩
  · exact ⟨fun w hw => absurd hw List.not_mem_nil, rfl⟩
  · exact ⟨fun w hw => absurd hw List.not_mem_nil, rfl⟩

theorem untold_of_pair (hpair : pair config slave = .ok n) (native : String) :
    Untold native slave n ∧ n.plugin.name = config.pluginName := by
  obtain ⟨-, b, rfl⟩ := pair_stage hpair
  exact ⟨⟨rfl, fun _ => rfl⟩, rfl⟩

end Pair

/-! ## 5. Deeds are moves -/

section Deeds

variable {master station : String} {kept : Nat → Prop} {n n' : Network} {o : Deed.Outcome}
  {native : String} {sl : Slave} {x : NativeReader}

theorem Network.Goes.of_connect {mode : TransmissionMode}
    (h : n.perform (.connect native mode) = (o, n')) : Goes master station kept n n' := by
  obtain rfl : _ = n' := congrArg Prod.snd h
  exact (Goes.move (.connect native mode)).trans (.await _ _)

theorem Network.Goes.of_pass {ms : Nat} (h : n.perform (.pass ms) = (o, n')) :
    Goes master station kept n n' := by
  obtain rfl : _ = n' := congrArg Prod.snd h
  exact .runUntil _ n

/-- The application puts other observers in the place of those that are not kept. -/
theorem Network.Goes.of_attend {a : Audience ReaderEvent} (hw : Wired master station n)
    (ha : a.Passive)
    (hkept : ∀ k, kept k → a.listeners k = n.plugin.readerObservers.listeners k)
    (h : n.perform (.attend fun h => { h with readerObservers := a }) = (o, n')) :
    Goes master station kept n n' := by
  obtain rfl : _ = n' := congrArg Prod.snd h
  exact .move (.attend a n.plugin.pluginObservers ha hw.tended.attended.plugin hkept)

theorem Network.Move.of_insert {card : SimulatedCard} (hslave : n.slave? 0 = some sl)
    (hx : sl.reader? native = some x) (h : n.perform (.insert native card) = (o, n')) :
    Move master station kept n
      (.sent native ⟨Slave.pluginName, native, .inserted, x.inside.reaction card⟩) n' := by
  obtain rfl : _ = n' := congrArg Prod.snd h
  exact .insert native card _ sl _ hslave (Slave.insertCard_of_reader hx card)

theorem Network.Move.of_remove (hslave : n.slave? 0 = some sl) (hx : sl.reader? native = some x)
    (h : n.perform (.remove native) = (o, n')) :
    Move master station kept n (.sent native (.plain Slave.pluginName native .removed)) n' := by
  obtain rfl : _ = n' := congrArg Prod.snd h
  exact .remove native _ sl _ hslave (Slave.removeCard_of_reader hx)

/-- The queue of the master is empty when nothing is pending on the desk. -/
theorem Mirrors.inbox {s : Scene} {d : Desk} (h : Mirrors master s d) (hpending : d.pending = [])
    (b : Backstage) : (stage master d.station b s).inbox = [] := by
  obtain ⟨xs, htexts, hxs⟩ := h.backlog
  rw [hpending] at hxs
  cases hxs
  exact htexts

end Deeds

/-! ## 6. The main statement -/

/-- **What was sent of a reader arrives** at its observers named `who`, who are registered so many
`times`. -/
structure Arrives (native slave plugin who : String) (times : Nat) (sent : List ReaderEvent)
    (n : Network) : Prop where
  /-- each event was seen or is on its way, and nothing else was seen -/
  told : ∃ seen, sent = seen ++ n.onTheWay native slave ∧
    heard who (ReaderName.make native slave) n.plugin.notes =
      seen.flatMap fun event =>
        List.replicate times (event.passedOn plugin (ReaderName.make native slave))
  /-- one that is registered once saw the first events, each once and in their order -/
  prompt : times = 1 → heard who (ReaderName.make native slave) n.plugin.notes <+:
    sent.map (·.passedOn plugin (ReaderName.make native slave))
  /-- and all of them, once the queue of the master is empty -/
  complete : times = 1 → n.inbox = [] →
    heard who (ReaderName.make native slave) n.plugin.notes =
      sent.map (·.passedOn plugin (ReaderName.make native slave))

theorem Delivers.arrives {native slave plugin who : String} {k times : Nat}
    {sent : List ReaderEvent} {n : Network} (h : Delivers native slave plugin who k times sent n) :
    Arrives native slave plugin who times sent n := by
  obtain ⟨seen, hsent, hheard⟩ := h.seen
  have honce : times = 1 → heard who (ReaderName.make native slave) n.plugin.notes =
      seen.map (·.passedOn plugin (ReaderName.make native slave)) := by
    intro htimes
    rw [hheard, htimes, List.map_eq_flatMap]
    rfl
  refine ⟨⟨seen, hsent, hheard⟩, fun htimes => ?_, fun htimes hinbox => ?_⟩
  · rw [honce htimes, hsent, List.map_append]
    exact List.prefix_append _ _
  · have hnone : n.onTheWay native slave = [] := by
      rw [Network.onTheWay, hinbox]
      rfl
    rw [honce htimes, hsent, hnone, List.append_nil]

namespace Network

/-- **Events arrive once and in order.** In the moves `before` no event of the reader is sent, and
observers may come and go; in the moves `after` those of the `kept` readers stay, and the reader stays
registered. At the end of any such run every observer has seen the events that the slave sent, as
those of the virtual reader, up to the ones that the master has not taken yet. -/
theorem events_arrive {config : Config} {slave : String} {kept : Nat → Prop} {n₀ m n : Network}
    {before after : List Happening} {native : String} {k : Nat}
    (hpair : pair config slave = .ok n₀) (hne : config.nodeId ≠ slave)
    (hbefore : Trace (Move config.nodeId slave fun _ => False) n₀ before m)
    (hquiet : sentOf native before = [])
    (hafter : Trace (Move config.nodeId slave kept) m after n) (hkept : kept k)
    (hfound : m.plugin.findRemote native slave = .ok k)
    (hstays : n.plugin.findRemote native slave = .ok k) (who : String) :
    Arrives native slave config.pluginName who (m.plugin.registrations k who)
      (sentOf native after) n := by
  have hw := wired_of_pair hpair hne
  obtain ⟨huntold, hname⟩ := untold_of_pair hpair native
  have hm := untold_of_trace hw huntold hbefore hquiet
  have hstart : Delivers native slave config.pluginName who k (m.plugin.registrations k who) [] m :=
    ⟨(name_of_trace hw hbefore).trans hname, rfl, [], hm.way.symm, hm.heard who⟩
  exact (delivers_of_trace (wired_of_trace hw hbefore) hkept
    ((m.plugin.findRemote_eq_ok native slave).1 hfound) hstart hafter
    ((n.plugin.findRemote_eq_ok native slave).1 hstays)).arrives

/-- An observer that breaks down over every event, and one that takes note of it. -/
def mixedAudience : Audience ReaderEvent :=
  { watchers := [⟨"bad", 0, .panic none⟩, ⟨"app", 0, .record⟩]
    named := (Table.empty.insert "bad" 0).insert "app" 1
    lists := [(ObserverList.empty.add 0).add 1]
    notes := []
    complaints := [] }

theorem mixedAudience_passive : mixedAudience.Passive where
  reactions w hw := by
    have hwatchers : w = ⟨"bad", 0, .panic none⟩ ∨ w = ⟨"app", 0, .record⟩ := by
      simpa [mixedAudience] using hw
    rcases hwatchers with rfl | rfl
    · trivial
    · trivial
  collected := rfl

/-- The desk with one reader that this audience observes. -/
def observedDesk : Desk :=
  let d := (Desk.new .default "S").flush.enroll "R"
  { d with hearing := { d.hearing with readerObservers := mixedAudience } }

/-- The reader is announced and observed before the first event. -/
theorem goes_observedDesk {n₀ : Network} (hpair : pair .default "S" = .ok n₀) :
    ∃ b s, Goes Config.default.nodeId "S" (fun _ => False) n₀
        (stage Config.default.nodeId "S" b s) ∧
      Mirrors Config.default.nodeId s observedDesk := by
  have hne : Config.default.nodeId ≠ "S" := by decide
  obtain ⟨b₀, s₀, hsettle, h₀⟩ := pair_mirrors hpair hne
  have hfree : (Desk.new .default "S").readers.get? "R" = none := rfl
  obtain ⟨b₁, s₁, hconnect, h₁⟩ := h₀.connect hne hfree .contacts b₀
  have hopen : Goes Config.default.nodeId "S" (fun _ => False) n₀
      (stage Config.default.nodeId "S" b₁ s₁) := by
    refine (Goes.settle n₀).trans ?_
    rw [hsettle]
    exact .of_connect hconnect
  obtain ⟨b, s, hattend, h⟩ := h₁.attend (fun h => { h with readerObservers := mixedAudience }) b₁
  have hwired := hopen.wired (wired_of_pair hpair hne)
  exact ⟨b, s, hopen.trans
    (.of_attend hwired mixedAudience_passive (fun _ hfalse => hfalse.elim) hattend), h⟩

/-- A card is put in and taken out again, and the master takes both notices. -/
theorem events_arrive_mixedAudience :
    ∃ n₀ before m after n, pair .default "S" = .ok n₀ ∧
      Trace (Move Config.default.nodeId "S" fun _ => False) n₀ before m ∧
      Trace (Move Config.default.nodeId "S" (· = 0)) m after n ∧
      sentOf "R" after = [.plain Slave.pluginName "R" .inserted,
        .plain Slave.pluginName "R" .removed] ∧
      heard "app" "remote-R-S" n.plugin.notes =
        [.plain "RemoteSePlugin" "remote-R-S" .inserted,
          .plain "RemoteSePlugin" "remote-R-S" .removed] := by
  obtain ⟨n₀, hpair⟩ : ∃ n₀, pair .default "S" = .ok n₀ := ⟨_, rfl⟩
  have hne : Config.default.nodeId ≠ "S" := by decide
  obtain ⟨b, s, ⟨before, hbefore, hquiet⟩, h⟩ := goes_observedDesk hpair
  have honce : (stage Config.default.nodeId "S" b s).plugin.registrations 0 "app" = 1 := by
    unfold registrations
    rw [show (stage Config.default.nodeId "S" b s).plugin.readerObservers = mixedAudience from
      congrArg Hearing.readerObservers h.manages.hearing]
    rfl
  have hput : observedDesk.readers.get? "R" = some (0, .empty) := rfl
  obtain ⟨x, hx, hempty⟩ := (h.stands "R" 0 .empty hput).there
  obtain ⟨b₁, s₁, hinsert, h₁⟩ := h.insert hne hput ⟨[0x3B], [0xA0]⟩ b
  obtain ⟨y, hy, -⟩ := (h₁.stands "R" 0 _ rfl).there
  obtain ⟨b₂, s₂, hremove, h₂⟩ : ∃ b t, (stage Config.default.nodeId "S" b₁ s₁).perform
      (.remove "R") = (.sent (.ok ()), stage Config.default.nodeId "S" b t) ∧
        Mirrors Config.default.nodeId t _ := h₁.remove hne rfl b₁
  obtain ⟨b₃, s₃, hpass, h₃⟩ := h₂.pass hne 0 b₂
  obtain ⟨later, hlater, hothers⟩ : Goes Config.default.nodeId "S" (· = 0)
    (stage Config.default.nodeId "S" b₂ s₂) (stage Config.default.nodeId "S" b₃ s₃) :=
      .of_pass hpass
  have hafter := (Trace.snoc _ _ _ _ (.snoc [] _ _ _ .start (.of_insert rfl hx hinsert))
    (.of_remove rfl hy hremove)).append hlater
  rw [hempty] at hafter
  have hstays : (stage Config.default.nodeId "S" b₃ s₃).plugin.findRemote "R" "S" = .ok 0 :=
    h₃.find rfl
  have harrives := events_arrive hpair hne hbefore (sentOf_of_other hquiet) hafter rfl
    (h.find hput) hstays "app"
  refine ⟨n₀, before, _, _, _, hpair, hbefore, hafter, ?_, ?_⟩
  · rw [sentOf_append_others "R" _ hothers]
    rfl
  · refine (harrives.complete honce (h₃.inbox rfl b₃)).trans ?_
    rw [sentOf_append_others "R" _ hothers]
    rfl

end Network

end CardLink
