import CardLink.Proofs.Virtual.Deeds

/-!
# Virtual readers are transparent

Whatever is done to a master and its slave, one deed after the other, has the outcome that it has on
the desk: readers of the slave that are used through the master answer as local ones, both sides hold
the same default selection, and the observers are told what a local reader would tell them.

* `Network.perform_mirrors`, `Network.performAll_mirrors`: one deed, and all of them.
* `Network.pair_mirrors`: a new pair mirrors the empty desk.
* `Network.Shows`: what can be seen of a desk on a network.
* **`Network.transparent`**: the main statement, for all deeds on a pair.
-/

namespace CardLink

/-- What a configuration that keeps the rules is good for. -/
theorem Config.positive_of_validate {config : Config} (h : config.validate = .ok ()) :
    1 ≤ config.rpcTimeoutMs ∧ 1 ≤ config.maxPendingCalls := by
  have hfault : config.fault? = none := by
    unfold Config.validate at h
    split at h
    · cases h
    · assumption
  unfold Config.fault? at hfault
  split at hfault
  · cases hfault
  split at hfault
  · cases hfault
  split at hfault
  · cases hfault
  exact ⟨by omega, by omega⟩

namespace Network

section Run

variable {master : String} {s : Scene} {d d' : Desk}

/-! ## 1. From deed to deed -/

/-- **A deed has its outcome on the desk.** -/
theorem perform_mirrors {deed : Deed} {o : Deed.Outcome} (h : Mirrors master s d)
    (hne : master ≠ d.station) (hact : d.act deed = some (o, d')) (b : Backstage) :
    d'.station = d.station ∧ ∃ b' t, (stage master d.station b s).perform deed =
      (o, stage master d.station b' t) ∧ Mirrors master t d' := by
  cases deed with
  | connect native mode =>
    cases hr : d.readers.get? native with
    | some e => simp [Desk.act, hr] at hact
    | none =>
      simp only [Desk.act, hr, Option.some.injEq] at hact
      obtain ⟨rfl, rfl⟩ := Prod.mk.inj hact
      exact ⟨rfl, h.connect hne hr mode b⟩
  | insert native card =>
    obtain ⟨⟨r, l⟩, hr, heq⟩ := Option.map_eq_some_iff.1 hact
    obtain ⟨rfl, rfl⟩ := Prod.mk.inj heq
    exact ⟨rfl, h.insert hne hr card b⟩
  | remove native =>
    obtain ⟨⟨r, l⟩, hr, heq⟩ := Option.map_eq_some_iff.1 hact
    obtain ⟨rfl, rfl⟩ := Prod.mk.inj heq
    exact ⟨rfl, h.remove hne hr b⟩
  | operate native op =>
    obtain ⟨⟨r, l⟩, hr, heq⟩ := Option.map_eq_some_iff.1 hact
    obtain ⟨rfl, rfl⟩ := Prod.mk.inj heq
    exact ⟨rfl, h.operate hne hr op b⟩
  | pass ms =>
    obtain ⟨rfl, rfl⟩ := Prod.mk.inj (Option.some.inj hact)
    exact ⟨rfl, h.pass hne ms b⟩
  | pace ms =>
    by_cases hms : ms < d.patience
    · simp only [Desk.act, if_pos hms, Option.some.injEq] at hact
      obtain ⟨rfl, rfl⟩ := Prod.mk.inj hact
      exact ⟨rfl, h.pace hms b⟩
    · simp [Desk.act, hms] at hact
  | attend change =>
    obtain ⟨rfl, rfl⟩ := Prod.mk.inj (Option.some.inj hact)
    exact ⟨rfl, h.attend change b⟩

/-- **All deeds have their outcomes on the desk.** -/
theorem performAll_mirrors {deeds : List Deed} {os : List Deed.Outcome} (h : Mirrors master s d)
    (hne : master ≠ d.station) (hact : d.actAll deeds = some (os, d')) (b : Backstage) :
    d'.station = d.station ∧ ∃ b' t, (stage master d.station b s).performAll deeds =
      (os, stage master d.station b' t) ∧ Mirrors master t d' := by
  -- the relation is kept by each deed, whatever the counters behind the stage say then
  induction deeds generalizing s d os b with
  | nil =>
    obtain ⟨rfl, rfl⟩ := Prod.mk.inj (Option.some.inj hact)
    exact ⟨rfl, b, s, rfl, h⟩
  | cons deed deeds ih =>
    obtain ⟨⟨o, d₁⟩, hfirst, hrest⟩ := Option.bind_eq_some_iff.1 hact
    obtain ⟨⟨os₁, d₂⟩, hall, heq⟩ := Option.bind_eq_some_iff.1 hrest
    obtain ⟨rfl, rfl⟩ := Prod.mk.inj (Option.some.inj heq)
    obtain ⟨hstation, b₁, t₁, hperform, h₁⟩ := perform_mirrors h hne hfirst b
    rw [← hstation] at hne hperform ⊢
    obtain ⟨hstation₂, b₂, t₂, hperformAll, h₂⟩ := ih h₁ hne hall b₁
    refine ⟨hstation₂, b₂, t₂, ?_, h₂⟩
    simp only [performAll, hperform, hperformAll]

end Run

/-! ## 2. The new pair -/

/-- A master and a slave before anything is done. -/
def opening (config : Config) (slave : String) : Scene :=
  { now := 0
    others := []
    ready := []
    nextId := 2
    nextOrder := 0
    toMaster := []
    toSlave := []
    plugin := .new Identifier.session config.pluginName config.nodeId config.rpcTimeoutMs
      config.maxPendingCalls
    slave := .new slave config.nodeId
    client := .idle
    callIds := Identifier.call
    freshIds := 0
    results := [] }

/-- A pair is a stage on which the two receivers are about to begin. -/
theorem pair_stage {config : Config} {slave : String} {n : Network}
    (hpair : pair config slave = .ok n) :
    config.validate = .ok () ∧ ∃ b, n = stage config.nodeId slave b
      { opening config slave with ready := [0, 1] } := by
  unfold pair Node.new at hpair
  cases hvalid : config.validate with
  | error e =>
    rw [hvalid] at hpair
    cases hpair
  | ok u =>
    rw [hvalid] at hpair
    obtain rfl := Except.ok.inj hpair
    exact ⟨rfl, ⟨config, .zero, .new Node.family, .new Hub.defaultFamily, .empty⟩, rfl⟩

theorem opening_mirrors {config : Config} (slave : String) (hvalid : config.validate = .ok ()) :
    Mirrors config.nodeId (opening config slave) (Desk.new config slave) := by
  obtain ⟨hpatience, hroom⟩ := Config.positive_of_validate hvalid
  refine ⟨⟨rfl, rfl, rfl, Nat.le_refl 2, fun _ he => absurd he List.not_mem_nil⟩,
    ⟨rfl, rfl, rfl, hroom, rfl, rfl, rfl, rfl, rfl⟩, ⟨rfl, rfl, rfl, hpatience, ?_⟩, ⟨[], rfl, .nil⟩,
    fun _ _ _ h => ?_, fun _ _ => ⟨rfl, rfl⟩⟩
  · exact Engine.idle_new (by decide) Slave.patience
  · cases h

/-- **A new pair mirrors the empty desk** once its receivers wait. -/
theorem pair_mirrors {config : Config} {slave : String} {n : Network}
    (hpair : pair config slave = .ok n) (hne : config.nodeId ≠ slave) :
    ∃ b s, n.settle = stage config.nodeId slave b s ∧
      Mirrors config.nodeId s (Desk.new config slave) := by
  obtain ⟨hvalid, b, rfl⟩ := pair_stage hpair
  have hopening := opening_mirrors slave hvalid
  have hmaster := leads_master_idle (s := { opening config slave with ready := [0, 1] }) hne
    (Scene.plain_alone rfl) (Scene.awake_alone rfl) rfl
  have hslave := leads_slave_idle (s := { opening config slave with ready := [1] }) hne
    (Scene.plain_alone rfl) (Scene.awake_alone rfl) rfl
  have hquiet : (opening config slave).Quiet := quiet_of_calm hopening.calm rfl
  have hbudget : 1 + 1 ≤ 64 * (0 + 0 + 0 + 3) := by omega
  obtain ⟨b', hsettle⟩ := settle_of_leads hne (hmaster.trans hslave) hquiet hbudget b
  exact ⟨b', _, hsettle, hopening⟩

/-! ## 3. The main statement -/

/-- **What can be seen of a desk on a network**: the observers, and each reader on both sides. -/
structure Shows (n : Network) (d : Desk) : Prop where
  /-- the observers noted the same -/
  hearing : n.plugin.hearing = d.hearing
  /-- the application finds the virtual reader -/
  found : ∀ native r l, d.readers.get? native = some (r, l) →
    n.plugin.findRemote native d.station = .ok r
  /-- the selection on the virtual reader -/
  here : ∀ native r l, d.readers.get? native = some (r, l) →
    (n.plugin.reader? r).map (·.selection) = some l.selection
  /-- the card and the selection on the slave -/
  there : ∀ native r l, d.readers.get? native = some (r, l) →
    ((n.slave? 0).bind (·.reader? native)).map (·.inside) = some l

theorem shows_of_mirrors {master : String} {s : Scene} {d : Desk} (h : Mirrors master s d)
    (b : Backstage) : Shows (stage master d.station b s) d where
  hearing := h.manages.hearing
  found _ _ _ hr := h.find hr
  here native r l hr := by
    obtain ⟨reader, hreader, hattached⟩ := (h.stands native r l hr).here
    show (s.plugin.reader? r).map _ = _
    rw [hreader, ← hattached.selection]
    rfl
  there native r l hr := by
    obtain ⟨x, hx, hinside⟩ := (h.stands native r l hr).there
    show (s.slave.reader? native).map _ = _
    rw [hx, ← hinside]
    rfl

/-- **Virtual readers are transparent**: all deeds on a pair have their outcomes on the desk, what can
be seen afterwards is what is seen of the desk, and one request alone is answered as in a list. -/
theorem transparent {config : Config} {slave : String} {n : Network} {deeds : List Deed}
    {os : List Deed.Outcome} {d : Desk} (hpair : pair config slave = .ok n)
    (hne : config.nodeId ≠ slave) (hdesk : (Desk.new config slave).actAll deeds = some (os, d)) :
    ∃ n', n.settle.performAll deeds = (os, n') ∧ n'.Shows d ∧
      ∀ native r l, d.readers.get? native = some (r, l) → ∀ q, ∃ a,
        (n'.perform (.operate native (.transmitOne q))).1 =
          .ended (some (.answer (.ok (.response a)))) ∧
        (n'.perform (.operate native (.transmit [q]))).1 =
          .ended (some (.answer (.ok (.responses [a])))) := by
  obtain ⟨b, s, hsettle, hempty⟩ := pair_mirrors hpair hne
  obtain ⟨hstation, b', t, hperformAll, hmirrors⟩ := performAll_mirrors hempty hne hdesk b
  have hne' : config.nodeId ≠ d.station := by
    rw [hstation]
    exact hne
  refine ⟨stage config.nodeId d.station b' t, ?_, shows_of_mirrors hmirrors b', ?_⟩
  · rw [hsettle, hstation]
    exact hperformAll
  · intro native r l hr q
    obtain ⟨_, _, hone, -⟩ := hmirrors.operate hne' hr (.transmitOne q) b'
    obtain ⟨_, _, hlist, -⟩ := hmirrors.operate hne' hr (.transmit [q]) b'
    exact ⟨l.process q, by rw [hone]; rfl, by rw [hlist]; rfl⟩

def firstQuery : CardRequest := ⟨some ⟨some [0xA0], none⟩, [], .keepOpen⟩

def firstAnswer : CardResponse := ⟨true, false, some ⟨some [0x3B], some [0xA0], true⟩, []⟩

/-- A reader is announced and observed and gets a default selection; then a card is put in and
asked. -/
def firstUse : List Deed :=
  [.connect "R" .contacts,
   .attend fun h =>
     { h with
       readerObservers := (h.readerObservers.make ⟨"app", 0, .record⟩).withObservers 0
         (ObserverList.empty.add 0) },
   .operate "R" (.select ⟨[firstQuery], .always⟩),
   .insert "R" ⟨[0x3B], [0xA0]⟩,
   .operate "R" (.transmit [firstQuery])]

theorem transparent_firstUse :
    ∃ n n', pair .default "S" = .ok n ∧
      n.settle.performAll firstUse =
        ([.ended (some (.connected (.ok (Identifier.session 1)))),
          .done,
          .ended (some (.answer (.ok .selected))),
          .sent (.ok ()),
          .ended (some (.answer (.ok (.responses [some firstAnswer]))))], n') ∧
      n'.plugin.notes = [.told "app" (.reader
        ⟨"RemoteSePlugin", "remote-R-S", .inserted, some [some firstAnswer]⟩)] := by
  have hpair : pair .default "S" = .ok _ := rfl
  have hdesk : (Desk.new .default "S").actAll firstUse = some (_, _) := rfl
  obtain ⟨n', hall, hshows, -⟩ := transparent hpair (by decide) hdesk
  have hnotes := congrArg Hearing.notes hshows.hearing
  exact ⟨_, n', hpair, hall, hnotes⟩

end Network

end CardLink
