import CardLink.Proofs.Node.Dispatch

/-!
# Whose call a response resolves

Ids of calls are chosen for each reader apart, so calls with one id may wait at several readers. A
response goes to the reader that it names if a call with its id waits there, and to the first reader
in the order of names at which one waits otherwise. It resolves that one call. If no call with its id
waits at a registered reader it changes nothing. What waits at a reader that was removed waits in
vain.

* `Plugin.Owner`: the reader that a response belongs to; `owner_of_owner?`, `owner?_eq_none_iff`.
* `Plugin.Resolved`: one call has its response, and all else is as it was.
* **`Node.dispatch_step`**: a dispatch is one step of the plugin.
* `Node.reader?_dispatch`: a dispatch leaves a reader alone that is not registered.
* **`Node.responses_routed`**: the routing of responses in every state that a plugin comes to.
-/

namespace CardLink

namespace Plugin

/-! ## 1. The owner of a response -/

/-- The key of the call that waits under this id at the reader with this number. -/
def record? (p : Plugin) (k : Nat) (id : String) : Option Nat :=
  (p.engine? k).bind (·.pending.get? id)

/-- A call with this id waits at the reader that is registered under this name. -/
def WaitsAt (p : Plugin) (id name : String) : Prop :=
  ∃ k key, p.registry.get? name = some k ∧ p.record? k id = some key

/-- **The reader that a response belongs to**: the one that it names, if a call with its id waits
there, and otherwise the first in the order of names at which one waits. -/
structure Owner (p : Plugin) (wanted id name : String) : Prop where
  waits : p.WaitsAt id name
  named : p.WaitsAt id wanted → name = wanted
  first : ¬ p.WaitsAt id wanted → ∀ name', p.WaitsAt id name' → name ≤ name'

/-- **The call that waits at one reader has its response** and waits no longer. All other records and
all else in the plugin are as before. -/
structure Resolved (p q : Plugin) (k : Nat) (id : String) (response : Envelope) : Prop where
  /-- the call, the only one with its key, takes the response -/
  call : ∃ engine c, p.engine? k = some engine ∧ c ∈ engine.calls ∧ c.id = id ∧
    c.mailbox = .empty ∧ p.record? k id = some c.key ∧
    (∀ d ∈ engine.calls, d.key = c.key → d = c) ∧
    q.engine? k = some (engine.delivering id c.key response)
  records : ∀ m id', q.record? m id' = if m = k ∧ id' = id then none else p.record? m id'
  reader : ∃ r r', p.reader? k = some r ∧ q.reader? k = some r' ∧
    r' = { r with engine := r'.engine }
  others : ∀ m, m ≠ k → q.reader? m = p.reader? m
  rest : q = { p with readers := q.readers }

section Owner

variable {p : Plugin} {wanted id name name' : String} {k : Nat}

theorem isPendingAt_iff : p.isPendingAt id k = true ↔ ∃ key, p.record? k id = some key := by
  unfold isPendingAt record? engine?
  cases p.reader? k with
  | none => simp
  | some r => simp [Engine.isPending, Table.contains, Option.isSome_iff_exists]

theorem waitsAt_iff :
    p.WaitsAt id name ↔ ∃ k, p.registry.get? name = some k ∧ p.isPendingAt id k = true := by
  constructor
  · intro hsome
    obtain ⟨k, key, hk, hkey⟩ := hsome
    exact ⟨k, hk, isPendingAt_iff.2 ⟨key, hkey⟩⟩
  · intro hsome
    obtain ⟨k, hk, hpending⟩ := hsome
    obtain ⟨key, hkey⟩ := isPendingAt_iff.1 hpending
    exact ⟨k, key, hk, hkey⟩

/-- There is but one owner. -/
theorem Owner.unique (h : p.Owner wanted id name) (h' : p.Owner wanted id name') :
    name = name' := by
  by_cases hnamed : p.WaitsAt id wanted
  · rw [h.named hnamed, h'.named hnamed]
  · exact Std.le_antisymm (h.first hnamed name' h'.waits) (h'.first hnamed name h.waits)

/-- The scan finds the first reader in the order of names. -/
theorem first_of_findPending? (h : p.findPending? id = some k) :
    ∃ name, p.registry.get? name = some k ∧ p.isPendingAt id k = true ∧
      ∀ name', p.WaitsAt id name' → name ≤ name' := by
  obtain ⟨name, hname, hfirst⟩ := Table.find?_values h
  refine ⟨name, hname, List.find?_some h, fun name' hwaits => ?_⟩
  obtain ⟨k', hk', hpending⟩ := waitsAt_iff.1 hwaits
  exact hfirst name' k' hk' hpending

theorem findPending?_eq_none_iff :
    p.findPending? id = none ↔ ∀ name, ¬ p.WaitsAt id name := by
  unfold findPending?
  rw [List.find?_eq_none]
  constructor
  · intro hnone name hwaits
    obtain ⟨k, hk, hpending⟩ := waitsAt_iff.1 hwaits
    exact hnone k (Table.mem_values_iff.2 ⟨name, hk⟩) hpending
  · intro hno k hmem hpending
    obtain ⟨name, hk⟩ := Table.mem_values_iff.1 hmem
    exact hno name (waitsAt_iff.2 ⟨k, hk, hpending⟩)

/-- The named reader, if it waits for the id, and the scan otherwise. -/
theorem owner?_cases (p : Plugin) (wanted id : String) :
    (∃ k, p.registry.get? wanted = some k ∧ p.isPendingAt id k = true ∧
      p.owner? wanted id = some k) ∨
    (¬ p.WaitsAt id wanted ∧ p.owner? wanted id = p.findPending? id) := by
  unfold owner?
  cases hget : p.registry.get? wanted with
  | none =>
    refine .inr ⟨fun hwaits => ?_, rfl⟩
    obtain ⟨k, hk, -⟩ := waitsAt_iff.1 hwaits
    rw [hget] at hk
    cases hk
  | some k =>
    by_cases hpending : p.isPendingAt id k = true
    · exact .inl ⟨k, rfl, hpending, by simp [hpending]⟩
    · refine .inr ⟨fun hwaits => ?_, by simp [hpending]⟩
      obtain ⟨k', hk', hpending'⟩ := waitsAt_iff.1 hwaits
      obtain rfl := Option.some.inj (hget.symm.trans hk')
      exact hpending hpending'

/-- **Who is found is the owner.** -/
theorem owner_of_owner? (h : p.owner? wanted id = some k) :
    ∃ name, p.registry.get? name = some k ∧ p.Owner wanted id name := by
  rcases owner?_cases p wanted id with ⟨k', hk', hpending, heq⟩ | ⟨hno, heq⟩
  · obtain rfl := Option.some.inj (heq.symm.trans h)
    have hwaits : p.WaitsAt id wanted := waitsAt_iff.2 ⟨k', hk', hpending⟩
    exact ⟨wanted, hk', hwaits, fun _ => rfl, fun hno => absurd hwaits hno⟩
  · obtain ⟨name, hname, hpending, hfirst⟩ := first_of_findPending? (heq.symm.trans h)
    exact ⟨name, hname, waitsAt_iff.2 ⟨k, hname, hpending⟩, fun hwaits => absurd hwaits hno,
      fun _ => hfirst⟩

theorem owner?_eq_none_iff : p.owner? wanted id = none ↔ ∀ name, ¬ p.WaitsAt id name := by
  rcases owner?_cases p wanted id with ⟨k, hk, hpending, heq⟩ | ⟨-, heq⟩
  · rw [heq]
    constructor
    · intro hnone
      cases hnone
    · intro hno
      exact absurd (waitsAt_iff.2 ⟨k, hk, hpending⟩) (hno wanted)
  · rw [heq]
    exact findPending?_eq_none_iff

end Owner

/-! ## 2. One call resolved -/

section Resolved

variable {p : Plugin} {k key : Nat} {engine : Engine} {id : String} {response : Envelope}

theorem accept_of_record (he : p.engine? k = some engine) (hkey : p.record? k id = some key)
    (hid : response.id = some id) :
    (engine.accept response).2 = engine.delivering id key response := by
  have hget : engine.pending.get? id = some key := by simpa [record?, he] using hkey
  rcases Engine.accept_cases engine response with ⟨id', key', hid', hget', heq⟩ | ⟨hnone, -⟩
  · obtain rfl := Option.some.inj (hid.symm.trans hid')
    obtain rfl := Option.some.inj (hget.symm.trans hget')
    rw [heq]
  · rw [hnone id hid] at hget
    cases hget

/-- **A response that an engine takes resolves one call.** -/
theorem resolved_of_record (hsound : engine.Sound) (he : p.engine? k = some engine)
    (hkey : p.record? k id = some key) (hid : response.id = some id) :
    Resolved p (p.updateEngine k fun engine => (engine.accept response).2) k id response := by
  have hget : engine.pending.get? id = some key := by simpa [record?, he] using hkey
  obtain ⟨c, hc, rfl, hcid, hmail⟩ := (hsound.record id key).1 hget
  have hafter : (p.updateEngine k fun engine => (engine.accept response).2).engine? k =
      some (engine.delivering id c.key response) := by
    rw [engine?_updateEngine_self he, accept_of_record he hkey hid]
  have hothers : ∀ m, m ≠ k →
      (p.updateEngine k fun engine => (engine.accept response).2).reader? m = p.reader? m :=
    fun m hm => reader?_updateEngine_of_ne hm _
  refine ⟨⟨engine, c, he, hc, hcid, hmail, hkey,
    fun d hd hdk => hsound.eq_of_key hd hc hdk, hafter⟩, fun m id' => ?_, ?_, hothers, rfl⟩
  · unfold record?
    by_cases hm : m = k
    · subst hm
      rw [hafter, he]
      show ((engine.pending.erase id).get? id') = _
      rw [Table.get?_erase]
      simp
    · rw [if_neg fun hboth => hm hboth.1]
      unfold engine?
      rw [hothers m hm]
  · obtain ⟨r, hr, -⟩ := Option.map_eq_some_iff.1 he
    refine ⟨r, { r with engine := (r.engine.accept response).2 }, hr, ?_, rfl⟩
    unfold updateEngine
    rw [reader?_updateReader, hr]
    simp

end Resolved

end Plugin

namespace Node

open Plugin

/-! ## 3. Responses -/

section Responses

variable {n : Node} {e : Envelope} {id : String} {k : Nat}

theorem dispatch_of_missing (he : e.isRequest = false) (hid : e.id = none) :
    n.dispatch e = (.ended (.error .missingId), { n with stats := n.stats.receive.drop }) := by
  rw [dispatch_of_response he]
  simp [resolve, hid, received]

theorem dispatch_of_stray (he : e.isRequest = false) (hid : e.id = some id)
    (hno : ∀ name, ¬ n.plugin.WaitsAt id name) :
    n.dispatch e = (.ended (.error (.unknownId id)),
      { n with stats := n.stats.receive.drop }) := by
  rw [dispatch_of_response he]
  simp [resolve, hid, received, owner?_eq_none_iff.2 hno]

theorem dispatch_of_owner (he : e.isRequest = false) (hid : e.id = some id)
    (howner : n.plugin.owner? e.route.virtualReader id = some k) :
    n.dispatch e = (.ended (.ok .responseResolved),
      { n with
        plugin := n.plugin.updateEngine k fun engine => (engine.accept e).2
        stats := n.stats.receive.resolve }) := by
  rw [dispatch_of_response he]
  simp [resolve, hid, received, howner]

/-- The three things that may become of a response. -/
theorem response_cases (n : Node) (e : Envelope) :
    e.id = none ∨ (∃ id, e.id = some id ∧ ∀ name, ¬ n.plugin.WaitsAt id name) ∨
      ∃ id name k, e.id = some id ∧ n.plugin.registry.get? name = some k ∧
        n.plugin.Owner e.route.virtualReader id name ∧
        n.plugin.owner? e.route.virtualReader id = some k := by
  cases hid : e.id with
  | none => exact .inl rfl
  | some id =>
    cases howner : n.plugin.owner? e.route.virtualReader id with
    | none => exact .inr (.inl ⟨id, rfl, owner?_eq_none_iff.1 howner⟩)
    | some k =>
      obtain ⟨name, hname, hO⟩ := owner_of_owner? howner
      exact .inr (.inr ⟨id, name, k, rfl, hname, hO, howner⟩)

/-- The engine of the owner takes a step of its own. -/
theorem response_step (he : e.isRequest = false) :
    ∃ ev, LiveStep n.plugin ev (n.dispatch e).2.plugin := by
  have hidle : LiveStep n.plugin .other n.plugin :=
    ⟨.other _ (.of_readers rfl rfl rfl), .of_eq fun _ => rfl⟩
  rcases response_cases n e with hid | ⟨id, hid, hno⟩ | ⟨id, name, k, hid, hk, hO, howner⟩
  · rw [dispatch_of_missing he hid]
    exact ⟨.other, hidle⟩
  · rw [dispatch_of_stray he hid hno]
    exact ⟨.other, hidle⟩
  · rw [dispatch_of_owner he hid howner]
    obtain ⟨k', key, hk', hkey⟩ := hO.waits
    obtain rfl := Option.some.inj (hk.symm.trans hk')
    obtain ⟨engine, hengine, -⟩ := Option.bind_eq_some_iff.1 hkey
    have hstep : LiveStep n.plugin .other
        (n.plugin.updateEngine k fun engine => (engine.accept e).2) :=
      liveStep_updateEngine hengine (.receive e)
    exact ⟨.other, hstep⟩

end Responses

/-! ## 4. Dispatches as steps -/

section Steps

variable {n : Node} {e : Envelope} {k : Nat} {r : Reader}

theorem liveStep_afterConnect {p : Plugin} {request : ConnectRequest}
    (hfree : p.registry.get? e.readerName = none) :
    ∃ ev, LiveStep p ev (p.afterConnect e request) := by
  have hstep := Step.create (p := p) e.route.nativeReader e.route.requester
    request.transmissionMode request.options
  rcases create_cases p e.route.nativeReader e.route.requester request.transmissionMode
      request.options with ⟨k, hk, -⟩ | ⟨-, heq⟩
  · rw [Envelope.readerName] at hfree
    rw [hfree] at hk
    cases hk
  · rw [heq] at hstep
    exact ⟨_, hstep, fun m engine hengine => ⟨[], by rw [engine?_enroll hengine]; exact .start⟩⟩

theorem liveStep_afterDisconnect {p : Plugin} (hk : p.registry.get? e.readerName = some k) :
    ∃ ev, LiveStep p ev (p.afterDisconnect e k) := by
  have hstep := Step.remove (p := p) e.route.nativeReader e.route.requester
  rcases remove_cases p e.route.nativeReader e.route.requester with ⟨hfree, -⟩ | ⟨k', hk', heq⟩
  · rw [Envelope.readerName] at hk
    rw [hfree] at hk
    cases hk
  · obtain rfl := Option.some.inj (hk.symm.trans hk')
    rw [heq] at hstep
    exact ⟨_, hstep, .of_eq fun m => engine?_unregister p k m e.readerName⟩

/-- **A dispatch is one step of the plugin**, whatever comes in. -/
theorem dispatch_step (n : Node) (e : Envelope) :
    ∃ ev, LiveStep n.plugin ev (n.dispatch e).2.plugin := by
  cases he : e.isRequest with
  | false => exact response_step he
  | true =>
    rw [plugin_dispatch_of_request he]
    have hhandling := n.plugin.handling e
    generalize n.plugin.handle e = handled at hhandling
    cases hhandling with
    | unknown => exact ⟨.other, .other _ (.of_readers rfl rfl rfl), .of_eq fun _ => rfl⟩
    | notice verdict q _ hreaders hregistry hsessions =>
      refine ⟨.other, .other _ (.of_readers hregistry hsessions hreaders), .of_eq fun m => ?_⟩
      show (q.readers[m]?).map _ = (n.plugin.readers[m]?).map _
      rw [hreaders]
    | refused reason _ => exact ⟨.other, .other _ (.of_readers rfl rfl rfl), .of_eq fun _ => rfl⟩
    | connected request _ _ hfree => exact liveStep_afterConnect hfree
    | disconnected k _ hk => exact liveStep_afterDisconnect hk

/-- **A dispatch leaves a reader alone that is not registered.** -/
theorem reader?_dispatch (hr : n.plugin.reader? k = some r)
    (hgone : ∀ name, n.plugin.registry.get? name ≠ some k) (e : Envelope) :
    (n.dispatch e).2.plugin.reader? k = n.plugin.reader? k := by
  cases he : e.isRequest with
  | false =>
    rcases response_cases n e with hid | ⟨id, hid, hno⟩ | ⟨id, name, k', hid, hk', -, howner⟩
    · rw [dispatch_of_missing he hid]
    · rw [dispatch_of_stray he hid hno]
    · rw [dispatch_of_owner he hid howner]
      exact reader?_updateEngine_of_ne (fun heq : k = k' => hgone name (by rw [heq, hk'])) _
  | true =>
    rw [plugin_dispatch_of_request he]
    have hhandling := n.plugin.handling e
    generalize n.plugin.handle e = handled at hhandling
    cases hhandling with
    | unknown => rfl
    | notice verdict q _ hreaders _ _ => exact congrArg (·[k]?) hreaders
    | refused reason _ => rfl
    | connected request _ _ _ =>
      rw [hr]
      exact reader?_enroll_old hr
    | disconnected k' _ hk' =>
      exact reader?_unregister_of_ne
        (fun heq : k' = k => hgone e.readerName (by rw [← heq, hk'])) e.readerName

end Steps

/-! ## 5. The main statement -/

/-- **The routing of a response.** -/
structure Routed (n : Node) (e : Envelope) : Prop where
  resolved_iff : (n.dispatch e).1 = .ended (.ok .responseResolved) ↔
    ∃ id name, e.id = some id ∧ n.plugin.WaitsAt id name
  missing_iff : (n.dispatch e).1 = .ended (.error .missingId) ↔ e.id = none
  unknown_iff : ∀ id, (n.dispatch e).1 = .ended (.error (.unknownId id)) ↔
    e.id = some id ∧ ∀ name, ¬ n.plugin.WaitsAt id name
  /-- if a call with the id waits at some registered reader, the response has one owner -/
  owner : ∀ id, e.id = some id → (∃ name, n.plugin.WaitsAt id name) →
    ∃! name, n.plugin.Owner e.route.virtualReader id name
  /-- the call of the owner, and nothing else, is resolved -/
  resolved : ∀ id name, e.id = some id → n.plugin.Owner e.route.virtualReader id name →
    ∃ k, n.plugin.registry.get? name = some k ∧
      Resolved n.plugin (n.dispatch e).2.plugin k id e
  /-- if no call with the id waits, nothing is touched -/
  untouched : (∀ id name, e.id = some id → ¬ n.plugin.WaitsAt id name) →
    (n.dispatch e).2.plugin = n.plugin
  /-- the dispatch is itself a step of the plugin -/
  step : ∃ ev, LiveStep n.plugin ev (n.dispatch e).2.plugin
  /-- a reader that was removed, with all calls that wait there, is left alone by every dispatch
  later on, whatever is created, removed and called meanwhile -/
  removed : ∀ k r, n.plugin.reader? k = some r → (∀ name, n.plugin.registry.get? name ≠ some k) →
    ∀ later (m : Node), Trace LiveStep n.plugin later m.plugin →
      ∀ e', (m.dispatch e').2.plugin.reader? k = m.plugin.reader? k

section Routed

variable {n : Node} {e : Envelope} {evs : List Plugin.Event} {ids : Nat → String}
  {name address : String} {patience limit : Nat}

/-- **Responses are routed to their owner**, in every state that a plugin comes to, whatever readers
it has and whatever calls wait at them. -/
theorem responses_routed
    (h : Trace LiveStep (Plugin.new ids name address patience limit) evs n.plugin)
    (he : e.isRequest = false) : Routed n e := by
  have hremoved : ∀ k r, n.plugin.reader? k = some r →
      (∀ name, n.plugin.registry.get? name ≠ some k) →
      ∀ later (m : Node), Trace LiveStep n.plugin later m.plugin →
        ∀ e', (m.dispatch e').2.plugin.reader? k = m.plugin.reader? k := by
    intro k r hr hgone later m hlater e'
    obtain ⟨⟨r', hr'⟩, hgone'⟩ := unregistered_of_trace h hr hgone hlater
    exact reader?_dispatch hr' hgone' e'
  rcases response_cases n e with hid | ⟨id, hid, hno⟩ | ⟨id, name', k, hid, hk, hO, howner⟩
  · refine ⟨?_, ?_, ?_, ?_, ?_, ?_, dispatch_step n e, hremoved⟩
    all_goals simp [dispatch_of_missing he hid, hid]
  · refine ⟨?_, ?_, ?_, ?_, ?_, ?_, dispatch_step n e, hremoved⟩
    · simp [dispatch_of_stray he hid hno, hid, hno]
    · simp [dispatch_of_stray he hid hno, hid]
    · simp +contextual [dispatch_of_stray he hid hno, hid, hno]
    · simp [hid, hno]
    · intro id' name' hid' hO
      obtain rfl := Option.some.inj (hid.symm.trans hid')
      exact absurd hO.waits (hno name')
    · simp [dispatch_of_stray he hid hno]
  · have hdispatch := dispatch_of_owner he hid howner
    refine ⟨?_, ?_, ?_, ?_, ?_, ?_, dispatch_step n e, hremoved⟩
    · rw [hdispatch]
      exact ⟨fun _ => ⟨id, name', hid, hO.waits⟩, fun _ => rfl⟩
    · simp [hdispatch, hid]
    · intro id'
      rw [hdispatch]
      constructor
      · intro hfalse
        cases hfalse
      · intro hboth
        obtain ⟨hid', hno⟩ := hboth
        obtain rfl := Option.some.inj (hid.symm.trans hid')
        exact absurd hO.waits (hno name')
    · intro id' hid' _
      obtain rfl := Option.some.inj (hid.symm.trans hid')
      exact ⟨name', hO, fun _ hO' => hO'.unique hO⟩
    · intro id' name₁ hid' hO'
      obtain rfl := Option.some.inj (hid.symm.trans hid')
      obtain rfl := hO'.unique hO
      obtain ⟨k', key, hk', hkey⟩ := hO.waits
      obtain rfl := Option.some.inj (hk.symm.trans hk')
      obtain ⟨engine, hengine, -⟩ := Option.bind_eq_some_iff.1 hkey
      rw [hdispatch]
      exact ⟨k, hk, resolved_of_record (sound_engine h hengine) hengine hkey hid⟩
    · intro hno
      exact absurd hO.waits (hno id name' hid)

end Routed

/-- A slave announces a reader and wants no reply. -/
def announcement (native : String) : Envelope :=
  .notification "readerConnect" "" ⟨none, native, "", "S", "M"⟩

/-- A slave withdraws a reader and wants no reply. -/
def withdrawal (native : String) : Envelope :=
  .notification "readerDisconnect" "" ⟨none, native, "", "S", "M"⟩

/-- A call is started under the id that all of the calls below share. -/
def startShared (e : Engine) : Engine := (e.start "x" "ping" 50 0).2

/-- Two readers. -/
def pairing : Node :=
  (((ofConfig .default "M").dispatch (announcement "B")).2.dispatch (announcement "A")).2

/-- A call waits under one id at each of them. -/
def sharing : Node :=
  pairing.withPlugin ((pairing.plugin.updateEngine 0 startShared).updateEngine 1 startShared)

/-- The first reader is removed while its call waits, and a new one comes under its name. -/
def returning : Node := ((sharing.dispatch (withdrawal "B")).2.dispatch (announcement "B")).2

/-- The response names the reader that was removed, and so the new one. -/
def staleResponse : Envelope := .response "ping" "pong" ⟨none, "", "remote-B-S", "", ""⟩ "x"

theorem responses_routed_stale :
    (∃ evs, Trace LiveStep (ofConfig .default "M").plugin evs returning.plugin) ∧
      staleResponse.isRequest = false ∧ Routed returning staleResponse ∧
      (returning.dispatch staleResponse).1 = .ended (.ok .responseResolved) := by
  have htrace : ∃ evs, Trace LiveStep (ofConfig .default "M").plugin evs returning.plugin := by
    obtain ⟨ev₁, h₁⟩ := dispatch_step (ofConfig .default "M") (announcement "B")
    obtain ⟨ev₂, h₂⟩ := dispatch_step _ (announcement "A")
    have h₃ : LiveStep pairing.plugin .other (pairing.plugin.updateEngine 0 startShared) :=
      liveStep_updateEngine rfl (.start "x" "ping" 50 0)
    have h₄ : LiveStep (pairing.plugin.updateEngine 0 startShared) .other sharing.plugin :=
      liveStep_updateEngine rfl (.start "x" "ping" 50 0)
    obtain ⟨ev₅, h₅⟩ := dispatch_step sharing (withdrawal "B")
    obtain ⟨ev₆, h₆⟩ := dispatch_step _ (announcement "B")
    exact ⟨_, (((((Trace.start.snoc _ _ _ _ h₁).snoc _ _ _ _ h₂).snoc _ _ _ _ h₃).snoc
      _ _ _ _ h₄).snoc _ _ _ _ h₅).snoc _ _ _ _ h₆⟩
  obtain ⟨evs, h⟩ := htrace
  exact ⟨⟨evs, h⟩, rfl, responses_routed h rfl, rfl⟩

end Node

end CardLink
