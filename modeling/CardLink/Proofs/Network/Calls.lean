import CardLink.Proofs.Agenda
import CardLink.Proofs.Engine.Replies
import CardLink.Proofs.Network.Polling

/-!
# What a call does to its network

To start a call and to look at it concerns the engine of its caller and the link; the tasks and
their results stay as they are. The link gets the request of the call, to its target, and nothing
else.

* `Link.give`: the link after it was given an envelope.
* `Network.callsMade`: the number of calls that were admitted for a caller.
* **`Network.began_start`**: a call begins, or ends at once.
* **`Network.looked_poll`**: a call is looked at.
-/

namespace CardLink

/-- A link after it was given an envelope for a node, or nothing. -/
def Link.give (l : Link) : Option (String × Envelope) → Link
  | none => l
  | some (target, e) =>
    match l with
    | .outbox o => .outbox (o.record target e)
    | .hub h => .hub (h.send target e).2

theorem Engine.nextKey_release (e : Engine) (key : Nat) : (e.release key).nextKey = e.nextKey := by
  unfold Engine.release
  split
  · rfl
  · rfl

theorem Engine.nextKey_sent (e : Engine) (key now : Nat) : (e.sent key now).nextKey = e.nextKey :=
  rfl

namespace Network

variable {n n' : Network} {caller d : Caller} {t : Ticket}

/-! ## 1. The parts of a network -/

section Parts

@[simp] theorem agenda_updateEngine (n : Network) (caller : Caller) (f : Engine → Engine) :
    (n.updateEngine caller f).agenda = n.agenda := by
  cases caller <;> rfl

@[simp] theorem results_updateEngine (n : Network) (caller : Caller) (f : Engine → Engine) :
    (n.updateEngine caller f).results = n.results := by
  cases caller <;> rfl

@[simp] theorem link_updateEngine (n : Network) (caller : Caller) (f : Engine → Engine) :
    (n.updateEngine caller f).link = n.link := by
  cases caller <;> rfl

@[simp] theorem agenda_updateMetrics (n : Network) (caller : Caller) (f : Metrics → Metrics) :
    (n.updateMetrics caller f).agenda = n.agenda := by
  cases caller <;> rfl

@[simp] theorem results_updateMetrics (n : Network) (caller : Caller) (f : Metrics → Metrics) :
    (n.updateMetrics caller f).results = n.results := by
  cases caller <;> rfl

@[simp] theorem link_updateMetrics (n : Network) (caller : Caller) (f : Metrics → Metrics) :
    (n.updateMetrics caller f).link = n.link := by
  cases caller <;> rfl

@[simp] theorem engine?_updateMetrics (n : Network) (caller d : Caller) (f : Metrics → Metrics) :
    (n.updateMetrics caller f).engine? d = n.engine? d := by
  cases caller <;> cases d <;> rfl

theorem engine?_updateEngine_of_ne (h : caller ≠ d) (f : Engine → Engine) :
    (n.updateEngine caller f).engine? d = n.engine? d := by
  cases caller with
  | client =>
    cases d with
    | client => contradiction
    | _ => rfl
  | reader k =>
    cases d with
    | reader m =>
      have hm : m ≠ k := fun hmk => h (by rw [hmk])
      exact congrArg (Option.map Reader.engine) (Plugin.reader?_updateEngine_of_ne hm f)
    | _ => rfl
  | slave j =>
    cases d with
    | slave m =>
      have hm : j ≠ m := fun hjm => h (by rw [hjm])
      show ((n.slaves.modify j _)[m]?).map Slave.engine = (n.slaves[m]?).map Slave.engine
      rw [List.getElem?_modify]
      simp [hm]
    | _ => rfl

theorem engine?_updateEngine_self (n : Network) (caller : Caller) (f : Engine → Engine) :
    (n.updateEngine caller f).engine? caller = (n.engine? caller).map f := by
  cases caller with
  | client => rfl
  | reader k =>
    show ((n.plugin.updateEngine k f).reader? k).map Reader.engine =
      ((n.plugin.reader? k).map Reader.engine).map f
    rw [Plugin.updateEngine, Plugin.reader?_updateReader]
    cases n.plugin.reader? k with
    | none => rfl
    | some r => simp
  | slave j =>
    show ((n.slaves.modify j _)[j]?).map Slave.engine = ((n.slaves[j]?).map Slave.engine).map f
    rw [List.getElem?_modify]
    cases n.slaves[j]? with
    | none => rfl
    | some s => simp

end Parts

/-- The number of calls that were admitted for a caller. -/
def callsMade (n : Network) (caller : Caller) : Nat := ((n.engine? caller).map (·.nextKey)).getD 0

/-- A change of an engine that admits no call. -/
theorem callsMade_updateEngine {f : Engine → Engine} (hf : ∀ e, (f e).nextKey = e.nextKey) :
    (n.updateEngine caller f).callsMade d = n.callsMade d := by
  unfold callsMade
  by_cases h : caller = d
  · subst h
    rw [engine?_updateEngine_self, Option.map_map]
    congr 2
    funext e
    exact hf e
  · rw [engine?_updateEngine_of_ne h]

/-! ## 2. Sending -/

/-- What a call hands to the link when it is looked at: its request, if the sending of it took time
and is over. -/
def handed? (n : Network) (t : Ticket) : Option (String × Envelope) :=
  match n.link, t.sendingUntil with
  | .outbox _, some due => if due ≤ n.now then some (t.target, t.request) else none
  | _, _ => none

theorem beginSending_keeps (n : Network) (target : String) (e : Envelope) :
    ∃ link, (n.beginSending target e).2 = { n with link := link } := by
  unfold beginSending
  split
  · exact ⟨_, rfl⟩
  · split
    · exact ⟨n.link, rfl⟩
    · split
      · exact ⟨_, rfl⟩
      · exact ⟨n.link, rfl⟩

/-- **The link gets the envelope now or not yet.** -/
theorem link_beginSending (n : Network) (target : String) (e : Envelope) :
    ∃ handed, (n.beginSending target e).2.link = n.link.give handed ∧
      (handed = none ∨ handed = some (target, e)) ∧
      ∀ due, (n.beginSending target e).1 = .ok (some due) → handed = none := by
  unfold beginSending
  split
  · rename_i h hlink
    refine ⟨some (target, e), by rw [hlink]; rfl, .inr rfl, fun due hdue => ?_⟩
    cases hsend : h.send target e with
    | mk verdict h' =>
      rw [hsend] at hdue
      cases verdict with
      | error reason => cases hdue
      | ok u => cases hdue
  · rename_i o hlink
    split
    · exact ⟨none, rfl, .inl rfl, fun _ _ => rfl⟩
    · split
      · exact ⟨some (target, e), by rw [hlink]; rfl, .inr rfl, fun due hdue => by cases hdue⟩
      · exact ⟨none, rfl, .inl rfl, fun _ _ => rfl⟩

theorem endSending_keeps (n : Network) (target : String) (e : Envelope) :
    ∃ link, n.endSending target e = { n with link := link } := by
  unfold endSending updateOutbox
  split
  · exact ⟨_, rfl⟩
  · exact ⟨n.link, rfl⟩

/-! ## 3. To start a call -/

/-- The request of an admitted call sets out, or the call ends at once. -/
def setOut (caller : Caller) (key : Nat) (target : String) (request : Envelope) (n : Network) :
    Except CallError Ticket × Network :=
  match n.beginSending target request with
  | (.error reason, n) => (.error (.transport reason), n.updateEngine caller (·.release key))
  | (.ok (some due), n) => (.ok ⟨caller, key, target, request, some due⟩, n)
  | (.ok none, n) =>
    (.ok ⟨caller, key, target, request, none⟩, n.updateEngine caller (·.sent key n.now))

/-- **A call has begun, or ended at once**, and the link was given something or not. -/
structure Began (n : Network) (caller : Caller) (target : String) (request : Envelope)
    (given : Option (String × Envelope)) (outcome : Except CallError Ticket) (n' : Network) :
    Prop where
  agenda : n'.agenda = n.agenda
  results : n'.results = n.results
  link : n'.link = n.link.give given
  own : given = none ∨ given = some (target, request)
  calls : ∀ d, n'.callsMade d ≤ n.callsMade d + if d = caller then 1 else 0
  /-- the call that is under way; what takes time was not given yet -/
  ticket : ∀ t, outcome = .ok t →
    ∃ key due, t = ⟨caller, key, target, request, due⟩ ∧ (due.isSome → given = none)

section Began

variable {m : Network} {e e' : Engine} {target : String} {request : Envelope}

theorem nextKey_start {id action : String} {patience now : Nat} {outcome : Except CallError Nat}
    (h : e.start id action patience now = (outcome, e')) : e'.nextKey ≤ e.nextKey + 1 := by
  rcases e.start_cases id action patience now with ⟨-, heq⟩ | ⟨-, -, heq⟩ | ⟨-, -, heq⟩
  · rw [heq] at h
    cases h
    exact Nat.le_succ _
  · rw [heq] at h
    cases h
    exact Nat.le_succ _
  · rw [heq] at h
    cases h
    exact Nat.le_refl _

/-- One more call was admitted. -/
theorem callsMade_admitted (he : n.engine? caller = some e) (hkey : e'.nextKey ≤ e.nextKey + 1)
    (d : Caller) : (n.updateEngine caller fun _ => e').callsMade d ≤
      n.callsMade d + if d = caller then 1 else 0 := by
  unfold callsMade
  by_cases hd : d = caller
  · subst hd
    rw [engine?_updateEngine_self, he, if_pos rfl]
    exact hkey
  · rw [engine?_updateEngine_of_ne (Ne.symm hd)]
    exact Nat.le_add_right _ _

/-- **The request of an admitted call sets out**, or the call ends at once. -/
theorem began_setOut (hagenda : m.agenda = n.agenda) (hresults : m.results = n.results)
    (hlink : m.link = n.link)
    (hcalls : ∀ d, m.callsMade d ≤ n.callsMade d + if d = caller then 1 else 0) (key : Nat) :
    ∃ given, Began n caller target request given (m.setOut caller key target request).1
      (m.setOut caller key target request).2 := by
  obtain ⟨link, hsent⟩ := beginSending_keeps m target request
  obtain ⟨given, hgiven, hown, hlater⟩ := link_beginSending m target request
  unfold setOut
  generalize m.beginSending target request = sending at hsent hgiven hlater ⊢
  obtain ⟨result, n₂⟩ := sending
  dsimp only at hsent hgiven hlater
  have hagenda₂ : n₂.agenda = n.agenda := by rw [hsent]; exact hagenda
  have hresults₂ : n₂.results = n.results := by rw [hsent]; exact hresults
  have hlink₂ : n₂.link = n.link.give given := by rw [hgiven, hlink]
  have hcalls₂ : ∀ d, n₂.callsMade d ≤ n.callsMade d + if d = caller then 1 else 0 := by
    intro d
    refine Nat.le_trans (Nat.le_of_eq ?_) (hcalls d)
    rw [hsent]
    cases d <;> rfl
  refine ⟨given, ?_⟩
  cases result with
  | error reason =>
    refine ⟨by simpa using hagenda₂, by simpa using hresults₂, by simpa using hlink₂, hown,
      fun d => ?_, fun t ht => by cases ht⟩
    rw [callsMade_updateEngine fun e => e.nextKey_release key]
    exact hcalls₂ d
  | ok due =>
    cases due with
    | some due =>
      refine ⟨hagenda₂, hresults₂, hlink₂, hown, hcalls₂, fun t ht => ?_⟩
      cases ht
      exact ⟨key, some due, rfl, fun _ => hlater due rfl⟩
    | none =>
      refine ⟨by simpa using hagenda₂, by simpa using hresults₂, by simpa using hlink₂, hown,
        fun d => ?_, fun t ht => ?_⟩
      · rw [callsMade_updateEngine fun e => e.nextKey_sent key n₂.now]
        exact hcalls₂ d
      · cases ht
        exact ⟨key, none, rfl, fun hsome => by cases hsome⟩

/-- To make up an id changes nothing else. -/
theorem chooseId_keeps (id : Option String) (n : Network) :
    (n.chooseId id).2.agenda = n.agenda ∧ (n.chooseId id).2.results = n.results ∧
      (n.chooseId id).2.link = n.link ∧ ∀ d, (n.chooseId id).2.engine? d = n.engine? d := by
  cases id with
  | none => exact ⟨rfl, rfl, rfl, fun d => by cases d <;> rfl⟩
  | some id => exact ⟨rfl, rfl, rfl, fun d => rfl⟩

/-- **To start a call**: it is admitted at most once, and the link gets at most its request. -/
theorem began_start (n : Network) (caller : Caller) (action body : String) (route : Route)
    (id : Option String) (patience : Nat) :
    ∃ given, Began n caller route.target (.request action body route (n.chooseId id).1) given
      (n.start caller action body route id patience).1
      (n.start caller action body route id patience).2 := by
  obtain ⟨hagenda, hresults, hlink, hengine⟩ := chooseId_keeps id n
  have hcalls : ∀ d, (n.chooseId id).2.callsMade d = n.callsMade d := by
    intro d
    unfold callsMade
    rw [hengine]
  unfold start
  generalize n.chooseId id = chosen at *
  obtain ⟨i, n₁⟩ := chosen
  dsimp only at *
  have hrefused : ∀ reason, Began n caller route.target (.request action body route i) none
      (.error reason) n₁ := by
    refine fun reason => ⟨hagenda, hresults, hlink, .inl rfl, fun d => ?_, fun t ht => by cases ht⟩
    rw [hcalls]
    exact Nat.le_add_right _ _
  cases he : n₁.engine? caller with
  | none => exact ⟨none, hrefused _⟩
  | some e =>
    dsimp only
    cases hstart : e.start i action patience n₁.now with
    | mk outcome e' =>
      cases outcome with
      | error reason => exact ⟨none, hrefused _⟩
      | ok key =>
        refine began_setOut (m := n₁.updateEngine caller fun _ => e') ?_ ?_ ?_ (fun d => ?_) key
        · rw [agenda_updateEngine, hagenda]
        · rw [results_updateEngine, hresults]
        · rw [link_updateEngine, hlink]
        · rw [← hcalls]
          exact callsMade_admitted he (nextKey_start hstart) d

end Began

/-! ## 4. To look at a call -/

/-- **A call was looked at**: the link got its request if the sending of it is over now. -/
structure Looked (n : Network) (t : Ticket) (standing : Standing) (n' : Network) : Prop where
  agenda : n'.agenda = n.agenda
  results : n'.results = n.results
  link : n'.link = n.link.give (n.handed? t)
  calls : ∀ d, n'.callsMade d = n.callsMade d
  ticket : ∀ due t', standing = .under due t' →
    t' = t ∧ n.handed? t = none ∨ t' = { t with sendingUntil := none }

section Looked

theorem pollWaiting_keeps (n : Network) (t : Ticket) :
    (n.pollWaiting t).2.agenda = n.agenda ∧ (n.pollWaiting t).2.results = n.results ∧
      (n.pollWaiting t).2.link = n.link ∧ (∀ d, (n.pollWaiting t).2.callsMade d = n.callsMade d) ∧
      ∀ due t', (n.pollWaiting t).1 = .under due t' → t' = t := by
  unfold pollWaiting
  split
  · exact ⟨rfl, rfl, rfl, fun _ => rfl, fun due t' h => by cases h⟩
  · split
    · refine ⟨by simp, by simp, by simp, fun d => ?_, fun due t' h => by cases h⟩
      have hmetrics : ∀ (m : Network) (f : Metrics → Metrics),
          (m.updateMetrics t.caller f).callsMade d = m.callsMade d := by
        intro m f
        unfold callsMade
        rw [engine?_updateMetrics]
      rw [hmetrics, callsMade_updateEngine fun e => e.nextKey_release t.key]
    · split
      · exact ⟨rfl, rfl, rfl, fun _ => rfl, fun due t' h => by cases h; rfl⟩
      · exact ⟨rfl, rfl, rfl, fun _ => rfl, fun due t' h => by cases h; rfl⟩

theorem link_requestSent (h : ∃ due, t.sendingUntil = some due ∧ due ≤ n.now) :
    (n.requestSent t).link = n.link.give (n.handed? t) := by
  obtain ⟨due, hdue, hpast⟩ := h
  unfold requestSent endSending updateOutbox handed?
  rw [link_updateEngine, hdue]
  cases hlink : n.link with
  | outbox o => simp [hpast, Link.give]
  | hub h => simp [hlink, Link.give]

/-- **To look at a call**: none is admitted by it. -/
theorem looked_poll (n : Network) (t : Ticket) : Looked n t (n.poll t).1 (n.poll t).2 := by
  unfold poll
  cases hdue : t.sendingUntil with
  | none =>
    obtain ⟨hagenda, hresults, hlink, hcalls, hticket⟩ := pollWaiting_keeps n t
    have hnone : n.handed? t = none := by
      unfold handed?
      rw [hdue]
      cases n.link <;> rfl
    refine ⟨hagenda, hresults, by rw [hnone]; exact hlink, hcalls, fun due t' h => ?_⟩
    exact .inl ⟨hticket due t' h, hnone⟩
  | some due =>
    dsimp only
    by_cases hpast : due ≤ n.now
    · rw [if_pos hpast]
      obtain ⟨hagenda, hresults, hlink, hcalls, hticket⟩ :=
        pollWaiting_keeps (n.requestSent t) { t with sendingUntil := none }
      obtain ⟨link, hended⟩ := endSending_keeps n t.target t.request
      have hsent : (n.requestSent t) =
          ({ n with link := link } : Network).updateEngine t.caller (·.sent t.key n.now) := by
        unfold requestSent
        rw [hended]
      refine ⟨by rw [hagenda, hsent]; simp, by rw [hresults, hsent]; simp,
        hlink.trans (link_requestSent ⟨due, hdue, hpast⟩), fun d => ?_, fun due' t' h => ?_⟩
      · rw [hcalls, hsent, callsMade_updateEngine fun e => e.nextKey_sent t.key n.now]
        cases d <;> rfl
      · exact .inr (hticket due' t' h)
    · rw [if_neg hpast]
      have hnone : n.handed? t = none := by
        unfold handed?
        rw [hdue]
        cases n.link with
        | outbox o => simp [hpast]
        | hub h => rfl
      refine ⟨rfl, rfl, by rw [hnone]; rfl, fun _ => rfl, fun due' t' h => ?_⟩
      cases h
      exact .inl ⟨rfl, hnone⟩

end Looked

end Network

end CardLink
