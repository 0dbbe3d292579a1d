import CardLink.Proofs.Metrics.Fleet
import CardLink.Proofs.Network.Calls

/-!
# The metrics of the calls of a network

What a network does to a call are steps of the engine of its caller, made now; they count in the
metrics of this caller what they count, and the result that is found is the one that is counted. The
readers of a node share its metrics, a bare engine may have its own, a slave has none. So what is
known of engines that share their metrics holds of those of a network.

* `Network.fleet?`: the engines that share the metrics of a caller.
* `Network.Made`: the steps that an engine made, and what they counted.
* `Network.made_start`, `Network.made_poll`, `Network.made_abandon`: what becomes of a call.
* `Network.Meters`: all of this, of one caller.
* **`Fleet.calls_metered`**: the metrics of calls and their text.

NOT here: traffic, which the metrics of a node count, too.
-/

namespace CardLink

/-! ## 1. Who counts together -/

/-- Both callers count their calls in the same metrics, if in any. -/
def Caller.Shares : Caller → Caller → Prop
  | .client, .client => True
  | .reader _, .reader _ => True
  | .slave _, .slave _ => True
  | _, _ => False

/-- The number of the engine of a caller among those that share its metrics. -/
def Caller.place : Caller → Nat
  | .reader r => r
  | _ => 0

namespace Network

/-- **The engines that share the metrics of a caller**: those of all readers, or the bare one. Slaves
count nothing, nor does a bare engine without metrics. -/
def fleet? (n : Network) : Caller → Option Fleet
  | .client => n.client.metrics.map fun m => ⟨[n.client.engine], m⟩
  | .reader _ => some ⟨n.plugin.readers.map (·.engine), n.node.metrics⟩
  | .slave _ => none

/-- The metrics that the calls of a caller are counted in. -/
def metrics? (n : Network) (caller : Caller) : Option Metrics := (n.fleet? caller).map (·.metrics)

section Fleets

variable {n n' : Network} {caller d : Caller} {f : Fleet}

theorem engine_of_fleet? (h : n.fleet? caller = some f) :
    f.engines[caller.place]? = n.engine? caller := by
  cases caller with
  | client =>
    obtain ⟨m, -, rfl⟩ := Option.map_eq_some_iff.1 h
    rfl
  | reader r =>
    obtain rfl := Option.some.inj h
    exact List.getElem?_map
  | slave j => cases h

theorem fleet?_of_shares (h : caller.Shares d) (n : Network) : n.fleet? d = n.fleet? caller := by
  cases caller <;> cases d <;> first | rfl | exact h.elim

theorem fleet?_updateEngine (n : Network) (caller : Caller) (g : Engine → Engine) :
    (n.updateEngine caller g).fleet? caller =
      (n.fleet? caller).map fun f => { f with engines := f.engines.modify caller.place g } := by
  cases caller with
  | client =>
    show n.client.metrics.map _ = (n.client.metrics.map _).map _
    rw [Option.map_map]
    rfl
  | reader r =>
    show some (Fleet.mk ((n.plugin.readers.modify r _).map (·.engine)) n.node.metrics) =
      some (Fleet.mk ((n.plugin.readers.map (·.engine)).modify r g) n.node.metrics)
    congr 2
    refine List.ext_getElem? fun k => ?_
    simp only [List.getElem?_map, List.getElem?_modify]
    cases n.plugin.readers[k]? with
    | none => rfl
    | some reader => by_cases hk : r = k <;> simp [hk]
  | slave j => rfl

theorem fleet?_updateMetrics (n : Network) (caller : Caller) (g : Metrics → Metrics) :
    (n.updateMetrics caller g).fleet? caller =
      (n.fleet? caller).map fun f => { f with metrics := g f.metrics } := by
  cases caller with
  | client =>
    show (n.client.metrics.map g).map _ = (n.client.metrics.map _).map _
    rw [Option.map_map, Option.map_map]
    rfl
  | reader r => rfl
  | slave j => rfl

theorem fleet?_updateEngine_of_not_shares (h : ¬ caller.Shares d) (n : Network)
    (g : Engine → Engine) : (n.updateEngine caller g).fleet? d = n.fleet? d := by
  cases caller <;> cases d <;> first | rfl | exact absurd trivial h

theorem fleet?_updateMetrics_of_not_shares (h : ¬ caller.Shares d) (n : Network)
    (g : Metrics → Metrics) : (n.updateMetrics caller g).fleet? d = n.fleet? d := by
  cases caller <;> cases d <;> first | rfl | exact absurd trivial h

/-- A change of an engine that is none. -/
theorem fleet?_updateEngine_of_eq {g : Engine → Engine}
    (h : ∀ e, n.engine? caller = some e → g e = e) (d : Caller) :
    (n.updateEngine caller g).fleet? d = n.fleet? d := by
  by_cases hd : caller.Shares d
  · rw [fleet?_of_shares hd, fleet?_of_shares hd, fleet?_updateEngine]
    cases hf : n.fleet? caller with
    | none => rfl
    | some f =>
      have hsame : f.engines.modify caller.place g = f.engines := by
        refine List.ext_getElem? fun k => ?_
        rw [List.getElem?_modify]
        by_cases hk : caller.place = k
        · subst hk
          rw [engine_of_fleet? hf]
          cases he : n.engine? caller with
          | none => rfl
          | some e => simp [h e he]
        · simp [hk]
      simp [hsame]
  · exact fleet?_updateEngine_of_not_shares hd n g

end Fleets

end Network

/-! ## 2. Steps of one engine -/

/-- These steps of the engine of a caller, made now. -/
def Caller.took (caller : Caller) (now : Nat) (evs : List Engine.Event) : List Fleet.Event :=
  evs.map (.took caller.place now)

/-- What the calls returned that ended with these events. -/
def Fleet.results (evs : List Fleet.Event) : List (Except CallError String) :=
  (evs.filterMap Event.return?).map (·.result)

namespace Network

/-- **The engine of this caller made these steps now**, and they are counted, if they are, in the
metrics that it shares; no other engine made a step, and nothing else was counted. -/
structure Made (n : Network) (caller : Caller) (evs : List Engine.Event) (n' : Network) : Prop where
  own : ∀ f, n.fleet? caller = some f → ∃ f', n'.fleet? caller = some f' ∧
    Trace (Fleet.Step 1000000) f (caller.took n.now evs) f'
  uncounted : n.fleet? caller = none → n'.fleet? caller = none
  others : ∀ d, ¬ caller.Shares d → n'.fleet? d = n.fleet? d

section Made

variable {n n₁ n₂ : Network} {caller : Caller} {evs : List Engine.Event} {ev : Engine.Event}
  {e : Engine} {g : Engine → Engine}

theorem Made.refl (n : Network) (caller : Caller) : Made n caller [] n where
  own f hf := ⟨f, hf, .start⟩
  uncounted h := h
  others _ _ := rfl

theorem Made.congr (h : Made n caller evs n₁) (hsame : ∀ d, n₂.fleet? d = n₁.fleet? d) :
    Made n caller evs n₂ where
  own f hf := by
    obtain ⟨f', hf', htrace⟩ := h.own f hf
    exact ⟨f', (hsame caller).trans hf', htrace⟩
  uncounted hnone := (hsame caller).trans (h.uncounted hnone)
  others d hd := (hsame d).trans (h.others d hd)

/-- **One step more**, with what it counts. -/
theorem Made.took (h : Made n caller evs n₁) (he : n₁.engine? caller = some e)
    (hs : e.StepAt n.now ev (g e)) : Made n caller (evs ++ [ev])
      ((n₁.updateEngine caller g).updateMetrics caller (ev.count 1000000)) where
  own f hf := by
    obtain ⟨f', hf', htrace⟩ := h.own f hf
    have hengine : f'.engines[caller.place]? = some e := (engine_of_fleet? hf').trans he
    have hset : f'.engines.modify caller.place g = f'.engines.set caller.place (g e) := by
      rw [List.modify_eq_set_getElem?, hengine]
      rfl
    refine ⟨⟨f'.engines.set caller.place (g e), ev.count 1000000 f'.metrics⟩, ?_, ?_⟩
    · rw [fleet?_updateMetrics, fleet?_updateEngine, hf', ← hset]
      rfl
    · rw [Caller.took, List.map_append]
      exact .snoc _ _ _ _ htrace (.take _ _ e _ ev hengine hs)
  uncounted hnone := by
    rw [fleet?_updateMetrics, fleet?_updateEngine, h.uncounted hnone]
    rfl
  others d hd := by
    rw [fleet?_updateMetrics_of_not_shares hd, fleet?_updateEngine_of_not_shares hd, h.others d hd]

/-- One step more, which counts nothing. -/
theorem Made.idle (h : Made n caller evs n₁) (he : n₁.engine? caller = some e)
    (hs : e.StepAt n.now ev (g e)) (hidle : ev.count 1000000 = id) :
    Made n caller (evs ++ [ev]) (n₁.updateEngine caller g) := by
  refine (h.took he hs).congr fun d => ?_
  rw [hidle]
  cases caller with
  | client =>
    cases d with
    | client =>
      show n₁.client.metrics.map _ = (n₁.client.metrics.map id).map _
      rw [Option.map_id_fun]
      rfl
    | _ => rfl
  | _ => cases d <;> rfl

end Made

/-! ## 3. Calls -/

/-- The call of a ticket, if it has not ended. -/
def underWay? (n : Network) (t : Ticket) : Option Call := (n.engine? t.caller).bind (·.call? t.key)

/-- The result that was found. -/
def Standing.result? : Standing → Option (Except CallError String)
  | .under _ _ => none
  | .over result => some result

end Network

/-- A call that was sent is still under way. -/
theorem Engine.call?_sent {e : Engine} {key : Nat} {c : Call} (hc : e.call? key = some c)
    (now : Nat) : ∃ c', (e.sent key now).call? key = some c' := by
  have hsent : (e.sent key now).call? key =
      (e.call? key).map fun c => if c.key = key then { c with phase := .waiting (now + c.patience) }
        else c := by
    show (e.calls.map _).find? _ = _
    rw [List.find?_map]
    congr 1
    refine congrArg (fun p => e.calls.find? p) (funext fun c => ?_)
    show (Call.key (if c.key = key then _ else c) == key) = (c.key == key)
    split <;> rfl
  exact ⟨_, by rw [hsent, hc]; rfl⟩

namespace Network

section Calls

variable {n n₁ : Network} {caller : Caller} {t : Ticket} {e : Engine} {c : Call}
  {ending : CallEnding} {evs : List Engine.Event}

/-- **A call that is over is a step of the engine of its caller**, and what it counts goes into the
metrics of its caller, with times in milliseconds. -/
theorem stepAt_of_pollWaiting (hc : e.call? t.key = some c) (he : n.engine? t.caller = some e)
    (hending : c.ending? n.now = some ending) :
    e.StepAt n.now (.ended c ending) (e.release t.key) ∧
      (n.pollWaiting t).2 = (n.updateEngine t.caller (·.release t.key)).updateMetrics t.caller
        ((Engine.Event.ended c ending).count 1000000) := by
  have hkey : c.key = t.key := by simpa using List.find?_some hc
  refine ⟨?_, ?_⟩
  · rw [← hkey]
    exact .finish c ending (List.mem_of_find?_eq_some hc) hending
  · have hlooked : (n.engine? t.caller).bind (·.call? t.key) = some c := by rw [he]; exact hc
    unfold pollWaiting
    simp only [hlooked, hending]
    rfl

/-- A call that is not over stays as it is. -/
theorem pollWaiting_of_unended (hc : n.underWay? t = some c) (hgoing : c.ending? n.now = none) :
    ∃ due, n.pollWaiting t = (.under due t, n) := by
  have hlooked : (n.engine? t.caller).bind (·.call? t.key) = some c := hc
  unfold Network.pollWaiting
  simp only [hlooked, hgoing]
  cases c.phase with
  | sending => exact ⟨n.now, rfl⟩
  | waiting deadline => exact ⟨deadline, rfl⟩

/-- **A call whose request was sent is looked at.** -/
theorem Made.pollWaiting (h : Made n t.caller evs n₁) (hnow : n₁.now = n.now)
    (hc : n₁.underWay? t = some c) : ∃ evs', Made n t.caller (evs ++ evs') (n₁.pollWaiting t).2 ∧
      Fleet.results (t.caller.took n.now evs') = (n₁.pollWaiting t).1.result?.toList := by
  obtain ⟨e, he, hcall⟩ := Option.bind_eq_some_iff.1 hc
  cases hending : c.ending? n₁.now with
  | some ending =>
    obtain ⟨hstep, hcounted⟩ := stepAt_of_pollWaiting hcall he hending
    have hlooked : (n₁.engine? t.caller).bind (·.call? t.key) = some c := hc
    have hover : (n₁.pollWaiting t).1 = .over (ending.result c) := by
      unfold Network.pollWaiting
      simp only [hlooked, hending]
    rw [hnow] at hstep
    refine ⟨[.ended c ending], ?_, by rw [hover]; rfl⟩
    rw [hcounted]
    exact h.took he hstep
  | none =>
    obtain ⟨due, hpoll⟩ := pollWaiting_of_unended hc hending
    rw [hpoll]
    exact ⟨[], by rw [List.append_nil]; exact h, rfl⟩

theorem now_requestSent (n : Network) (t : Ticket) : (n.requestSent t).now = n.now := by
  obtain ⟨link, hended⟩ := endSending_keeps n t.target t.request
  unfold requestSent Network.now
  rw [agenda_updateEngine, hended]

/-- **The request of a call has been sent**, which is still under way. -/
theorem made_requestSent (hc : n.underWay? t = some c) (hsending : c.phase = .sending) :
    Made n t.caller [.sent t.key] (n.requestSent t) ∧
      ∃ c', (n.requestSent t).underWay? { t with sendingUntil := none } = some c' := by
  obtain ⟨e, he, hcall⟩ := Option.bind_eq_some_iff.1 hc
  obtain ⟨link, hended⟩ := endSending_keeps n t.target t.request
  have hkey : c.key = t.key := by simpa using List.find?_some hcall
  have hstep : e.StepAt n.now (.sent t.key) (e.sent t.key n.now) := by
    rw [← hkey]
    exact .sent c (List.mem_of_find?_eq_some hcall) hsending
  have hengine : (n.requestSent t).engine? t.caller = some (e.sent t.key n.now) := by
    unfold requestSent
    rw [engine?_updateEngine_self, hended]
    show (n.engine? t.caller).map _ = _
    rw [he]
    rfl
  refine ⟨?_, ?_⟩
  · unfold requestSent
    rw [hended]
    exact ((Made.refl n t.caller).idle he hstep rfl).congr fun d => by
      cases t.caller <;> cases d <;> rfl
  · obtain ⟨c', hcall'⟩ := Engine.call?_sent hcall n.now
    refine ⟨c', ?_⟩
    unfold underWay?
    rw [hengine]
    exact hcall'

/-- **A call under way is looked at**: it ends with the result that is found, or goes on. -/
theorem made_poll (hc : n.underWay? t = some c)
    (hsending : t.sendingUntil ≠ none → c.phase = .sending) :
    ∃ evs, Made n t.caller evs (n.poll t).2 ∧
      Fleet.results (t.caller.took n.now evs) = (n.poll t).1.result?.toList := by
  unfold poll
  cases hdue : t.sendingUntil with
  | none => exact (Made.refl n t.caller).pollWaiting rfl hc
  | some due =>
    dsimp only
    split
    · obtain ⟨hmade, c', hc'⟩ := made_requestSent hc (hsending (by rw [hdue]; simp))
      obtain ⟨evs, hmade', hresult⟩ :=
        Made.pollWaiting (t := { t with sendingUntil := none }) hmade (now_requestSent n t) hc'
      exact ⟨_, hmade', hresult⟩
    · exact ⟨[], .refl n t.caller, rfl⟩

/-- **Steps that count nothing leave all metrics alone.** -/
theorem Made.metrics (h : Made n caller evs n₁) (hidle : ∀ ev ∈ evs, ev.count 1000000 = id)
    (d : Caller) : n₁.metrics? d = n.metrics? d := by
  unfold metrics?
  by_cases hd : caller.Shares d
  · rw [fleet?_of_shares hd, fleet?_of_shares hd]
    cases hf : n.fleet? caller with
    | none => rw [h.uncounted hf]
    | some f =>
      obtain ⟨f', hf', htrace⟩ := h.own f hf
      have hsame : f'.metrics = f.metrics := by
        refine Fleet.metrics_of_idle htrace fun ev hev => ?_
        obtain ⟨ev', hev', rfl⟩ := List.mem_map.1 hev
        exact ⟨_, _, ev', rfl, hidle ev' hev'⟩
      rw [hf', Option.map_some, Option.map_some, hsame]
  · rw [h.others d hd]

/-- **The request of an admitted call sets out**, or the call ends at once. -/
theorem made_setOut {m : Network} {e : Engine} (h : Made n caller evs m) (hnow : m.now = n.now)
    (he : m.engine? caller = some e) (hc : c ∈ e.calls) (hsending : c.phase = .sending)
    (target : String) (request : Envelope) : ∃ evs',
      Made n caller (evs ++ evs') (m.setOut caller c.key target request).2 ∧
      (∀ ev ∈ evs', ev.count 1000000 = id) ∧
      ∀ r ∈ Fleet.results (caller.took n.now evs'), ∃ reason, r = .error reason ∧
        (m.setOut caller c.key target request).1 = .error reason := by
  obtain ⟨link, hsent⟩ := beginSending_keeps m target request
  unfold setOut
  generalize m.beginSending target request = sending at hsent ⊢
  obtain ⟨outcome, m'⟩ := sending
  obtain rfl : m' = { m with link := link } := hsent
  have hmade : Made n caller evs { m with link := link } :=
    h.congr fun d => by cases d <;> rfl
  have he' : ({ m with link := link } : Network).engine? caller = some e := by
    rw [← he]
    cases caller <;> rfl
  cases outcome with
  | error reason =>
    refine ⟨[.ended c (.unsent reason)],
      hmade.idle he' (.unsent c reason hc hsending) rfl, fun ev hev => ?_, fun r hr => ?_⟩
    · rw [List.mem_singleton.1 hev]
      rfl
    · rw [List.mem_singleton.1 hr]
      exact ⟨.transport reason, rfl, rfl⟩
  | ok due =>
    cases due with
    | some due =>
      exact ⟨[], by rw [List.append_nil]; exact hmade, fun ev hev => absurd hev List.not_mem_nil,
        fun r hr => absurd hr List.not_mem_nil⟩
    | none =>
      have hstep : e.StepAt n.now (.sent c.key) (e.sent c.key m.now) := by
        rw [hnow]
        exact .sent c hc hsending
      refine ⟨[.sent c.key], hmade.idle he' hstep rfl, fun ev hev => ?_,
        fun r hr => absurd hr List.not_mem_nil⟩
      rw [List.mem_singleton.1 hev]
      rfl

/-- **A call is started**: it is refused, or admitted; then it is sent, or being sent, or it ends. -/
theorem made_start (n : Network) (caller : Caller) (action body : String) (route : Route)
    (name : Option String) (patience : Nat) : ∃ evs,
      Made n caller evs (n.start caller action body route name patience).2 ∧
      (∀ ev ∈ evs, ev.count 1000000 = id) ∧
      ∀ r ∈ Fleet.results (caller.took n.now evs), ∃ reason, r = .error reason ∧
        (n.start caller action body route name patience).1 = .error reason := by
  have hchosen : Made n caller [] (n.chooseId name).2 := (Made.refl n caller).congr fun d => by
    cases name <;> cases d <;> rfl
  have hnow : (n.chooseId name).2.now = n.now := congrArg Agenda.now (chooseId_keeps name n).1
  unfold start
  generalize n.chooseId name = chosen at *
  obtain ⟨i, n₁⟩ := chosen
  dsimp only at *
  cases he : n₁.engine? caller with
  | none =>
    exact ⟨[], hchosen, fun ev hev => absurd hev List.not_mem_nil,
      fun r hr => absurd hr List.not_mem_nil⟩
  | some e =>
    dsimp only
    have hstep : e.StepAt n.now (.started i (e.start i action patience n₁.now).1)
        (e.start i action patience n₁.now).2 := by
      rw [← hnow]
      exact .start i action patience
    have hrefused : ∀ reason, e.start i action patience n₁.now = (.error reason, e) → ∃ evs,
        Made n caller evs n₁ ∧ (∀ ev ∈ evs, ev.count 1000000 = id) ∧
        Fleet.results (caller.took n.now evs) = [] := by
      intro reason heq
      rw [heq] at hstep
      refine ⟨[.started i (.error reason)],
        (hchosen.idle (g := fun _ => e) he hstep rfl).congr fun d => ?_, fun ev hev => ?_, rfl⟩
      · exact (fleet?_updateEngine_of_eq (fun e' he' => Option.some.inj (he.symm.trans he')) d).symm
      · rw [List.mem_singleton.1 hev]
        rfl
    rcases e.start_cases i action patience n₁.now with ⟨-, heq⟩ | ⟨-, -, heq⟩ | ⟨-, -, heq⟩
    · obtain ⟨evs, hmade, hidle, hnone⟩ := hrefused _ heq
      rw [heq]
      exact ⟨evs, hmade, hidle, fun r hr => by rw [hnone] at hr; cases hr⟩
    · obtain ⟨evs, hmade, hidle, hnone⟩ := hrefused _ heq
      rw [heq]
      exact ⟨evs, hmade, hidle, fun r hr => by rw [hnone] at hr; cases hr⟩
    · rw [heq] at hstep ⊢
      have hmade := hchosen.idle (g := fun _ => e.admitting i action patience n₁.now) he hstep rfl
      have hengine : (n₁.updateEngine caller fun _ => e.admitting i action patience n₁.now).engine?
          caller = some (e.admitting i action patience n₁.now) := by
        rw [engine?_updateEngine_self, he]
        rfl
      have hlater : (n₁.updateEngine caller fun _ => e.admitting i action patience n₁.now).now =
          n.now := by
        rw [Network.now, agenda_updateEngine]
        exact hnow
      obtain ⟨evs, hset, hidle, hreturned⟩ := made_setOut hmade hlater hengine
        (List.mem_append_right _ (List.mem_singleton_self _)) rfl route.target
        (.request action body route i)
      refine ⟨_, hset, fun ev hev => ?_, hreturned⟩
      rcases List.mem_append.1 hev with hev | hev
      · rw [List.mem_singleton.1 hev]
        rfl
      · exact hidle ev hev

/-- A call whose request sets out is being sent as long as its ticket says so. -/
theorem sending_of_setOut {m : Network} {key : Nat} {target : String} {request : Envelope}
    {d : Call} (he : m.engine? caller = some e) (hd : e.call? key = some d)
    (hphase : d.phase = .sending) (hset : (m.setOut caller key target request).1 = .ok t)
    (hc : (m.setOut caller key target request).2.underWay? t = some c)
    (hsending : t.sendingUntil ≠ none) : c.phase = .sending := by
  obtain ⟨link, hsent⟩ := beginSending_keeps m target request
  unfold setOut at hset hc
  generalize m.beginSending target request = sending at hsent hset hc
  obtain ⟨outcome, m'⟩ := sending
  obtain rfl : m' = { m with link := link } := hsent
  cases outcome with
  | error reason => cases hset
  | ok due =>
    cases due with
    | none =>
      obtain rfl := Except.ok.inj hset
      exact absurd rfl hsending
    | some due =>
      obtain rfl := Except.ok.inj hset
      have hcall : m.underWay? ⟨caller, key, target, request, some due⟩ = some c := by
        rw [← hc]
        cases caller <;> rfl
      unfold underWay? at hcall
      rw [he] at hcall
      obtain rfl := Option.some.inj (hd.symm.trans hcall)
      exact hphase

/-- **A ticket says that a request is being sent only as long as its call does not wait.** -/
theorem sending_of_start {action body : String} {route : Route} {name : Option String}
    {patience : Nat} (he : n.engine? caller = some e) (hsound : e.Sound)
    (hstart : (n.start caller action body route name patience).1 = .ok t)
    (hc : (n.start caller action body route name patience).2.underWay? t = some c)
    (hsending : t.sendingUntil ≠ none) : c.phase = .sending := by
  have hengine : (n.chooseId name).2.engine? caller = some e := by
    rw [(chooseId_keeps name n).2.2.2 caller, he]
  unfold start at hstart hc
  generalize n.chooseId name = chosen at *
  obtain ⟨i, n₁⟩ := chosen
  dsimp only at *
  rw [hengine] at hstart hc
  dsimp only at hstart hc
  rcases e.start_cases i action patience n₁.now with ⟨-, heq⟩ | ⟨-, -, heq⟩ | ⟨-, hfree, heq⟩
  · rw [heq] at hstart
    cases hstart
  · rw [heq] at hstart
    cases hstart
  · rw [heq] at hstart hc
    have hadmitted : (n₁.updateEngine caller fun _ => e.admitting i action patience n₁.now).engine?
        caller = some (e.admitting i action patience n₁.now) := by
      rw [engine?_updateEngine_self, hengine]
      rfl
    exact sending_of_setOut hadmitted ((hsound.admitting hfree action patience n₁.now).call?_eq
      (List.mem_append_right _ (List.mem_singleton_self _))) rfl hstart hc hsending

/-- **A call is given up.** -/
theorem made_abandon (n : Network) (t : Ticket) : ∃ evs, Made n t.caller evs (n.abandon t) ∧
    (∀ ev ∈ evs, ev.count 1000000 = id) ∧
    Fleet.results (t.caller.took n.now evs) = [] := by
  unfold abandon
  cases he : n.engine? t.caller with
  | none =>
    refine ⟨[], (Made.refl n t.caller).congr (fleet?_updateEngine_of_eq fun e hsome => ?_),
      fun ev hev => absurd hev List.not_mem_nil, rfl⟩
    rw [he] at hsome
    cases hsome
  | some e =>
    cases hc : e.call? t.key with
    | none =>
      refine ⟨[], (Made.refl n t.caller).congr (fleet?_updateEngine_of_eq fun e' hsome => ?_),
        fun ev hev => absurd hev List.not_mem_nil, rfl⟩
      obtain rfl := Option.some.inj (he.symm.trans hsome)
      unfold Engine.release
      rw [hc]
    | some c =>
      have hkey : c.key = t.key := by simpa using List.find?_some hc
      have hstep : e.StepAt n.now (.dropped c) (e.release t.key) := by
        rw [← hkey]
        exact .drop c (List.mem_of_find?_eq_some hc)
      refine ⟨[.dropped c], (Made.refl n t.caller).idle he hstep rfl, fun ev hev => ?_, rfl⟩
      rw [List.mem_singleton.1 hev]
      rfl

end Calls

/-! ## 4. The main statement -/

/-- **The calls of a caller are steps of its engine**, and count as what they return. -/
structure Meters (n : Network) (caller : Caller) : Prop where
  /-- to start a call leaves all metrics alone; if it is admitted and cannot be sent, it has ended
  with the reason that is found -/
  started : ∀ action body route name patience, ∃ evs,
    Made n caller evs (n.start caller action body route name patience).2 ∧
    (∀ d, (n.start caller action body route name patience).2.metrics? d = n.metrics? d) ∧
    ∀ r ∈ Fleet.results (caller.took n.now evs), ∃ reason, r = .error reason ∧
      (n.start caller action body route name patience).1 = .error reason
  /-- a call does not wait as long as its request is being sent -/
  sending : ∀ action body route name patience e t c, n.engine? caller = some e → e.Sound →
    (n.start caller action body route name patience).1 = .ok t →
    (n.start caller action body route name patience).2.underWay? t = some c →
    t.sendingUntil ≠ none → c.phase = .sending
  /-- to look at such a call ends it with the result that is found, if one is -/
  polled : ∀ t c, t.caller = caller → n.underWay? t = some c →
    (t.sendingUntil ≠ none → c.phase = .sending) → ∃ evs, Made n caller evs (n.poll t).2 ∧
      Fleet.results (caller.took n.now evs) = (n.poll t).1.result?.toList
  /-- to give up a call leaves all metrics alone, and it returns nothing -/
  abandoned : ∀ t, t.caller = caller → ∃ evs, Made n caller evs (n.abandon t) ∧
    (∀ d, (n.abandon t).metrics? d = n.metrics? d) ∧ Fleet.results (caller.took n.now evs) = []
  /-- what is counted for a caller is counted in its own metrics only -/
  counted : ∀ count d, (caller.Shares d →
      (n.updateMetrics caller count).metrics? d = (n.metrics? d).map count) ∧
    (¬ caller.Shares d → (n.updateMetrics caller count).metrics? d = n.metrics? d)

theorem meters (n : Network) (caller : Caller) : Meters n caller where
  started action body route name patience := by
    obtain ⟨evs, hmade, hidle, hresults⟩ := made_start n caller action body route name patience
    exact ⟨evs, hmade, hmade.metrics hidle, hresults⟩
  sending _ _ _ _ _ _ _ _ := sending_of_start
  polled t c ht hc hsending := by
    subst ht
    exact made_poll hc hsending
  abandoned t ht := by
    subst ht
    obtain ⟨evs, hmade, hidle, hresults⟩ := made_abandon n t
    exact ⟨evs, hmade, hmade.metrics hidle, hresults⟩
  counted count d := by
    unfold metrics?
    constructor
    · intro hd
      rw [fleet?_of_shares hd, fleet?_of_shares hd, fleet?_updateMetrics, Option.map_map,
        Option.map_map]
      rfl
    · intro hd
      rw [fleet?_updateMetrics_of_not_shares hd]

end Network

namespace Fleet

/-- **The metrics of calls and their text are right**: whatever engines share them, since the last
reset they count the calls that received their response, sorted by how long these took, and the
calls that did not in time; and no other call. In a network, where such engines are those that share
the metrics of a caller, calls make steps of this kind only. -/
theorem calls_metered {tick : Nat} {family : String} {evs : List Event} {f : Fleet}
    (h : Trace (Step tick) (new family) evs f) (hfew : (returns evs).length < UInt64.size) :
    Accounts tick evs f.metrics ∧
      ∀ (n : Network) (caller : Caller), n.fleet? caller = some f → n.Meters caller :=
  ⟨accounts_of_trace h hfew, fun n caller _ => n.meters caller⟩

/-- The response to the first of the calls below. -/
def sharedResponse : Envelope := .response "ping" "pong" .blank "a"

/-- Two engines use the same id, and the metrics are reset while both calls are under way. Then one
call has its response after exactly ten milliseconds, and the other one has none in time. -/
def sharedRun : List Event :=
  [.joined, .joined, .took 0 5 (.started "a" (.ok 0)), .took 0 5 (.sent 0),
    .took 1 6 (.started "a" (.ok 0)), .took 1 6 (.sent 0), .reset,
    .took 0 15 (.received sharedResponse true),
    .took 0 15 (.ended ⟨0, "a", "ping", 20, 5, .waiting 25, .delivered sharedResponse⟩
      (.answered sharedResponse 10)),
    .took 1 26 (.ended ⟨0, "a", "ping", 20, 6, .waiting 26, .empty⟩ .timedOut)]

theorem calls_metered_shared :
    ∃ f, Trace (Step 1000000) (new "rse") sharedRun f ∧ (returns sharedRun).length < UInt64.size ∧
      (Accounts 1000000 sharedRun f.metrics ∧
        ∀ (n : Network) (caller : Caller), n.fleet? caller = some f → n.Meters caller) ∧
      (completed sharedRun).length = 1 ∧
      durations 1000000 sharedRun = [.ofMillis 10] ∧ (timedOut sharedRun).length = 1 := by
  have h₁ : Trace (Step 1000000) (new "rse") [.joined] _ := .snoc [] _ _ _ .start (.join 20 5)
  have h₂ := h₁.snoc _ _ _ _ (.join 20 5)
  have h₃ := h₂.snoc _ _ _ _ (.take 0 5 _ _ _ rfl (.start "a" "ping" 20))
  have h₄ := h₃.snoc _ _ _ _ (.take 0 5 _ _ _ rfl
    (.sent ⟨0, "a", "ping", 20, 5, .sending, .empty⟩ (List.mem_singleton_self _) rfl))
  have h₅ := h₄.snoc _ _ _ _ (.take 1 6 _ _ _ rfl (.start "a" "ping" 20))
  have h₆ := h₅.snoc _ _ _ _ (.take 1 6 _ _ _ rfl
    (.sent ⟨0, "a", "ping", 20, 6, .sending, .empty⟩ (List.mem_singleton_self _) rfl))
  have h₇ := h₆.snoc _ _ _ _ .reset
  have h₈ := h₇.snoc _ _ _ _ (.take 0 15 _ _ _ rfl (.receive sharedResponse))
  have h₉ := h₈.snoc _ _ _ _ (.take 0 15 _ _ _ rfl
    (.finish ⟨0, "a", "ping", 20, 5, .waiting 25, .delivered sharedResponse⟩ _
      (List.mem_singleton_self _) rfl))
  have h : Trace (Step 1000000) (new "rse") sharedRun _ := h₉.snoc _ _ _ _ (.take 1 26 _ _ _ rfl
    (.finish ⟨0, "a", "ping", 20, 6, .waiting 26, .empty⟩ _ (List.mem_singleton_self _) rfl))
  have hfew : (returns sharedRun).length < UInt64.size := by decide +kernel
  exact ⟨_, h, hfew, calls_metered h hfew, by decide +kernel, by decide +kernel, by decide +kernel⟩

end Fleet

end CardLink
