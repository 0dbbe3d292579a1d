import CardLink.Proofs.Network.Calls
import CardLink.Proofs.Network.Scheduling

/-!
# An operation on a reader while it is under way

An operation that needs the slave starts one call and has a task that looks at it now and then. What
else goes on meanwhile does not matter: the operation takes the result that its call came to, and
makes of it what this means for the operation.

* `Network.Progress`: what a step brings for the call of a task.
* `Network.Attended`: one step while the task is under way, its own or any other.
* **`Network.course_of_trace`**: what is known of an operation at each time.
* `Network.Begins`: what its call brings it when it is started.
* `Network.attended_turn`, `Network.attended_scheduling`: all that tasks do are such steps.
-/

namespace CardLink

namespace Plugin

variable {p q : Plugin} {r : Nat}

/-- The session of the reader with this number. -/
def session? (p : Plugin) (r : Nat) : Option Session := (p.reader? r).map (·.session)

theorem Apart.session? (h : Apart p q) (r : Nat) : q.session? r = p.session? r := by
  have hstanding : (q.readers.map Reader.standing)[r]? = (p.readers.map Reader.standing)[r]? := by
    rw [h.readers]
  rw [List.getElem?_map, List.getElem?_map] at hstanding
  have hfst := congrArg (Option.map Prod.fst) hstanding
  rw [Option.map_map, Option.map_map] at hfst
  exact hfst

end Plugin

namespace Network

variable {n n' : Network} {i r : Nat} {t : Ticket} {op : ReaderOperation} {reader : Reader}
  {result : Except CallError String}

/-! ## 1. A turn of the task -/

/-- What a step brings for the call of a task. -/
structure Progress where
  /-- what is handed to the link -/
  given : Option (String × Envelope)
  /-- what the call is found to have come to -/
  result : Option (Except CallError String)

/-- What a turn of a task brings for its call. -/
def progress (n : Network) (i : Nat) : Progress :=
  match n.agenda.job? i with
  | some (.call t _) =>
    ⟨n.handed? t, match (n.poll t).1 with | .over result => some result | .under _ _ => none⟩
  | _ => ⟨none, none⟩

theorem callsMade_withPlugin {p : Plugin} (h : ∀ r, p.engine? r = n.plugin.engine? r) (d : Caller) :
    (n.withPlugin p).callsMade d = n.callsMade d := by
  cases d with
  | reader r => exact congrArg (fun e => (Option.map Engine.nextKey e).getD 0) (h r)
  | _ => rfl

/-- **What the result of its call means** is what the operation comes to. -/
theorem conclude_operation (hreader : n.plugin.reader? r = some reader) (op : ReaderOperation)
    (result : Except CallError String) :
    ∃ p, n.conclude (.operation op) (.reader r) result =
        (.answer (op.conclude reader.name result), n.withPlugin p) ∧
      Plugin.Apart n.plugin p ∧ ∀ r, p.engine? r = n.plugin.engine? r := by
  have hsession : ∀ r : Reader, (r.remember op).standing = r.standing := by
    intro r
    cases op <;> rfl
  have hengine : ∀ r : Reader, (r.remember op).engine = r.engine := by
    intro r
    cases op <;> rfl
  unfold conclude
  dsimp only
  rw [hreader]
  dsimp only
  cases op.conclude reader.name result with
  | error e => exact ⟨n.plugin, rfl, .of_readers rfl rfl rfl, fun _ => rfl⟩
  | ok answer =>
    exact ⟨_, rfl, Plugin.apart_updateReader n.plugin r hsession,
      fun k => Plugin.engine?_updateReader n.plugin r k hengine⟩

/-- **What a turn of its task makes of an operation**, by what it brings for the call. -/
inductive Turned (n : Network) (i : Nat) (t : Ticket) (op : ReaderOperation) (name : String)
    (n' : Network) : Progress → Prop where
  | waits (t' : Ticket) (given : Option (String × Envelope))
      (hjob : n'.agenda.job? i = some (.call t' (.operation op)))
      (hresults : n'.results = n.results)
      (hticket : t' = t ∧ given = none ∨ t' = { t with sendingUntil := none }) :
      Turned n i t op name n' ⟨given, none⟩
  | ends (given : Option (String × Envelope)) (result : Except CallError String)
      (hjob : n'.agenda.job? i = none)
      (hresults : n'.results = n.results ++ [(i, .answer (op.conclude name result))]) :
      Turned n i t op name n' ⟨given, some result⟩

theorem turn_of_job {job : Job} (hjob : n.agenda.job? i = some job) :
    ∃ task, n.agenda.task? i = some task ∧ task.job = job :=
  Option.map_eq_some_iff.1 hjob

theorem turn_call {p : Purpose} (hjob : n.agenda.job? i = some (.call t p)) :
    n.turn i = n.turnCall i t p := by
  obtain ⟨task, htask, hcall⟩ := turn_of_job hjob
  unfold turn
  rw [htask]
  dsimp only
  rw [hcall]

/-- **One turn of the task of an operation.** -/
theorem turned (hjob : n.agenda.job? i = some (.call t (.operation op)))
    (hcaller : t.caller = .reader r) (hreader : n.plugin.reader? r = some reader) :
    Turned n i t op reader.name (n.turn i) (n.progress i) ∧
      (n.turn i).link = n.link.give (n.progress i).given ∧
      (∀ d, (n.turn i).callsMade d = n.callsMade d) ∧
      (n.turn i).plugin.session? r = n.plugin.session? r := by
  have hlooked := looked_poll n t
  have hidle := (idle_poll n t).apart
  unfold progress
  rw [hjob, turn_call hjob]
  dsimp only
  unfold turnCall
  generalize n.poll t = looking at hlooked hidle ⊢
  obtain ⟨standing, n₁⟩ := looking
  rcases standing with ⟨due, t'⟩ | result
  · refine ⟨.waits t' _ ?_ hlooked.results ?_, hlooked.link, hlooked.calls, hidle.session? r⟩
    · show ((n₁.agenda.setJob i (.call t' (.operation op))).awaitTime i due).job? i = _
      rw [Agenda.job?_awaitTime, Agenda.job?_setJob, if_pos rfl, hlooked.agenda, hjob]
      rfl
    · exact hlooked.ticket due t' rfl
  · dsimp only at hidle ⊢
    obtain ⟨reader', hreader', hstanding⟩ := hidle.symm.reader hreader
    have hname : reader'.name = reader.name := Plugin.name_eq_of_standing hstanding
    obtain ⟨p, hconclude, hapart, hengine⟩ := conclude_operation hreader' op result
    rw [hcaller, hconclude, hname]
    refine ⟨.ends _ result ?_ ?_, hlooked.link, fun d => ?_, ?_⟩
    · show (n₁.agenda.remove i).job? i = none
      rw [Agenda.job?_remove, if_pos rfl]
    · show n₁.results ++ _ = _
      rw [hlooked.results]
    · exact (callsMade_withPlugin hengine d).trans (hlooked.calls d)
    · exact (hapart.session? r).trans (hidle.session? r)

/-! ## 2. While the task is under way -/

/-- **One step while a task is under way**: it has a turn, or something else happens that leaves its
job and its result alone, and the session of the reader. -/
inductive Attended (i r : Nat) (n : Network) : Progress → Network → Prop where
  | turn : Attended i r n (n.progress i) (n.turn i)
  /-- the task may be given up -/
  | other (n' : Network)
      (hjob : ∀ job, n'.agenda.job? i = some job → n.agenda.job? i = some job)
      (hresult : n'.result? i = n.result? i)
      (hsession : ∀ s, n.plugin.session? r = some s → n'.plugin.session? r = some s) :
      Attended i r n ⟨none, none⟩ n'

/-- What was handed to the link, the earliest first. -/
def givens (ps : List Progress) : List (String × Envelope) := ps.filterMap (·.given)

/-- What the call was found to have come to. -/
def findings (ps : List Progress) : List (Except CallError String) := ps.filterMap (·.result)

/-- **What is known of an operation after these steps**: its request was handed to the link at most
once, and it has come to what its call came to. -/
structure Course (i r : Nat) (session : Session) (request : Envelope) (op : ReaderOperation)
    (ps : List Progress) (n : Network) : Prop where
  held : n.plugin.session? r = some session
  given : givens ps = [] ∨ givens ps = [(session.slave, request)]
  result : findings ps = [] ∧ n.result? i = none ∨ ∃ result, findings ps = [result] ∧
    n.result? i =
      some (.answer (op.conclude (ReaderName.make session.native session.slave) result))
  /-- while the task is under way; what takes time was not given yet -/
  job : ∀ job, n.agenda.job? i = some job → findings ps = [] ∧ ∃ key due,
    job = .call ⟨.reader r, key, session.slave, request, due⟩ (.operation op) ∧
      (due.isSome → givens ps = [])

section Course

variable {session : Session} {request : Envelope} {ps evs : List Progress} {p : Progress}

theorem givens_snoc : givens (ps ++ [p]) = givens ps ++ p.given.toList := by
  unfold givens
  rw [List.filterMap_append]
  cases p with
  | mk given result => cases given <;> rfl

theorem findings_snoc : findings (ps ++ [p]) = findings ps ++ p.result.toList := by
  unfold findings
  rw [List.filterMap_append]
  cases p with
  | mk given result => cases result <;> rfl

/-- A request is handed over once the sending of it is over. -/
theorem handed?_cases (n : Network) (t : Ticket) : n.handed? t = none ∨
    t.sendingUntil.isSome ∧ n.handed? t = some (t.target, t.request) := by
  unfold handed?
  split
  · rename_i due hdue
    split
    · exact .inr ⟨by rw [hdue]; rfl, rfl⟩
    · exact .inl rfl
  · exact .inl rfl

theorem given_progress {purpose : Purpose} (hjob : n.agenda.job? i = some (.call t purpose)) :
    (n.progress i).given = n.handed? t := by
  unfold progress
  rw [hjob]

/-- Nothing happens to a task that is over. -/
theorem turn_of_gone (hjob : n.agenda.job? i = none) :
    n.turn i = n ∧ n.progress i = ⟨none, none⟩ := by
  have htask : n.agenda.task? i = none := Option.map_eq_none_iff.1 hjob
  refine ⟨?_, ?_⟩
  · unfold turn
    rw [htask]
  · unfold progress
    rw [hjob]

/-- **One turn of the task** keeps what is known. -/
theorem Course.turn (h : Course i r session request op ps n) :
    Course i r session request op (ps ++ [n.progress i]) (n.turn i) := by
  cases hjob : n.agenda.job? i with
  | none =>
    obtain ⟨hturn, hprogress⟩ := turn_of_gone hjob
    have hgivens : givens (ps ++ [n.progress i]) = givens ps := by rw [givens_snoc, hprogress]; simp
    have hfindings : findings (ps ++ [n.progress i]) = findings ps := by
      rw [findings_snoc, hprogress]
      simp
    rw [hturn]
    exact ⟨h.held, hgivens ▸ h.given, hfindings ▸ h.result, hgivens ▸ hfindings ▸ h.job⟩
  | some job =>
    obtain ⟨hnone, key, due, rfl, hlater⟩ := h.job job hjob
    obtain ⟨reader, hreader, rfl⟩ := Option.map_eq_some_iff.1 h.held
    have hopen : n.result? i = none := by
      rcases h.result with ⟨-, hopen⟩ | ⟨result, hfound, -⟩
      · exact hopen
      · rw [hnone] at hfound
        cases hfound
    obtain ⟨hturned, -, -, hsession⟩ := turned hjob rfl hreader
    have hgiven : givens (ps ++ [n.progress i]) = [] ∨
        givens (ps ++ [n.progress i]) = [(reader.session.slave, request)] := by
      rw [givens_snoc, given_progress hjob]
      rcases handed?_cases n ⟨.reader r, key, reader.session.slave, request, due⟩ with
        hno | ⟨hdue, hyes⟩
      · rw [hno]
        simpa using h.given
      · rw [hyes, hlater hdue]
        exact .inr rfl
    have hgivens := given_progress hjob
    generalize hp : n.progress i = progress at hturned hgiven hgivens ⊢
    cases hturned with
    | waits t' given hjob' hresults hticket =>
      have hfindings : findings (ps ++ [⟨given, none⟩]) = [] := by
        rw [findings_snoc, hnone]
        rfl
      refine ⟨hsession.trans h.held, hgiven, .inl ⟨hfindings, ?_⟩, fun job hj => ⟨hfindings, ?_⟩⟩
      · unfold result?
        rw [hresults]
        exact hopen
      · obtain rfl := Option.some.inj (hjob'.symm.trans hj)
        rcases hticket with ⟨rfl, rfl⟩ | rfl
        · refine ⟨key, due, rfl, fun hdue => ?_⟩
          rw [givens_snoc, hlater hdue]
          rfl
        · exact ⟨key, none, rfl, fun hdue => by cases hdue⟩
    | ends given result hjob' hresults =>
      refine ⟨hsession.trans h.held, hgiven, .inr ⟨result, ?_, ?_⟩, fun job hj => ?_⟩
      · rw [findings_snoc, hnone]
        rfl
      · unfold result?
        rw [hresults]
        exact lookup_append_self hopen _
      · rw [hjob'] at hj
        cases hj

/-- **One step** keeps what is known. -/
theorem Course.step (h : Course i r session request op ps n) (hs : Attended i r n p n') :
    Course i r session request op (ps ++ [p]) n' := by
  cases hs with
  | turn => exact h.turn
  | other _ hjob hresult hsession =>
    have hgivens : givens (ps ++ [⟨none, none⟩]) = givens ps := by rw [givens_snoc]; simp
    have hfindings : findings (ps ++ [⟨none, none⟩]) = findings ps := by rw [findings_snoc]; simp
    refine ⟨hsession session h.held, hgivens ▸ h.given, ?_, fun job hj => ?_⟩
    · rw [hfindings, hresult]
      exact h.result
    · rw [hgivens, hfindings]
      exact h.job job (hjob job hj)

/-- **What is known of an operation at each time.** -/
theorem course_of_trace (h : Course i r session request op ps n)
    (ht : Trace (Attended i r) n evs n') :
    Course i r session request op (ps ++ evs) n' := by
  refine ht.invariant (I := fun evs n' => Course i r session request op (ps ++ evs) n') ?_
    fun evs _ _ _ _ hI hs => ?_
  · simpa using h
  · rw [← List.append_assoc]
    exact hI.step hs

end Course

/-! ## 3. How it begins -/

/-- Every task and every result has an id that was given out. -/
def Numbered (n : Network) : Prop :=
  ∀ i, n.agenda.nextId ≤ i → n.agenda.job? i = none ∧ n.result? i = none

theorem numbered_new (callIds : Nat → String) (link : Link) (node : Node) (client : Client) :
    Numbered (.new callIds link node client) := fun _ _ => ⟨rfl, rfl⟩

/-- **What its call brings an operation when it is started**: it is over at once, and this is the
result that is found, or the task with this id looks at it from then on. -/
inductive Begins (n : Network) (r : Nat) (reader : Reader) (op : ReaderOperation)
    (request : Envelope) (id : Nat) (n' : Network) : Progress → Prop where
  | atOnce (given : Option (String × Envelope)) (reason : CallError)
      (hstart : (n.start (.reader r) op.method.name op.body reader.route none
        reader.engine.patience).1 = .error reason) (hjob : n'.agenda.job? id = none) :
      Begins n r reader op request id n' ⟨given, some (.error reason)⟩
  | underWay (given : Option (String × Envelope)) (t : Ticket)
      (hstart : (n.start (.reader r) op.method.name op.body reader.route none
        reader.engine.patience).1 = .ok t) (hcaller : t.caller = .reader r)
      (htarget : t.target = reader.session.slave) (hrequest : t.request = request)
      (hjob : n'.agenda.job? id = some (.call t (.operation op))) :
      Begins n r reader op request id n' ⟨given, none⟩

/-- **How an operation begins** that needs the slave. -/
structure Launched (n : Network) (r : Nat) (reader : Reader) (op : ReaderOperation)
    (request : Envelope) (first : Progress) (id : Nat) (n' : Network) : Prop where
  fresh : id = n.agenda.nextId
  asked : ∃ id, request = .request op.method.name op.body reader.route id
  begins : Begins n r reader op request id n' first
  link : n'.link = n.link.give first.given
  calls : ∀ d, n'.callsMade d ≤ n.callsMade d + if d = .reader r then 1 else 0
  numbered : Numbered n'
  ids : id < n'.agenda.nextId
  course : Course id r reader.session request op [first] n'

theorem launched (hreader : n.plugin.reader? r = some reader) (hnumbered : Numbered n)
    (hop : op.immediate? = none) : ∃ request first, Launched n r reader op request first
      (n.launchOperation r reader op).1 (n.launchOperation r reader op).2 := by
  obtain ⟨given, hbegan⟩ := began_start n (.reader r) op.method.name op.body reader.route none
    reader.engine.patience
  have hapart := (idle_start n (.reader r) op.method.name op.body reader.route none
    reader.engine.patience).apart
  have hasked : ∃ id, Envelope.request op.method.name op.body reader.route (n.chooseId none).1 =
      .request op.method.name op.body reader.route id := ⟨_, rfl⟩
  unfold launchOperation
  rw [hop]
  dsimp only
  unfold launch
  generalize Envelope.request op.method.name op.body reader.route (n.chooseId none).1 = request
    at hbegan hasked
  generalize hstart : n.start (.reader r) op.method.name op.body reader.route none
    reader.engine.patience = starting at hbegan hapart ⊢
  obtain ⟨outcome, n₁⟩ := starting
  dsimp only at hbegan hapart
  have hheld : n₁.plugin.session? r = some reader.session := by
    rw [hapart.session? r, Plugin.session?, hreader]
    rfl
  have hfresh : n₁.agenda.nextId = n.agenda.nextId := by rw [hbegan.agenda]
  have hnumbered₁ : ∀ i, n₁.agenda.nextId ≤ i →
      n₁.agenda.job? i = none ∧ n₁.results.lookup i = none := by
    rw [hbegan.agenda, hbegan.results]
    exact hnumbered
  obtain ⟨hfree, hunknown⟩ := hnumbered₁ _ (Nat.le_refl _)
  have hgiven : ∀ result, givens [⟨given, result⟩] = [] ∨
      givens [⟨given, result⟩] = [(reader.session.slave, request)] := by
    intro result
    rcases hbegan.own with rfl | rfl
    · exact .inl rfl
    · exact .inr rfl
  cases outcome with
  | error reason =>
    obtain ⟨reader', hreader', hstanding⟩ := hapart.symm.reader hreader
    have hname : reader'.name = reader.name := Plugin.name_eq_of_standing hstanding
    obtain ⟨p, hconclude, hapart', hengine⟩ := conclude_operation hreader' op (.error reason)
    dsimp only
    rw [hconclude, hname]
    refine ⟨request, ⟨given, some (.error reason)⟩, hfresh, hasked,
      .atOnce given reason (congrArg Prod.fst hstart) hfree, hbegan.link, fun d => ?_,
      fun i hi => ?_, Nat.lt_succ_self _, (hapart'.session? r).trans hheld, hgiven _,
      .inr ⟨_, rfl, ?_⟩, fun job hjob => ?_⟩
    · exact Nat.le_trans (Nat.le_of_eq (callsMade_withPlugin hengine d)) (hbegan.calls d)
    · have hlater : n₁.agenda.nextId + 1 ≤ i := hi
      obtain ⟨hnone, hopen⟩ := hnumbered₁ i (Nat.le_of_succ_le hlater)
      exact ⟨hnone, lookup_append_other hopen (Nat.ne_of_gt hlater) _⟩
    · exact lookup_append_self hunknown _
    · have hnone : n₁.agenda.job? n₁.agenda.nextId = some job := hjob
      rw [hfree] at hnone
      cases hnone
  | ok t =>
    obtain ⟨key, due, rfl, hlater⟩ := hbegan.ticket t rfl
    have hspawned : (n₁.agenda.spawn (.call ⟨.reader r, key, reader.session.slave, request, due⟩
        (.operation op))).2.job? n₁.agenda.nextId =
          some (.call ⟨.reader r, key, reader.session.slave, request, due⟩ (.operation op)) := by
      rw [Agenda.job?_spawn, hfree, if_pos rfl]
      rfl
    refine ⟨request, ⟨given, none⟩, hfresh, hasked,
      .underWay given _ (congrArg Prod.fst hstart) rfl rfl rfl hspawned, hbegan.link, hbegan.calls,
      fun i hi => ?_, Nat.lt_succ_self _, hheld, hgiven _, .inl ⟨rfl, hunknown⟩,
      fun job hjob => ⟨rfl, key, due, ?_, fun hdue => ?_⟩⟩
    · have hlater : n₁.agenda.nextId + 1 ≤ i := hi
      obtain ⟨hnone, hopen⟩ := hnumbered₁ i (Nat.le_of_succ_le hlater)
      exact ⟨(Agenda.job?_spawn_of_ne (Nat.ne_of_gt hlater)).trans hnone, hopen⟩
    · exact Option.some.inj (hjob.symm.trans hspawned)
    · rw [hlater hdue]
      rfl

end Network

end CardLink
