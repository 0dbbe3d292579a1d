import CardLink.Proofs.Card.RoundTrip
import CardLink.Proofs.Envelope.Wire
import CardLink.Proofs.Network.Bystanders
import CardLink.Proofs.Reader.Positions

/-!
# A transmission keeps positions

The application asks for a list of card requests to be run. Without requests nothing happens. Else
one call carries them all to the slave of the reader. Whatever the slave replies and whatever becomes
of the call, what the application gets has a place for each request, and each response of the reply
stands in its own.

* `Network.Addressed`: the request of a transmission.
* `Network.Outcome`: what a transmission has come to at some time.
* **`Network.transmit_keeps_positions`**: all this of any transmission, on any link.

NOT here: when the call is over, which depends on the link and the clock.
-/

namespace CardLink

namespace Network

variable {n n' : Network} {i r : Nat} {reader : Reader} {requests : List CardRequest}
  {request : Envelope} {ps evs : List Progress}

/-! ## 1. The request -/

/-- **The request of a transmission**: it carries the card requests, for the slave, the session and
the name of the reader. -/
structure Addressed (reader : Reader) (requests : List CardRequest) (e : Envelope) : Prop where
  action : e.action = Method.transmitSet.name
  isRequest : e.isRequest = true
  id : ∃ id, e.id = some id
  body : CardRequest.decoder.list.ofText e.body = .ok requests
  target : e.route.target = reader.session.slave
  requester : e.route.requester = reader.session.master
  session : e.route.sessionId = some reader.session.id
  name : e.route.virtualReader = reader.name
  native : e.route.nativeReader = reader.session.native
  /-- the slave takes it in as it was sent -/
  wire : Envelope.ofWire e.toWire = .ok e

theorem addressed_request (reader : Reader) (requests : List CardRequest) (id : String) :
    Addressed reader requests (.request (ReaderOperation.transmit requests).method.name
      (ReaderOperation.transmit requests).body reader.route id) where
  action := rfl
  isRequest := rfl
  id := ⟨id, rfl⟩
  body := bodies_read_back.cardRequests.reads requests
  target := rfl
  requester := rfl
  session := rfl
  name := rfl
  native := rfl
  wire := Envelope.ofWire_toWire _

/-! ## 2. The outcome -/

/-- **What a transmission has come to after these steps.** -/
structure Outcome (i : Nat) (reader : Reader) (requests : List CardRequest) (request : Envelope)
    (ps : List Progress) (n : Network) : Prop where
  /-- its request is handed to the link at most once, and nothing else is -/
  given : givens ps = [] ∨ givens ps = [(reader.session.slave, request)]
  /-- it has no result before its call is over, and then the one that this means -/
  result : findings ps = [] ∧ n.result? i = none ∨
    ∃ result verdict, findings ps = [result] ∧ n.result? i = some (.answer verdict) ∧
      ∀ v, v = verdict ↔ ReaderOperation.Verdict reader.name requests result v
  /-- what its task does next is handed to the link and counts as a step -/
  link : (n.turn i).link = n.link.give (n.progress i).given
  /-- its task makes no further call -/
  calls : ∀ d, (n.turn i).callsMade d = n.callsMade d

/-- A turn of the task of an operation makes no call, and hands over what it is to hand over. -/
theorem Course.next {op : ReaderOperation}
    (h : Course i r reader.session request op ps n) :
    (n.turn i).link = n.link.give (n.progress i).given ∧
      ∀ d, (n.turn i).callsMade d = n.callsMade d := by
  cases hjob : n.agenda.job? i with
  | none =>
    obtain ⟨hturn, hprogress⟩ := turn_of_gone hjob
    rw [hturn, hprogress]
    exact ⟨rfl, fun _ => rfl⟩
  | some job =>
    obtain ⟨-, key, due, rfl, -⟩ := h.job job hjob
    obtain ⟨reader', hreader, -⟩ := Option.map_eq_some_iff.1 h.held
    obtain ⟨-, hlink, hcalls, -⟩ := turned hjob rfl hreader
    exact ⟨hlink, hcalls⟩

theorem Course.outcome (h : Course i r reader.session request (.transmit requests) ps n) :
    Outcome i reader requests request ps n where
  given := h.given
  result := by
    rcases h.result with hopen | ⟨result, hfound, hresult⟩
    · exact .inl hopen
    · refine .inr ⟨result, _, hfound, hresult, fun v => ?_⟩
      rw [eq_comm]
      exact ReaderOperation.conclude_transmit_iff
  link := h.next.1
  calls := h.next.2

/-! ## 3. Without requests -/

/-- A task that is over stays as it is, and hands nothing over. -/
theorem gone_of_trace {result : Option Result} (hjob : n.agenda.job? i = none)
    (hresult : n.result? i = result) (h : Trace (Attended i r) n evs n') :
    givens evs = [] ∧ n'.agenda.job? i = none ∧ n'.result? i = result := by
  refine h.invariant (I := fun evs n' => givens evs = [] ∧ n'.agenda.job? i = none ∧
    n'.result? i = result) ⟨rfl, hjob, hresult⟩ fun evs n ev n' _ hI hs => ?_
  obtain ⟨hnone, hjob, hresult⟩ := hI
  rw [givens_snoc, hnone]
  cases hs with
  | turn =>
    obtain ⟨hturn, hprogress⟩ := turn_of_gone hjob
    rw [hturn, hprogress]
    exact ⟨rfl, hjob, hresult⟩
  | other _ hjob' hresult' _ =>
    refine ⟨rfl, ?_, hresult'.trans hresult⟩
    cases hsome : n'.agenda.job? i with
    | none => rfl
    | some job =>
      rw [hjob' job hsome] at hjob
      cases hjob

/-! ## 4. Any transmission -/

/-- **What becomes of a transmission** that was begun in `n`, from then on. -/
structure Transmitted (n : Network) (r : Nat) (reader : Reader) (requests : List CardRequest)
    (i : Nat) (n' : Network) : Prop where
  /-- without requests nothing is sent, now or later, and there are no responses -/
  nothing : requests = [] → n'.link = n.link ∧ (∀ d, n'.engine? d = n.engine? d) ∧
    ∀ evs m, Trace (Attended i r) n' evs m →
      givens evs = [] ∧ m.result? i = some (.answer (.ok (.responses [])))
  /-- else one call is started, by the engine of the reader, and it is made once at most; what is
  found when it is started, and in the turns of its task, decides what comes of all -/
  something : requests ≠ [] → ∃ request first, Addressed reader requests request ∧
    Begins n r reader (.transmit requests) request i n' first ∧
    n'.link = n.link.give first.given ∧
    (∀ d, n'.callsMade d ≤ n.callsMade d + if d = .reader r then 1 else 0) ∧
    ∀ evs m, Trace (Attended i r) n' evs m → Outcome i reader requests request (first :: evs) m
  /-- while time passes, only such steps are made, and the next transmission may be begun -/
  steps : ∀ time, (∃ evs, Trace (Attended i r) n' evs (n'.runUntil time)) ∧
    Numbered (n'.runUntil time)
  numbered : Numbered n'

/-- An operation that needs no call is over at once. -/
theorem launchOperation_immediate {op : ReaderOperation} {answer : ReaderAnswer}
    (h : op.immediate? = some answer) (n : Network) (r : Nat) (reader : Reader) :
    n.launchOperation r reader op = n.report (.answer (.ok answer)) := by
  unfold launchOperation
  rw [h]

theorem immediate?_transmit (h : requests ≠ []) :
    (ReaderOperation.transmit requests).immediate? = none := by
  cases requests with
  | nil => contradiction
  | cons request requests => rfl

/-- **A transmission keeps positions**, whatever the slave replies and whatever else happens: there
is one place for each request, each response stands in its own, and nothing else can come of it. -/
theorem transmit_keeps_positions (hreader : n.plugin.reader? r = some reader)
    (hnumbered : Numbered n) (requests : List CardRequest) :
    Transmitted n r reader requests (n.launchOperation r reader (.transmit requests)).1
      (n.launchOperation r reader (.transmit requests)).2 := by
  by_cases hnone : requests = []
  · subst hnone
    rw [launchOperation_immediate rfl]
    have hresult : (n.report (.answer (.ok (.responses [])))).2.result? n.agenda.nextId =
        some (.answer (.ok (.responses []))) :=
      lookup_append_self (hnumbered _ (Nat.le_refl _)).2 _
    have hnext : Numbered (n.report (.answer (.ok (.responses [])))).2 := by
      intro i hi
      have hlater : n.agenda.nextId + 1 ≤ i := hi
      obtain ⟨hjob, hopen⟩ := hnumbered i (Nat.le_of_succ_le hlater)
      exact ⟨hjob, lookup_append_other hopen (Nat.ne_of_gt hlater) _⟩
    refine ⟨fun _ => ⟨rfl, fun d => ?_, fun evs m h => ?_⟩, fun h => absurd rfl h,
      fun time => ⟨?_, numbered_scheduling.runUntil time _ hnext⟩, hnext⟩
    · cases d <;> rfl
    · have hgone : (n.report (.answer (.ok (.responses [])))).2.agenda.job? n.agenda.nextId =
          none := (hnumbered _ (Nat.le_refl _)).1
      obtain ⟨hgivens, -, hlater⟩ := gone_of_trace hgone hresult h
      exact ⟨hgivens, hlater⟩
    · exact (attended_scheduling.runUntil time _ (Nat.lt_succ_self n.agenda.nextId)).2
  · obtain ⟨request, first, hlaunched⟩ := launched hreader hnumbered (immediate?_transmit hnone)
    refine ⟨fun h => absurd h hnone, fun _ => ?_, fun time => ?_, hlaunched.numbered⟩
    · have hbegins := hlaunched.begins
      obtain ⟨id, rfl⟩ := hlaunched.asked
      refine ⟨_, first, addressed_request reader requests id, hbegins, hlaunched.link,
        hlaunched.calls, fun evs m h => ?_⟩
      exact (course_of_trace hlaunched.course h).outcome
    · exact ⟨(attended_scheduling.runUntil time _ hlaunched.ids).2,
        numbered_scheduling.runUntil time _ hlaunched.numbered⟩

/-- A reader of the slave `"S"`. -/
def slotReader : Reader :=
  (Plugin.new Identifier.session "P" "M" 50 1).newcomer "Slot 1" "S" .contactless .empty

/-- A master with this reader only. -/
def soleReader : Network :=
  .new Identifier.call (.outbox (.new "M" 0 false))
    ((Node.ofConfig .default "M").withPlugin
      ((Plugin.new Identifier.session "P" "M" 50 1).enroll "Slot 1" "S" .contactless .empty)) .idle

/-- Two requests were transmitted, and the reply comes in: it has one place, which is empty. -/
def halfReplied : Network :=
  ((soleReader.launchOperation 0 slotReader (.transmit [.empty, .empty])).2.dispatch
    (.response Method.transmitSet.name "[null]" slotReader.route.reverse (Identifier.call 1))).2

/-- A reply with one place for two requests: both places are empty in the end. -/
theorem transmit_keeps_positions_short :
    soleReader.plugin.reader? 0 = some slotReader ∧ Numbered soleReader ∧
      Transmitted soleReader 0 slotReader [.empty, .empty]
        (soleReader.launchOperation 0 slotReader (.transmit [.empty, .empty])).1
        (soleReader.launchOperation 0 slotReader (.transmit [.empty, .empty])).2 ∧
      halfReplied.progress 0 = ⟨none, some (.ok "[null]")⟩ ∧
      (halfReplied.turn 0).result? 0 = some (.answer (.ok (.responses [none, none]))) := by
  have hreader : soleReader.plugin.reader? 0 = some slotReader :=
    Plugin.reader?_enroll_new (Plugin.new Identifier.session "P" "M" 50 1) "Slot 1" "S"
      .contactless .empty
  have hnumbered : Numbered soleReader := numbered_new _ _ _ _
  have htransmitted := transmit_keeps_positions hreader hnumbered [.empty, .empty]
  have hprogress : halfReplied.progress 0 = ⟨none, some (.ok "[null]")⟩ := rfl
  refine ⟨hreader, hnumbered, htransmitted, hprogress, ?_⟩
  obtain ⟨request, first, -, hbegins, -, -, houtcome⟩ := htransmitted.something (by simp)
  have hwaits : first.result = none := by
    cases hbegins with
    | atOnce given reason hstart hjob => cases hjob
    | underWay => rfl
  -- the reply comes in, and then the task has its turn
  have hsteps : Trace (Attended 0 0)
      (soleReader.launchOperation 0 slotReader (.transmit [.empty, .empty])).2
      [⟨none, none⟩, halfReplied.progress 0] (halfReplied.turn 0) :=
    .snoc [_] _ _ _ (.snoc [] _ _ _ .start (.other halfReplied (fun _ h => h) rfl fun _ h => h))
      .turn
  have hfindings : findings [first, ⟨none, none⟩, halfReplied.progress 0] = [.ok "[null]"] := by
    simp [findings, hwaits, hprogress]
  rcases (houtcome _ _ hsteps).result with ⟨hnone, -⟩ | ⟨result, verdict, hfound, hresult, hiff⟩
  · rw [hfindings] at hnone
    cases hnone
  · obtain rfl : .ok "[null]" = result := List.singleton_inj.1 (hfindings.symm.trans hfound)
    have hshort : [(none : Option CardResponse)].length ≤ [CardRequest.empty, .empty].length := by
      decide
    have hverdict := ReaderOperation.conclude_transmit_iff.1
      (ReaderOperation.conclude_echo slotReader.name hshort)
    obtain rfl := (hiff _).2 hverdict
    exact hresult

end Network

end CardLink
