import CardLink.Network.Call

/-!
# Running the tasks of a network

One turn (`turn`) lets one task go on until it has to wait. `settle` gives turns until no task can go
on at the present time; `runUntil` moves the clock from alarm to alarm up to a given time, and
`await` up to the end of a task.

The number of turns is bounded by a budget computed from the tasks and the texts under way, since
each text causes at most one response and each response ends at most one call.
-/

namespace CardLink.Network

/-! ## What a call was for -/

/-- Takes in the result of a call. -/
def conclude (purpose : Purpose) (caller : Caller) (result : Except CallError String)
    (n : Network) : Result × Network :=
  match purpose, caller with
  | .operation op, .reader r =>
    match n.plugin.reader? r with
    | none => (.text result, n)
    | some reader =>
      let answer := op.conclude reader.name result
      match answer with
      | .ok _ => (.answer answer, n.withPlugin (n.plugin.updateReader r (·.remember op)))
      | .error _ => (.answer answer, n)
  | .connect native, .slave j =>
    match n.slave? j with
    | none => (.text result, n)
    | some s =>
      let (r, s) := s.connected native result
      (.connected r, n.updateSlave j fun _ => s)
  | .disconnect native, .slave j =>
    match n.slave? j with
    | none => (.text result, n)
    | some s =>
      let (r, s) := s.disconnected native result
      (.disconnected r, n.updateSlave j fun _ => s)
  | _, _ => (.text result, n)

/-! ## Turns of the tasks -/

/-- A call looks whether it has come to its end. -/
def turnCall (id : Nat) (t : Ticket) (purpose : Purpose) (n : Network) : Network :=
  match n.poll t with
  | (.under due t, n) => n.mapAgenda fun a => (a.setJob id (.call t purpose)).awaitTime id due
  | (.over result, n) =>
    let (r, n) := n.conclude purpose t.caller result
    n.complete id r

/-- Some task holds on to a reader: a call on it is under way. -/
def holds (r : Nat) : Job → Bool
  | .call t _ => t.caller == .reader r
  | .monitor _ (some t) => t.caller == .reader r
  | _ => false

/-- A reader still exists: it is registered, or the application or a task holds on to it. -/
def isAlive (r : Nat) (n : Network) : Bool :=
  n.plugin.registry.values.contains r || n.kept.values.contains r
    || n.agenda.tasks.any fun t => holds r t.job

/-- Ends the task of a monitor. -/
def endMonitor (id m : Nat) (n : Network) : Network :=
  (n.withPlugin (n.plugin.updateMonitor m Monitor.finish)).endTask id

/-- A monitor takes in the outcome of its poll, and goes on at once. -/
def monitorPolled (id m : Nat) (result : Except CallError String) (n : Network) : Network :=
  let answer := match ReaderOperation.isPresent.conclude "" result with
    | .ok (.present b) => some b
    | _ => none
  let n := n.withPlugin (n.plugin.polled m answer)
  match n.plugin.monitor? m with
  | some monitor =>
    if monitor.isRunning then n.mapAgenda fun a => (a.setJob id (.monitor m none)).wakeFirst id
    else n.endTask id
  | none => n.endTask id

/-- A monitor begins a poll that was due at `due`. -/
def monitorPolls (id m due : Nat) (monitor : Monitor) (n : Network) : Network :=
  match n.plugin.reader? monitor.reader with
  | none => n.endMonitor id m
  | some reader =>
    let caller := Caller.reader monitor.reader
    let op := ReaderOperation.isPresent
    match n.start caller op.method.name op.body reader.route none reader.engine.patience with
    | (.error reason, n) =>
      (n.withPlugin (n.plugin.updateMonitor m (·.begin due n.now 0))).monitorPolled id m
        (.error reason)
    | (.ok t, n) =>
      (n.withPlugin (n.plugin.updateMonitor m (·.begin due n.now t.key))).mapAgenda fun a =>
        (a.setJob id (.monitor m (some t))).wakeFirst id

/-- A monitor waits for the time of its poll or looks at the poll under way. -/
def turnMonitor (id m : Nat) (poll : Option Ticket) (n : Network) : Network :=
  match n.plugin.monitor? m with
  | none => n.endTask id
  | some monitor =>
    match poll with
    | some t =>
      match n.poll t with
      | (.under due t, n) =>
        n.mapAgenda fun a => (a.setJob id (.monitor m (some t))).awaitTime id due
      | (.over result, n) => n.monitorPolled id m result
    | none =>
      if monitor.stopped || monitor.period == 0 then n.endMonitor id m
      else
        match monitor.state with
        | .idle due =>
          if n.now < due then n.mapAgenda (·.awaitTime id due)
          else if n.isAlive monitor.reader then n.monitorPolls id m due monitor
          else n.endMonitor id m
        | _ => n.endMonitor id m

/-- The master takes in an envelope from the hub. -/
def masterReceives (e : Envelope) (n : Network) : Network :=
  match n.node.dispatch e with
  | (.ended _, node) => { n with node := node }
  | (.replying reply, node) =>
    let (sent, n) := { n with node := node }.beginSending reply.target reply.envelope
    { n with node := (n.node.conclude reply (sent.map fun _ => ())).2 }

/-- A slave takes in an envelope from the hub. Its response is sent by a task of its own. -/
def slaveReceives (j : Nat) (e : Envelope) (n : Network) : Network :=
  match n.slave? j with
  | none => n
  | some s =>
    match s.receive e with
    | (none, s) => n.updateSlave j fun _ => s
    | (some response, s) =>
      ((n.updateSlave j fun _ => s).spawn (.respond s.delay e.route.requester response)).2

def receive (receiver : Receiver) (e : Envelope) (n : Network) : Network :=
  match receiver with
  | .master => n.masterReceives e
  | .slave j => n.slaveReceives j e

/-- A pump takes one text out of its queue and then goes on before all others. -/
def turnPump (id k : Nat) (receiver : Receiver) (n : Network) : Network :=
  match n.hub? with
  | none => n.endTask id
  | some h =>
    match h.take k with
    | none => if h.isFinished k then n.endTask id else n
    | some (wire, h) =>
      let n := n.updateHub fun _ => h
      let n := match Envelope.ofWire wire with
        | .ok e => n.receive receiver e
        | .error _ => n
      n.mapAgenda (·.wakeFirst id)

/-- The response of a slave waits for its time and is then sent. -/
def turnRespond (id delay : Nat) (target : String) (response : Envelope) (n : Network) : Network :=
  if delay = 0 then (n.beginSending target response).2.endTask id
  else
    n.mapAgenda fun a =>
      (a.setJob id (.respond 0 target response)).setAlarm id (n.now + delay)

/-- Looks whether enough was recorded. -/
def turnWait (id count : Nat) (n : Network) : Network :=
  if count ≤ n.sent.length then n.complete id (.sent (n.sent.map (·.2))) else n

/-- One turn of a task. -/
def turn (id : Nat) (n : Network) : Network :=
  match n.agenda.task? id with
  | none => n
  | some t =>
    match t.job with
    | .call ticket purpose => n.turnCall id ticket purpose
    | .monitor m poll => n.turnMonitor id m poll
    | .pump k receiver => n.turnPump id k receiver
    | .respond delay target response => n.turnRespond id delay target response
    | .wait count => n.turnWait id count

/-! ## Many turns -/

/-- What a task waits for has happened. Alarms are not looked at. -/
def canGoOn (n : Network) (t : Task Job) : Bool :=
  match t.job with
  | .call ticket _ => n.hasMail ticket
  | .monitor _ (some ticket) => n.hasMail ticket
  | .monitor m none =>
    match n.plugin.monitor? m with
    | some monitor => monitor.stopped
    | none => true
  | .pump k _ =>
    match n.hub? with
    | some h => h.isFinished k || ((h.attachment? k).map (!·.queue.isEmpty)).getD true
    | none => true
  | .respond _ _ _ => false
  | .wait count => count ≤ n.sent.length

/-- Wakes the tasks whose wait is over. -/
def awaken (n : Network) : Network := n.mapAgenda (·.wakeWhere n.canGoOn)

/-- A bound on the number of turns that can follow at one time. -/
def budget (n : Network) : Nat :=
  64 * (n.agenda.tasks.length + (n.hub?.map Hub.queued).getD 0 + 1)

/-- Gives so many turns, as long as some task can go on. -/
def turns : Nat → Network → Network
  | 0, n => n
  | k + 1, n =>
    let n := n.awaken
    match n.agenda.pop with
    | some (id, agenda) => turns k ({ n with agenda := agenda }.turn id)
    | none => if n.agenda.hasRinging then turns k (n.mapAgenda (·.ring)) else n

/-- Gives turns until no task can go on now. -/
def settle (n : Network) : Network := n.turns n.budget

/-- Moves the clock and rings. -/
def moveTo (time : Nat) (n : Network) : Network := n.mapAgenda fun a => (a.moveTo time).ring

/-- Goes from alarm to alarm, at most `k` times, and not beyond `time`. -/
def runAlarms (time : Nat) : Nat → Network → Network
  | 0, n => n
  | k + 1, n =>
    match n.agenda.nextDue? with
    | none => n
    | some due => if due ≤ time then runAlarms time k (n.moveTo due).settle else n

/-- Lets all happen that happens up to and including a time. -/
def runUntil (time : Nat) (n : Network) : Network :=
  ((n.settle.runAlarms time (time - n.now + 1)).moveTo time).settle

/-- The result of a task that ended. -/
def result? (n : Network) (id : Nat) : Option Result := n.results.lookup id

/-- Goes from alarm to alarm, at most `k` times, until a task has its result. -/
def runTask (id : Nat) : Nat → Network → Network
  | 0, n => n
  | k + 1, n =>
    if (n.result? id).isSome then n
    else
      match n.agenda.nextDue? with
      | none => n
      | some due => runTask id k (n.moveTo due).settle

/-- Lets all happen that happens until a task has its result. -/
def await (id : Nat) (n : Network) : Network :=
  let n := n.settle
  n.runTask id (n.agenda.lastDue?.getD n.now - n.now + 1)

end CardLink.Network
