/-!
# Tasks and virtual time

An agenda holds tasks that take turns and a clock that moves only when all of them wait. Tasks that
can go on stand in a queue. A task may set an alarm; when the clock reaches it the task joins the
queue. Alarms for one time ring in the order in which they were set.

Time is counted in milliseconds.
-/

namespace CardLink

/-- When a task is to go on. -/
structure Alarm where
  due : Nat
  /-- counts the alarms, so that those for one time have an order -/
  order : Nat
deriving DecidableEq, Repr

/-- Rings first. -/
def Alarm.before (a b : Alarm) : Bool := a.due < b.due || (a.due == b.due && a.order ≤ b.order)

/-- A task with the job it does. -/
structure Task (J : Type) where
  id : Nat
  job : J
  alarm : Option Alarm

/-- Tasks in progress and the clock. -/
structure Agenda (J : Type) where
  now : Nat
  /-- in the order in which they were started -/
  tasks : List (Task J)
  /-- the ids of the tasks that can go on -/
  ready : List Nat
  nextId : Nat
  nextOrder : Nat

namespace Agenda

variable {J : Type}

def empty : Agenda J := ⟨0, [], [], 0, 0⟩

def task? (a : Agenda J) (id : Nat) : Option (Task J) := a.tasks.find? (·.id == id)

/-- Starts a task, which can go on at once. -/
def spawn (job : J) (a : Agenda J) : Nat × Agenda J :=
  (a.nextId,
    { a with
      tasks := a.tasks ++ [⟨a.nextId, job, none⟩]
      ready := a.ready ++ [a.nextId]
      nextId := a.nextId + 1 })

/-- Ends a task. -/
def remove (id : Nat) (a : Agenda J) : Agenda J :=
  { a with
    tasks := a.tasks.filter (·.id != id)
    ready := a.ready.filter (· != id) }

def update (id : Nat) (f : Task J → Task J) (a : Agenda J) : Agenda J :=
  { a with tasks := a.tasks.map fun t => if t.id = id then f t else t }

def setJob (id : Nat) (job : J) (a : Agenda J) : Agenda J :=
  a.update id fun t => { t with job := job }

/-- Sets the alarm of a task, in place of an earlier one. -/
def setAlarm (id due : Nat) (a : Agenda J) : Agenda J :=
  { a.update id (fun t => { t with alarm := some ⟨due, a.nextOrder⟩ }) with
    nextOrder := a.nextOrder + 1 }

/-- Sets the alarm of a task unless it stands at that time already. -/
def awaitTime (id due : Nat) (a : Agenda J) : Agenda J :=
  match (a.task? id).bind (·.alarm) with
  | some alarm => if alarm.due = due then a else a.setAlarm id due
  | none => a.setAlarm id due

/-! ## Going on -/

/-- Puts a task at the end of the queue. -/
def wake (id : Nat) (a : Agenda J) : Agenda J :=
  if id ∈ a.ready then a else { a with ready := a.ready ++ [id] }

/-- Lets a task go on before all others. -/
def wakeFirst (id : Nat) (a : Agenda J) : Agenda J :=
  { a with ready := id :: a.ready.filter (· != id) }

/-- Wakes the tasks for which `can` holds. -/
def wakeWhere (can : Task J → Bool) (a : Agenda J) : Agenda J :=
  a.tasks.foldl (fun a t => if can t then a.wake t.id else a) a

/-- The next task to go on. -/
def pop (a : Agenda J) : Option (Nat × Agenda J) :=
  match a.ready with
  | [] => none
  | id :: rest => some (id, { a with ready := rest })

/-! ## Time -/

/-- The alarm of a task has rung by now. -/
def isRinging (a : Agenda J) (t : Task J) : Bool :=
  match t.alarm with
  | some alarm => alarm.due ≤ a.now
  | none => false

/-- The time of the earliest alarm. -/
def nextDue? (a : Agenda J) : Option Nat := (a.tasks.filterMap (·.alarm)).map (·.due) |>.min?

/-- The time of the latest alarm. -/
def lastDue? (a : Agenda J) : Option Nat := (a.tasks.filterMap (·.alarm)).map (·.due) |>.max?

/-- Some alarm is due. -/
def hasRinging (a : Agenda J) : Bool := a.tasks.any a.isRinging

/-- Rings the alarms that are due. -/
def ring (a : Agenda J) : Agenda J :=
  let due := (a.tasks.filterMap fun t =>
    match t.alarm with
    | some alarm => if alarm.due ≤ a.now then some (alarm, t.id) else none
    | none => none).mergeSort fun x y => x.1.before y.1
  let quiet := { a with tasks := a.tasks.map fun t => if a.isRinging t then { t with alarm := none } else t }
  due.foldl (fun a x => a.wake x.2) quiet

/-- Moves the clock; it never goes back. -/
def moveTo (time : Nat) (a : Agenda J) : Agenda J := { a with now := max a.now time }

end Agenda

end CardLink
