import CardLink.Number.Power
import CardLink.Observer.List
import CardLink.Table

/-!
# Observers that follow a script

An audience holds observers, each with a simple reaction, and the lists of the subjects they watch.
Observers are told apart by number, not by name: making a new one under a used name leaves the old
one where it is registered. An observer acts on the subject it was made for. All that observers do is
noted in order.
-/

namespace CardLink

/-- What an observer does when told of an event, besides noting it. -/
inductive Reaction (ε : Type) where
  | record
  | fail (messages : List String)
  | panic (text : Option String)
  /-- registers the observer of this name -/
  | add (who : String)
  /-- removes the observer of this name -/
  | remove (who : String)
  | clear
  /-- raises another event on its subject, at most so many times -/
  | renotify (times : Nat) (event : ε)
  /-- counts something about its subject -/
  | probe
deriving DecidableEq, Repr

/-- An observer with its script. -/
structure Watcher (ε : Type) where
  name : String
  /-- the subject it acts on -/
  subject : Nat
  reaction : Reaction ε
deriving DecidableEq, Repr

/-- What an observer did. -/
inductive Note (ε : Type) where
  | told (name : String) (event : ε)
  | removed (name : String) (success : Bool)
  | returned (name : String)
  | counted (name : String) (n : Nat)
deriving DecidableEq, Repr

/-- The same note about another kind of event. -/
def Note.map {ε δ : Type} (f : ε → δ) : Note ε → Note δ
  | .told name event => .told name (f event)
  | .removed name success => .removed name success
  | .returned name => .returned name
  | .counted name n => .counted name n

/-- Observers and the lists they are registered in. -/
structure Audience (ε : Type) where
  /-- every observer that was made, by number -/
  watchers : List (Watcher ε)
  /-- the latest observer of each name -/
  named : Table Nat
  /-- the registrations at each subject, by number -/
  lists : List (ObserverList Nat)
  /-- what was done since the notes were last collected -/
  notes : List (Note ε)
  /-- log lines about failures -/
  complaints : List String

namespace Audience

variable {ε : Type}

/-- No observers of so many subjects. -/
def ofSubjects (n : Nat) : Audience ε := ⟨[], .empty, List.replicate n .empty, [], []⟩

/-- One more subject, which takes the next number. -/
def addSubject (a : Audience ε) : Audience ε := { a with lists := a.lists ++ [.empty] }

/-- The registrations at a subject. -/
def observers (a : Audience ε) (subject : Nat) : ObserverList Nat := a.lists.getD subject .empty

def withObservers (a : Audience ε) (subject : Nat) (l : ObserverList Nat) : Audience ε :=
  { a with lists := a.lists.set subject l }

def clear (a : Audience ε) (subject : Nat) : Audience ε := a.withObservers subject .empty

def note (a : Audience ε) (n : Note ε) : Audience ε := { a with notes := a.notes ++ [n] }

/-- Logs a failure. -/
def complain (a : Audience ε) (o : Outcome) : Audience ε :=
  match o.complaint? with
  | none => a
  | some line => { a with complaints := a.complaints ++ [line] }

/-! ## Making and registering -/

/-- A new observer under this name. -/
def make (a : Audience ε) (w : Watcher ε) : Audience ε :=
  { a with
    watchers := a.watchers ++ [w]
    named := a.named.insert w.name a.watchers.length }

/-- Registers the observer of this name; the number of registrations is returned. -/
def observe (a : Audience ε) (subject : Nat) (name : String) : Option (Nat × Audience ε) :=
  match a.named.get? name with
  | none => none
  | some i =>
    let l := (a.observers subject).add i
    some (l.size, a.withObservers subject l)

/-- Removes the observer with this number and says whether it was registered. -/
def removeNumber (a : Audience ε) (subject i : Nat) : Bool × Audience ε :=
  match (a.observers subject).remove i with
  | none => (false, a)
  | some l => (true, a.withObservers subject l)

/-- Removes the observer of this name and says whether it was registered. -/
def unobserve (a : Audience ε) (subject : Nat) (name : String) : Option (Bool × Audience ε) :=
  (a.named.get? name).map fun i => a.removeNumber subject i

/-! ## Notification -/

/-- How often observers may still raise events. -/
def budget (a : Audience ε) : Nat :=
  Number.total (a.watchers.map fun w => match w.reaction with
    | .renotify times _ => times
    | _ => 0)

/-- The observer with number `i` has one event less to raise. -/
def spend (a : Audience ε) (i : Nat) (w : Watcher ε) (times : Nat) (event : ε) : Audience ε :=
  { a with watchers := a.watchers.set i { w with reaction := .renotify times event } }

/-- One observer takes an event. `count` is what a probe counts; the first argument bounds how deep
events may raise events. -/
def update (count : Nat → Audience ε → Nat) : Nat → ε → Nat → Audience ε → Outcome × Audience ε
  | 0, _, _, a => (.done, a)
  | depth + 1, event, i, a =>
    match a.watchers[i]? with
    | none => (.done, a)
    | some w =>
      let a := a.note (.told w.name event)
      match w.reaction with
      | .record => (.done, a)
      | .fail messages => (.failed messages, a.complain (.failed messages))
      | .panic text => (.panicked text, a.complain (.panicked text))
      | .add who =>
        match a.observe w.subject who with
        | none => (.done, a)
        | some (_, a) => (.done, a)
      | .remove who =>
        match a.unobserve w.subject who with
        | none => (.done, a)
        | some (success, a) => (.done, a.note (.removed w.name success))
      | .clear => (.done, a.clear w.subject)
      | .renotify 0 _ => (.done, a)
      | .renotify (times + 1) raised =>
        let a := a.spend i w times raised
        let (_, a) := ObserverList.notify (·.observers w.subject)
          (fun j a => update count depth raised j a) a
        (.done, a.note (.returned w.name))
      | .probe => (.done, a.note (.counted w.name (count w.subject a)))

/-- Tells the observers of a subject; the number of failures is returned. -/
def notify (count : Nat → Audience ε → Nat) (subject : Nat) (event : ε) (a : Audience ε) :
    Nat × Audience ε :=
  let (outcomes, a) := ObserverList.notify (·.observers subject)
    (update count (a.budget + 1) event) a
  (ObserverList.failures outcomes, a)

/-- The number of registrations, as a thing to count. -/
def registrations (subject : Nat) (a : Audience ε) : Nat := (a.observers subject).size

/-- The audience with empty notes and log. -/
def rested (a : Audience ε) : Audience ε := { a with notes := [], complaints := [] }

end Audience

end CardLink
