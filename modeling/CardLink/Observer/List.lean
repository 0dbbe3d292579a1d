/-!
# Lists of observers

Observers are told of an event in the order in which they registered. One observer may be registered
several times. A notification works on the registrations that were there when it began: what the
observers change meanwhile counts from the next one on. How an observer fares concerns nobody else;
the notification yields one outcome for each registration.

* `ObserverList.toList_add`, `toList_remove`, `toList_clear`: what the operations do.
* `ObserverList.remove_isSome_iff`: an observer can be removed while it is registered.
-/

namespace CardLink

/-- How an observer took an event. -/
inductive Outcome where
  | done
  /-- it reported an error, with the texts of the error and of its causes -/
  | failed (messages : List String)
  /-- it broke down, with a text if it left one -/
  | panicked (text : Option String)
deriving DecidableEq, Repr

namespace Outcome

def isFailure : Outcome → Bool
  | .done => false
  | _ => true

/-- The log line for a failure. -/
def complaint? : Outcome → Option String
  | .done => none
  | .failed messages => some ("WARN observer failed: " ++ ": ".intercalate messages)
  | .panicked text =>
    some ("ERROR observer panicked: " ++ text.getD "non-string panic payload")

end Outcome

/-- Registrations, the earliest first. -/
structure ObserverList (ι : Type) where
  toList : List ι
deriving DecidableEq, Repr

namespace ObserverList

variable {ι σ : Type}

def empty : ObserverList ι := ⟨[]⟩

instance : Inhabited (ObserverList ι) := ⟨empty⟩

def add (a : ι) (l : ObserverList ι) : ObserverList ι := ⟨l.toList ++ [a]⟩

/-- Takes away the earliest registration of an observer, if there is one. -/
def remove [DecidableEq ι] (a : ι) (l : ObserverList ι) : Option (ObserverList ι) :=
  if a ∈ l.toList then some ⟨l.toList.erase a⟩ else none

def clear (_ : ObserverList ι) : ObserverList ι := empty

def size (l : ObserverList ι) : Nat := l.toList.length

def isEmpty (l : ObserverList ι) : Bool := l.toList.isEmpty

@[simp] theorem toList_empty : (empty : ObserverList ι).toList = [] := rfl

@[simp] theorem toList_add (a : ι) (l : ObserverList ι) : (l.add a).toList = l.toList ++ [a] := rfl

@[simp] theorem toList_clear (l : ObserverList ι) : l.clear.toList = [] := rfl

theorem remove_isSome_iff [DecidableEq ι] {a : ι} {l : ObserverList ι} :
    (l.remove a).isSome ↔ a ∈ l.toList := by
  unfold remove; split <;> simp_all

theorem toList_remove [DecidableEq ι] {a : ι} {l l' : ObserverList ι} (h : l.remove a = some l') :
    l'.toList = l.toList.erase a := by
  unfold remove at h; split at h <;> simp at h; rw [← h]

/-! ## Notification -/

/-- Tells the observers in turn. An observer may change the state, which the next one finds. -/
def deliver (update : ι → σ → Outcome × σ) : List ι → σ → List Outcome × σ
  | [], s => ([], s)
  | a :: rest, s =>
    let (outcome, s) := update a s
    let (outcomes, s) := deliver update rest s
    (outcome :: outcomes, s)

/-- Tells all observers that are registered now. -/
def notify (observers : σ → ObserverList ι) (update : ι → σ → Outcome × σ) (s : σ) :
    List Outcome × σ :=
  deliver update (observers s).toList s

/-- The number of observers that failed. -/
def failures (outcomes : List Outcome) : Nat := outcomes.countP Outcome.isFailure

end ObserverList

end CardLink
