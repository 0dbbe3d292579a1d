import CardLink.Reader.Monitor

/-!
# Changes in a row of answers

A reader is asked again and again whether a card is in it, and a change is an answer that differs
from the one before. Failures are no answers, and no card is there at first.

* `Monitor.transitions`: the changes in a row of outcomes, said without any monitor.
* `Monitor.edges_alternate`, `Monitor.balance_edges`: changes alternate, and tell the last answer.
* **`Monitor.changes_eq_edges`**: what a monitor makes of the outcomes one by one is just that.
* `Monitor.changes_snoc`: what one more answer brings.
-/

namespace CardLink

namespace Monitor

/-! ## 1. All at once -/

/-- What there is to say when one answer follows another. -/
def edge (before now : Bool) : Option ReaderEventType :=
  if before = now then none else some (if now then .inserted else .removed)

/-- The changes from each answer to the next one. -/
def edges (before : Bool) (answers : List Bool) : List ReaderEventType :=
  ((before :: answers).zip answers).filterMap fun pair => edge pair.1 pair.2

/-- The answers among the outcomes of polls. -/
def answers (outcomes : List (Option Bool)) : List Bool := outcomes.filterMap id

/-- **The changes in a row of outcomes**: failures are left out, and no card is there at first. -/
def transitions (outcomes : List (Option Bool)) : List ReaderEventType :=
  edges false (answers outcomes)

section Edges

variable {before : Bool} {bs : List Bool} {i : Nat} {type : ReaderEventType}

theorem edges_cons (before b : Bool) (bs : List Bool) :
    edges before (b :: bs) = (edge before b).toList ++ edges b bs := by
  unfold edges
  rw [List.zip_cons_cons, List.filterMap_cons]
  cases edge before b <;> rfl

theorem edge_self (b : Bool) : edge b b = none := if_pos rfl

theorem edge_not (b : Bool) : edge (!b) b = some (if b then .inserted else .removed) := by
  cases b <;> rfl

/-- **Changes alternate**, and the first one leads away from what was there before. -/
theorem edges_alternate (h : (edges before bs)[i]? = some type) :
    type = if (i % 2 == 0) != before then .inserted else .removed := by
  induction bs generalizing before i with
  | nil => cases h
  | cons b bs ih =>
    rw [edges_cons] at h
    by_cases hb : before = b
    · subst hb
      rw [edge_self] at h
      exact ih h
    · obtain rfl : before = !b := Bool.eq_not_of_ne hb
      rw [edge_not] at h
      cases i with
      | zero =>
        obtain rfl := Option.some.inj h
        cases b <;> rfl
      | succ i =>
        have hturned : ((i + 1) % 2 == 0) = !(i % 2 == 0) := by
          rcases Nat.mod_two_eq_zero_or_one i with hi | hi <;> simp [Nat.add_mod, hi]
        rw [ih h, hturned]
        cases b <;> cases (i % 2 == 0) <;> rfl

/-- **What came and did not go is there.** -/
theorem balance_edges (before : Bool) (bs : List Bool) :
    (edges before bs).count .inserted + before.toNat =
      (edges before bs).count .removed + (bs.getLast?.getD before).toNat := by
  induction bs generalizing before with
  | nil => simp [edges]
  | cons b bs ih =>
    have hlast : (b :: bs).getLast?.getD before = bs.getLast?.getD b := by
      rw [List.getLast?_cons]
      rfl
    rw [edges_cons, hlast, List.count_append, List.count_append]
    have hrest := ih b
    cases before <;> cases b <;> simp [edge] at hrest ⊢ <;> omega

end Edges

/-! ## 2. One by one -/

/-- The last answer. -/
def latest (last : Option Bool) (outcomes : List (Option Bool)) : Option Bool :=
  (answers outcomes).getLast?.or last

/-- Before the first answer no card is there. -/
theorem change_eq_edge (last : Option Bool) (present : Bool) :
    change last present = edge (last.getD false) present := by
  cases last with
  | none => cases present <;> rfl
  | some before => cases before <;> cases present <;> rfl

/-- **The events of a monitor are the changes between its answers.** -/
theorem changes_eq_edges (last : Option Bool) (outcomes : List (Option Bool)) :
    changes last outcomes = edges (last.getD false) (answers outcomes) := by
  induction outcomes generalizing last with
  | nil => rfl
  | cons outcome rest ih =>
    cases outcome with
    | none => exact ih last
    | some present =>
      show (change last present).toList ++ changes (some present) rest =
        edges (last.getD false) (present :: answers rest)
      rw [edges_cons, change_eq_edge, ih]
      rfl

theorem answers_snoc (outcomes : List (Option Bool)) (outcome : Option Bool) :
    answers (outcomes ++ [outcome]) = answers outcomes ++ outcome.toList := by
  unfold answers
  rw [List.filterMap_append]
  cases outcome <;> rfl

theorem latest_cons (last : Option Bool) (present : Bool) (rest : List (Option Bool)) :
    latest last (some present :: rest) = latest (some present) rest := by
  show (present :: answers rest).getLast?.or last = (answers rest).getLast?.or (some present)
  rw [List.getLast?_cons]
  cases (answers rest).getLast? <;> rfl

theorem latest_snoc (last : Option Bool) (outcomes : List (Option Bool)) (present : Bool) :
    latest last (outcomes ++ [some present]) = some present := by
  unfold latest
  rw [answers_snoc]
  simp

theorem latest_snoc_none (last : Option Bool) (outcomes : List (Option Bool)) :
    latest last (outcomes ++ [none]) = latest last outcomes := by
  unfold latest
  rw [answers_snoc]
  simp

theorem changes_snoc_none (last : Option Bool) (outcomes : List (Option Bool)) :
    changes last (outcomes ++ [none]) = changes last outcomes := by
  rw [changes_eq_edges, changes_eq_edges, answers_snoc]
  simp

theorem changes_snoc (last : Option Bool) (outcomes : List (Option Bool)) (present : Bool) :
    changes last (outcomes ++ [some present]) =
      changes last outcomes ++ (change (latest last outcomes) present).toList := by
  induction outcomes generalizing last with
  | nil =>
    show (change last present).toList ++ [] = _
    rw [List.append_nil]
    rfl
  | cons outcome rest ih =>
    cases outcome with
    | none => exact ih last
    | some b =>
      rw [latest_cons]
      show (change last b).toList ++ changes (some b) (rest ++ [some present]) =
        ((change last b).toList ++ changes (some b) rest) ++ _
      rw [ih, List.append_assoc]

end Monitor

end CardLink
