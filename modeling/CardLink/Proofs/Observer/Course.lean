import CardLink.Observer.Audience

/-!
# How notifications are nested

An observer that is told of an event may raise another one. This one is delivered to the end before
the observer returns, and only then are the others told of the first event. So the deliveries of
events are nested in one another, and a course tells how: whom an event was delivered to in turn,
and what else came in meanwhile.

* `Course`: nested deliveries; `Course.raisings` are the events in the order in which they came in,
  `Course.sightings` say which observer was told of which of them, in order.
* `Audience.course`: the course of a notification.
* `Audience.update_cases`: what an observer does when it is told of an event.
* **`Audience.rounds_course`**: each event is delivered to all observers that were registered when
  it came in, in the order of their registration; nobody is left out however deep it is.
* **`Audience.noted_course`**: what the observers note is what the course says that they were told.

NOT here: who sees which events in which order.
-/

namespace CardLink

/-! ## 1. Nested deliveries -/

/-- What happens while an event is delivered, or on top of all deliveries. -/
inductive Course (ε : Type) where
  /-- nothing more -/
  | ended
  /-- an observer is told of the event that is being delivered -/
  | told (i : Nat) (rest : Course ε)
  /-- an event comes in at a subject, and is delivered to the observers that are registered there -/
  | raised (subject : Nat) (event : ε) (observers : List Nat) (delivery rest : Course ε)

/-- An event that came in. Events are counted in the order in which they come in. -/
structure Occurrence (ε : Type) where
  subject : Nat
  number : Nat
  event : ε
deriving DecidableEq, Repr

namespace Course

variable {ε : Type}

/-- One course after the other. -/
def append : Course ε → Course ε → Course ε
  | .ended, c => c
  | .told i rest, c => .told i (rest.append c)
  | .raised subject event observers delivery rest, c =>
    .raised subject event observers delivery (rest.append c)

/-- The number of events that come in. -/
def size : Course ε → Nat
  | .ended => 0
  | .told _ rest => rest.size
  | .raised _ _ _ delivery rest => 1 + delivery.size + rest.size

/-- **The events that come in**, in order, counted from `k`. -/
def raisings (k : Nat) : Course ε → List (Occurrence ε)
  | .ended => []
  | .told _ rest => rest.raisings k
  | .raised subject event _ delivery rest =>
    ⟨subject, k, event⟩ :: (delivery.raisings (k + 1) ++ rest.raisings (k + (1 + delivery.size)))

/-- **Who is told of what**, in order, while the event `now` is delivered. -/
def sightings (k : Nat) (now : Option (Occurrence ε)) : Course ε → List (Nat × Occurrence ε)
  | .ended => []
  | .told i rest => now.toList.map (i, ·) ++ rest.sightings k now
  | .raised subject event _ delivery rest =>
    delivery.sightings (k + 1) (some ⟨subject, k, event⟩) ++
      rest.sightings (k + (1 + delivery.size)) now

/-- The observers that are told of the event that is being delivered, in order. -/
def tellings : Course ε → List Nat
  | .ended => []
  | .told i rest => i :: rest.tellings
  | .raised _ _ _ _ rest => rest.tellings

/-- **Each event is delivered to the observers registered at its subject**, one after the other. -/
def Rounds : Course ε → Prop
  | .ended => True
  | .told _ rest => rest.Rounds
  | .raised _ _ observers delivery rest =>
    delivery.tellings = observers ∧ delivery.Rounds ∧ rest.Rounds

section Append

variable {c c' : Course ε}

theorem sightings_append (k : Nat) (now : Option (Occurrence ε)) :
    (c.append c').sightings k now = c.sightings k now ++ c'.sightings (k + c.size) now := by
  induction c generalizing k with
  | ended => rfl
  | told i rest ih =>
    show _ ++ (rest.append c').sightings k now = (_ ++ _) ++ _
    rw [ih, List.append_assoc]
    rfl
  | raised subject event observers delivery rest _ ih =>
    show _ ++ (rest.append c').sightings _ now = (_ ++ _) ++ _
    rw [ih, List.append_assoc, Nat.add_assoc]
    rfl

theorem tellings_append : (c.append c').tellings = c.tellings ++ c'.tellings := by
  induction c with
  | ended => rfl
  | told i rest ih => exact congrArg (i :: ·) ih
  | raised subject event observers delivery rest _ ih => exact ih

theorem rounds_append : (c.append c').Rounds ↔ c.Rounds ∧ c'.Rounds := by
  induction c with
  | ended => exact (iff_of_eq (true_and _)).symm
  | told i rest ih => exact ih
  | raised subject event observers delivery rest _ ih =>
    show _ ∧ _ ∧ _ ↔ (_ ∧ _ ∧ _) ∧ _
    rw [ih, and_assoc, and_assoc]

end Append

end Course

/-! ## 2. The course of a notification -/

namespace Audience

variable {ε : Type}

/-- The observers are told in turn, each in the state that the one before left behind. -/
def delivery {ι σ : Type} (response : ι → σ → Course ε) (update : ι → σ → Outcome × σ) :
    List ι → σ → Course ε
  | [], _ => .ended
  | i :: rest, s => (response i s).append (delivery response update rest (update i s).2)

/-- What happens when one observer takes an event. -/
def response (count : Nat → Audience ε → Nat) : Nat → ε → Nat → Audience ε → Course ε
  | 0, _, _, _ => .ended
  | depth + 1, event, i, a =>
    match a.watchers[i]? with
    | some ⟨name, subject, .renotify (times + 1) raised⟩ =>
      let a := (a.note (.told name event)).spend i
        ⟨name, subject, .renotify (times + 1) raised⟩ times raised
      .told i (.raised subject raised (a.observers subject).toList
        (delivery (fun j a => response count depth raised j a) (update count depth raised)
          (a.observers subject).toList a) .ended)
    | _ => .told i .ended

/-- **The course of a notification.** -/
def course (count : Nat → Audience ε → Nat) (subject : Nat) (event : ε) (a : Audience ε) :
    Course ε :=
  .raised subject event (a.observers subject).toList
    (delivery (response count (a.budget + 1) event) (update count (a.budget + 1) event)
      (a.observers subject).toList a) .ended

/-- The names of all observers, by number. -/
def names (a : Audience ε) : List String := a.watchers.map (·.name)

/-- What was noted of events, and not of what observers did then. -/
def tidings (a : Audience ε) : List (Note ε) :=
  a.notes.filter fun
    | .told _ _ => true
    | _ => false

/-- What is noted of a sighting. -/
def noted (names : List String) (s : Nat × Occurrence ε) : Option (Note ε) :=
  names[s.1]?.map fun name => .told name s.2.event

/-! ## 3. What one observer does -/

/-- The observer took note of an event, and no observer is another one than before. -/
structure TakesNote (a : Audience ε) (event : ε) (i : Nat) (b : Audience ε) : Prop where
  watchers : b.watchers = a.watchers
  tidings : b.tidings = a.tidings ++ (a.names[i]?.map fun name => Note.told name event).toList

section Update

variable {a b : Audience ε} {w : Watcher ε} {event raised : ε} {i times depth : Nat}
  {count : Nat → Audience ε → Nat}

theorem tidings_note (a : Audience ε) (n : Note ε) :
    (a.note n).tidings = a.tidings ++ [n].filter fun
      | .told _ _ => true
      | _ => false :=
  List.filter_append ..

theorem takesNote_told (hw : a.watchers[i]? = some w) :
    TakesNote a event i (a.note (.told w.name event)) := by
  refine ⟨rfl, ?_⟩
  rw [tidings_note, names, List.getElem?_map, hw]
  rfl

/-- What an observer does besides taking note changes neither observers nor what was noted of
events. -/
theorem TakesNote.then (hb : TakesNote a event i b) {b' : Audience ε}
    (hwatchers : b'.watchers = b.watchers) (htidings : b'.tidings = b.tidings) :
    TakesNote a event i b' :=
  ⟨hwatchers.trans hb.watchers, htidings.trans hb.tidings⟩

theorem TakesNote.complain (hb : TakesNote a event i b) (o : Outcome) :
    TakesNote a event i (b.complain o) := by
  unfold Audience.complain
  split
  · exact hb
  · exact hb.then rfl rfl

/-- The audience in which an observer raises an event that it was made to raise. -/
def aroused (a : Audience ε) (event : ε) (i : Nat) (w : Watcher ε) (times : Nat) (raised : ε) :
    Audience ε :=
  (a.note (.told w.name event)).spend i w times raised

/-- The observers of its subject are told of an event that an observer raises. -/
def passedOn (count : Nat → Audience ε → Nat) (depth : Nat) (w : Watcher ε) (raised : ε)
    (a : Audience ε) : Audience ε :=
  (ObserverList.deliver (update count depth raised) (a.observers w.subject).toList a).2

/-- And this is its course. -/
def passing (count : Nat → Audience ε → Nat) (depth : Nat) (w : Watcher ε) (raised : ε)
    (a : Audience ε) : Course ε :=
  delivery (response count depth raised) (update count depth raised)
    (a.observers w.subject).toList a

/-- **An observer takes note of an event**, and it may raise another one, which is delivered to the
end. -/
theorem update_cases (count : Nat → Audience ε → Nat) (depth : Nat) (event : ε) (i : Nat)
    (a : Audience ε) :
    (TakesNote a event i (update count (depth + 1) event i a).2 ∧
      response count (depth + 1) event i a = .told i .ended) ∨
    (∃ w times raised, a.watchers[i]? = some w ∧ w.reaction = .renotify (times + 1) raised ∧
      (update count (depth + 1) event i a).2 =
        (passedOn count depth w raised (a.aroused event i w times raised)).note (.returned w.name) ∧
      response count (depth + 1) event i a =
        .told i (.raised w.subject raised
          ((a.aroused event i w times raised).observers w.subject).toList
          (passing count depth w raised (a.aroused event i w times raised)) .ended)) := by
  unfold update response
  cases hw : a.watchers[i]? with
  | none =>
    refine .inl ⟨⟨rfl, ?_⟩, rfl⟩
    rw [names, List.getElem?_map, hw]
    exact (List.append_nil _).symm
  | some w =>
    have htold : TakesNote a event i (a.note (.told w.name event)) := takesNote_told hw
    obtain ⟨name, subject, reaction⟩ := w
    cases reaction with
    | record => exact .inl ⟨htold, rfl⟩
    | fail messages => exact .inl ⟨htold.complain (.failed messages), rfl⟩
    | panic text => exact .inl ⟨htold.complain (.panicked text), rfl⟩
    | add who =>
      refine .inl ⟨?_, rfl⟩
      dsimp only [observe]
      cases (a.note (.told name event)).named.get? who with
      | none => exact htold
      | some j => exact htold.then rfl rfl
    | remove who =>
      refine .inl ⟨?_, rfl⟩
      dsimp only [unobserve, removeNumber]
      cases (a.note (.told name event)).named.get? who with
      | none => exact htold
      | some j =>
        dsimp only [Option.map_some]
        split
        · exact htold.then rfl (by rw [tidings_note]; exact List.append_nil _)
        · exact htold.then rfl (by rw [tidings_note]; exact List.append_nil _)
    | clear => exact .inl ⟨htold.then rfl rfl, rfl⟩
    | renotify times raised =>
      cases times with
      | zero => exact .inl ⟨htold, rfl⟩
      | succ times => exact .inr ⟨_, times, raised, rfl, rfl, rfl, rfl⟩
    | probe => exact .inl ⟨htold.then rfl (by rw [tidings_note]; exact List.append_nil _), rfl⟩

/-! ## 4. Nobody is cut off -/

/-- How often an observer may still raise an event. -/
def remaining (w : Watcher ε) : Nat :=
  match w.reaction with
  | .renotify times _ => times
  | _ => 0

theorem budget_eq (a : Audience ε) : a.budget = Number.total (a.watchers.map remaining) := rfl

theorem budget_of_watchers (h : b.watchers = a.watchers) : b.budget = a.budget := by
  rw [budget_eq, h, budget_eq]

/-- **Who raises an event has one less to raise.** -/
theorem budget_aroused (event : ε) (hw : a.watchers[i]? = some w)
    (hreaction : w.reaction = .renotify (times + 1) raised) :
    (a.aroused event i w times raised).budget + 1 = a.budget := by
  have hhere : (a.watchers.map remaining)[i]? = some (times + 1) := by
    rw [List.getElem?_map, hw]
    simp [remaining, hreaction]
  have hcount := Number.total_set hhere times
  have hset : (a.aroused event i w times raised).watchers.map remaining =
      (a.watchers.map remaining).set i times := List.map_set
  rw [budget_eq, hset, budget_eq]
  omega

/-- Observers only ever have less to raise. -/
theorem budget_deliver (hupdate : ∀ i (a : Audience ε), (update count depth event i a).2.budget ≤
      a.budget) (is : List Nat) (a : Audience ε) :
    (ObserverList.deliver (update count depth event) is a).2.budget ≤ a.budget := by
  induction is generalizing a with
  | nil => exact Nat.le_refl _
  | cons i rest ih => exact Nat.le_trans (ih _) (hupdate i a)

theorem budget_update (count : Nat → Audience ε → Nat) (depth : Nat) (event : ε) (i : Nat)
    (a : Audience ε) : (update count depth event i a).2.budget ≤ a.budget := by
  induction depth generalizing event i a with
  | zero => exact Nat.le_refl _
  | succ depth ih =>
    rcases update_cases count depth event i a with ⟨hnote, -⟩ | ⟨w, times, raised, hw, hr, heq, -⟩
    · exact Nat.le_of_eq (budget_of_watchers hnote.watchers)
    · rw [heq]
      have hpassed :
          (passedOn count depth w raised (a.aroused event i w times raised)).budget ≤ _ :=
        budget_deliver (ih raised) _ _
      have hspent := budget_aroused event hw hr
      show (passedOn count depth w raised _).budget ≤ a.budget
      omega

/-- The deliveries below are complete, and one observer after the other was told. -/
theorem rounds_delivery (hresponse : ∀ i (a : Audience ε), a.budget < depth →
      (response count depth event i a).Rounds ∧ (response count depth event i a).tellings = [i])
    (is : List Nat) (a : Audience ε) (hdepth : a.budget < depth) :
    (delivery (response count depth event) (update count depth event) is a).Rounds ∧
      (delivery (response count depth event) (update count depth event) is a).tellings = is := by
  induction is generalizing a with
  | nil => exact ⟨trivial, rfl⟩
  | cons i rest ih =>
    obtain ⟨hfirst, htold⟩ := hresponse i a hdepth
    obtain ⟨hrest, htellings⟩ :=
      ih (update count depth event i a).2 (Nat.lt_of_le_of_lt (budget_update ..) hdepth)
    refine ⟨Course.rounds_append.2 ⟨hfirst, hrest⟩, ?_⟩
    rw [delivery, Course.tellings_append, htold, htellings]
    rfl

theorem rounds_response (count : Nat → Audience ε → Nat) (depth : Nat) (event : ε) (i : Nat)
    (a : Audience ε) (hdepth : a.budget < depth) :
    (response count depth event i a).Rounds ∧ (response count depth event i a).tellings = [i] := by
  induction depth generalizing event i a with
  | zero => exact absurd hdepth (Nat.not_lt_zero _)
  | succ depth ih =>
    rcases update_cases count depth event i a with ⟨-, heq⟩ | ⟨w, times, raised, hw, hr, -, heq⟩
    · rw [heq]
      exact ⟨trivial, rfl⟩
    · -- Whoever raises an event has one less to raise, so the depth is never used up.
      have hspent := budget_aroused event hw hr
      obtain ⟨hrounds, htellings⟩ := rounds_delivery (ih raised) _
        (a.aroused event i w times raised) (by omega)
      rw [heq]
      exact ⟨⟨htellings, hrounds, trivial⟩, rfl⟩

/-- **Each event is delivered to all observers that were registered when it came in**, in the order
of their registration. -/
theorem rounds_course (count : Nat → Audience ε → Nat) (subject : Nat) (event : ε)
    (a : Audience ε) : (a.course count subject event).Rounds := by
  obtain ⟨hrounds, htellings⟩ := rounds_delivery
    (rounds_response count (a.budget + 1) event) (a.observers subject).toList a (Nat.lt_succ_self _)
  exact ⟨htellings, hrounds, trivial⟩

/-! ## 5. What is noted -/

theorem names_of_watchers (h : b.watchers = a.watchers) : b.names = a.names :=
  congrArg (List.map _) h

theorem names_aroused (hw : a.watchers[i]? = some w) :
    (a.aroused event i w times raised).names = a.names := by
  show (a.watchers.set i _).map _ = a.watchers.map _
  rw [List.map_set]
  refine List.ext_getElem? fun j => ?_
  rw [List.getElem?_set]
  split
  · rename_i hij
    obtain ⟨hlt, -⟩ := List.getElem?_eq_some_iff.1 hw
    rw [← hij, List.length_map, if_pos hlt, List.getElem?_map, hw]
    rfl
  · rfl

/-- The observers take note of what they are told of, and keep their names. -/
structure Notes (a : Audience ε) (sightings : List (Nat × Occurrence ε)) (b : Audience ε) :
    Prop where
  names : b.names = a.names
  tidings : b.tidings = a.tidings ++ sightings.filterMap (noted a.names)

theorem Notes.refl (a : Audience ε) : Notes a [] a := ⟨rfl, (List.append_nil _).symm⟩

theorem Notes.trans {c : Audience ε} {seen seen' : List (Nat × Occurrence ε)}
    (h : Notes a seen b) (h' : Notes b seen' c) : Notes a (seen ++ seen') c := by
  refine ⟨h'.names.trans h.names, ?_⟩
  rw [h'.tidings, h.tidings, h.names, List.filterMap_append, List.append_assoc]

/-- An observer takes note of one event. -/
theorem notes_single (hnames : b.names = a.names) (o : Occurrence ε)
    (htidings : b.tidings =
      a.tidings ++ (a.names[i]?.map fun name => Note.told name o.event).toList) :
    Notes a [(i, o)] b := by
  refine ⟨hnames, htidings.trans (congrArg _ ?_)⟩
  rw [List.filterMap_cons, noted]
  cases a.names[i]? <;> rfl

theorem notes_delivery (hupdate : ∀ i (a : Audience ε) k (o : Occurrence ε), o.event = event →
      Notes a ((response count depth event i a).sightings k (some o))
        (update count depth event i a).2)
    (is : List Nat) (a : Audience ε) (k : Nat) (o : Occurrence ε) (ho : o.event = event) :
    Notes a ((delivery (response count depth event) (update count depth event) is a).sightings k
      (some o)) (ObserverList.deliver (update count depth event) is a).2 := by
  induction is generalizing a k with
  | nil => exact .refl a
  | cons i rest ih =>
    rw [delivery, Course.sightings_append]
    exact (hupdate i a k o ho).trans (ih _ _)

theorem notes_update (count : Nat → Audience ε → Nat) (depth : Nat) (event : ε) (i : Nat)
    (a : Audience ε) (k : Nat) (o : Occurrence ε) (ho : o.event = event) :
    Notes a ((response count depth event i a).sightings k (some o))
      (update count depth event i a).2 := by
  induction depth generalizing event i a k o with
  | zero => exact .refl a
  | succ depth ih =>
    rcases update_cases count depth event i a with
      ⟨hnote, heq⟩ | ⟨w, times, raised, hw, hr, hafter, heq⟩
    · rw [heq]
      refine notes_single (names_of_watchers hnote.watchers) o ?_
      rw [ho]
      exact hnote.tidings
    · have hfirst : Notes a [(i, o)] (a.aroused event i w times raised) := by
        refine notes_single (names_aroused hw) o ?_
        rw [ho]
        exact (takesNote_told hw).tidings
      have hpassed : Notes (a.aroused event i w times raised)
          ((passing count depth w raised (a.aroused event i w times raised)).sightings (k + 1)
            (some ⟨w.subject, k, raised⟩))
          (passedOn count depth w raised (a.aroused event i w times raised)) :=
        notes_delivery (ih raised) _ _ _ _ rfl
      have hreturned : Notes (passedOn count depth w raised (a.aroused event i w times raised)) []
          (update count (depth + 1) event i a).2 := by
        rw [hafter]
        exact ⟨rfl, by rw [tidings_note]; rfl⟩
      rw [heq]
      exact hfirst.trans (hpassed.trans hreturned)

/-- **The observers note what they are told of**, in this order. -/
theorem noted_course (count : Nat → Audience ε → Nat) (subject : Nat) (event : ε) (k : Nat)
    (a : Audience ε) :
    Notes a ((a.course count subject event).sightings k none) (a.notify count subject event).2 := by
  have hdelivered := notes_delivery (notes_update count (a.budget + 1) event)
    (a.observers subject).toList a (k + 1) ⟨subject, k, event⟩ rfl
  exact hdelivered.trans (.refl _)

end Update

end Audience

end CardLink
