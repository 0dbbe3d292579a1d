import CardLink.Card.Event
import CardLink.Proofs.Observer.Course
import CardLink.Proofs.Trace

/-!
# The order in which observers see events

Events come in at a subject one after the other, and some of them while others are being delivered.
An observer that stays registered is told of every one of them, once. It is told of them in the
order in which they came in exactly if no event comes in while it still waits for the one before: an
event that an observer raises overtakes the one that it was told of, for all observers behind it.

* `Course.entries`, `Course.seen`: the events of a subject, and those that an observer is told of.
* `Course.Attends`: the observer is registered, once, whenever an event comes in.
* `Course.Prompt`: nothing comes in while the observer waits for an event.
* `Course.seen_perm`: an observer that attends sees every event once.
* `Course.seen_eq_iff`: and it sees them in order exactly if it is prompt.
* **`Audience.order_of_events`**: in every run of notifications, whatever else becomes of the
  audience between them.
* `Audience.event_overtaken`: two observers that see events in different orders.
-/

namespace CardLink

namespace Course

variable {ε : Type}

/-! ## 1. What comes in and what is seen -/

/-- The events that come in at a subject, in order; all events are counted from `k`. -/
def entries (n k : Nat) (c : Course ε) : List (Occurrence ε) :=
  (c.raisings k).filter (·.subject = n)

/-- The events of a subject that an observer is told of, in order. -/
def seen (n i k : Nat) (now : Option (Occurrence ε)) (c : Course ε) : List (Occurrence ε) :=
  (c.sightings k now).filterMap fun s => if s.1 = i ∧ s.2.subject = n then some s.2 else none

/-- **The observer is registered, once, whenever an event comes in** at the subject. -/
def Attends (n i : Nat) : Course ε → Prop
  | .ended => True
  | .told _ rest => rest.Attends n i
  | .raised m _ observers delivery rest =>
    (m = n → observers.count i = 1) ∧ delivery.Attends n i ∧ rest.Attends n i

/-- No event comes in at the subject. -/
def Silent (n : Nat) : Course ε → Prop
  | .ended => True
  | .told _ rest => rest.Silent n
  | .raised m _ _ delivery rest => m ≠ n ∧ delivery.Silent n ∧ rest.Silent n

/-- **Nothing comes in while the observer waits** for the event of the subject that is delivered. -/
def Prompt (n i : Nat) : Bool → Course ε → Prop
  | _, .ended => True
  | waiting, .told j rest => rest.Prompt n i (waiting && j != i)
  | waiting, .raised m _ _ delivery rest =>
    (waiting = true → m ≠ n ∧ delivery.Silent n) ∧ delivery.Prompt n i (m == n) ∧
      rest.Prompt n i waiting

section Order

variable {n i j k m : Nat} {now : Option (Occurrence ε)} {o : Occurrence ε} {event : ε}
  {observers : List Nat} {c delivery rest : Course ε}

theorem entries_raised : entries n k (.raised m event observers delivery rest) =
    ([⟨m, k, event⟩].filter fun o : Occurrence ε => o.subject = n) ++
      (entries n (k + 1) delivery ++ entries n (k + (1 + delivery.size)) rest) := by
  rw [entries, raisings, ← List.singleton_append, List.filter_append, List.filter_append]
  rfl

theorem seen_raised : seen n i k now (.raised m event observers delivery rest) =
    seen n i (k + 1) (some ⟨m, k, event⟩) delivery ++
      seen n i (k + (1 + delivery.size)) now rest :=
  List.filterMap_append

theorem seen_told_none : seen n i k none (.told j rest) = seen n i k none rest := rfl

theorem seen_told_self (ho : o.subject = n) :
    seen n i k (some o) (.told i rest) = o :: seen n i k (some o) rest := by
  show List.filterMap _ ((i, o) :: rest.sightings k (some o)) = _
  rw [List.filterMap_cons, if_pos ⟨rfl, ho⟩]
  rfl

theorem seen_told_other (hother : ¬ (j = i ∧ o.subject = n)) :
    seen n i k (some o) (.told j rest) = seen n i k (some o) rest := by
  show List.filterMap _ ((j, o) :: rest.sightings k (some o)) = _
  rw [List.filterMap_cons, if_neg hother]
  rfl

/-- An event is not seen by those who are not told of it. -/
theorem seen_idle (hidle : o.subject = n → i ∉ c.tellings) :
    seen n i k (some o) c = seen n i k none c := by
  induction c generalizing k with
  | ended => rfl
  | told j rest ih =>
    have hother : ¬ (j = i ∧ o.subject = n) := fun h =>
      hidle h.2 (by rw [h.1]; exact List.mem_cons_self)
    rw [seen_told_other hother, seen_told_none]
    exact ih fun ho hmem => hidle ho (List.mem_cons_of_mem _ hmem)
  | raised m event observers delivery rest _ ih =>
    rw [seen_raised, seen_raised, ih hidle]

/-- Who is told once is not told again. -/
theorem not_mem_of_told (hcount : (Course.told i rest).tellings.count i = 1) :
    i ∉ rest.tellings := by
  have hcount' : (i :: rest.tellings).count i = 1 := hcount
  rw [List.count_cons_self] at hcount'
  exact List.count_eq_zero.1 (by omega)

theorem number_of_mem_sightings {s : Nat × Occurrence ε} (hs : s ∈ c.sightings k now) :
    now = some s.2 ∨ k ≤ s.2.number := by
  induction c generalizing k now with
  | ended => cases hs
  | told j rest ih =>
    rcases List.mem_append.1 hs with hs | hs
    · cases now with
      | none => cases hs
      | some o =>
        obtain rfl : s = (j, o) := List.mem_singleton.1 hs
        exact .inl rfl
    · exact ih hs
  | raised m event observers delivery rest ih ih' =>
    rcases List.mem_append.1 hs with hs | hs
    · rcases ih hs with heq | hle
      · rw [← Option.some.inj heq]
        exact .inr (Nat.le_refl _)
      · exact .inr (Nat.le_of_succ_le hle)
    · rcases ih' hs with heq | hle
      · exact .inl heq
      · exact .inr (Nat.le_trans (Nat.le_add_right ..) hle)

/-- What is seen of events that come in later has a higher number. -/
theorem number_of_mem_seen (hmem : o ∈ seen n i k now c) : now = some o ∨ k ≤ o.number := by
  obtain ⟨s, hs, ho⟩ := List.mem_filterMap.1 hmem
  split at ho
  · rw [← Option.some.inj ho]
    exact number_of_mem_sightings hs
  · cases ho

theorem entries_eq_nil_iff : entries n k c = [] ↔ c.Silent n := by
  induction c generalizing k with
  | ended => exact iff_of_true rfl trivial
  | told j rest ih => exact ih
  | raised m event observers delivery rest ih ih' =>
    have hfirst : ([⟨m, k, event⟩].filter fun o : Occurrence ε => o.subject = n) = [] ↔ m ≠ n := by
      simp
    rw [entries_raised, List.append_eq_nil_iff, List.append_eq_nil_iff, hfirst, ih, ih']
    rfl

theorem prompt_told_self : Prompt n i true (.told i rest) ↔ rest.Prompt n i false := by
  rw [Prompt, bne_self_eq_false]
  rfl

theorem prompt_told_other (hj : j ≠ i) (waiting : Bool) :
    Prompt n i waiting (.told j rest) ↔ rest.Prompt n i waiting := by
  rw [Prompt, bne_iff_ne.2 hj, Bool.and_true]

theorem prompt_of_silent (h : c.Silent n) (waiting : Bool) : c.Prompt n i waiting := by
  induction c generalizing waiting with
  | ended => trivial
  | told j rest ih => exact ih h _
  | raised m event observers delivery rest ih ih' =>
    exact ⟨fun _ => ⟨h.1, h.2.1⟩, ih h.2.1 _, ih' h.2.2 _⟩

/-! ## 2. Every event is seen once -/

/-- What an observer sees of one delivery, and of the deliveries in it. -/
theorem seen_delivery_perm
    (hperm : ∀ k, (seen n i k none delivery).Perm (entries n k delivery) ∧
      ∀ o : Occurrence ε, o.subject = n → delivery.tellings.count i = 1 →
        (seen n i k (some o) delivery).Perm (o :: entries n k delivery))
    (hattends : m = n → delivery.tellings.count i = 1) (k : Nat) (event : ε) :
    (seen n i (k + 1) (some ⟨m, k, event⟩) delivery).Perm
      (([⟨m, k, event⟩].filter fun o : Occurrence ε => o.subject = n) ++
        entries n (k + 1) delivery) := by
  by_cases hm : m = n
  · rw [List.filter_cons_of_pos (by simpa using hm)]
    exact (hperm (k + 1)).2 ⟨m, k, event⟩ hm (hattends hm)
  · rw [List.filter_cons_of_neg (by simpa using hm), seen_idle fun ho => absurd ho hm]
    exact (hperm (k + 1)).1

/-- **An observer that attends sees every event once.** The second part is about an event that is
being delivered, and of which the observer will be told. -/
theorem seen_perm (hr : c.Rounds) (ha : c.Attends n i) (k : Nat) :
    (seen n i k none c).Perm (entries n k c) ∧
      ∀ o : Occurrence ε, o.subject = n → c.tellings.count i = 1 →
        (seen n i k (some o) c).Perm (o :: entries n k c) := by
  induction c generalizing k with
  | ended => exact ⟨.nil, fun o _ hcount => by cases hcount⟩
  | told j rest ih =>
    obtain ⟨hnone, hsome⟩ := ih hr ha k
    refine ⟨hnone, fun o ho hcount => ?_⟩
    by_cases hj : j = i
    · subst hj
      rw [seen_told_self ho, seen_idle fun _ => not_mem_of_told hcount]
      exact hnone.cons o
    · rw [seen_told_other fun h => hj h.1]
      refine hsome o ho ?_
      rw [← hcount]
      exact (List.count_cons_of_ne hj).symm
  | raised m event observers delivery rest ih ih' =>
    obtain ⟨htellings, hdelivery, hrest⟩ := hr
    have hfirst := seen_delivery_perm (ih hdelivery ha.2.1) (by rw [htellings]; exact ha.1) k event
    obtain ⟨hnone, hsome⟩ := ih' hrest ha.2.2 (k + (1 + delivery.size))
    rw [entries_raised, ← List.append_assoc]
    refine ⟨?_, fun o ho hcount => ?_⟩
    · rw [seen_raised]
      exact hfirst.append hnone
    · rw [seen_raised]
      exact (hfirst.append (hsome o ho hcount)).trans List.perm_middle

/-! ## 3. The order -/

theorem append_eq_append_iff_of_length {α : Type} {as bs as' bs' : List α}
    (h : as.length = as'.length) : as ++ bs = as' ++ bs' ↔ as = as' ∧ bs = bs' :=
  ⟨fun heq => List.append_inj heq h, fun ⟨has, hbs⟩ => by rw [has, hbs]⟩

/-- **An event that comes in is seen before the one that the observer waits for.** -/
theorem overtaken (hk : o.number < k)
    (hseen : seen n i (k + 1) (some ⟨m, k, event⟩) delivery ≠ []) (as bs : List (Occurrence ε)) :
    seen n i (k + 1) (some ⟨m, k, event⟩) delivery ++ as ≠ o :: bs := by
  intro heq
  cases hfirst : seen n i (k + 1) (some ⟨m, k, event⟩) delivery with
  | nil => exact hseen hfirst
  | cons first others =>
    rw [hfirst] at heq
    obtain rfl : first = o := (List.cons.inj heq).1
    rcases number_of_mem_seen (by rw [hfirst]; exact List.mem_cons_self) with hnow | hle
    · rw [← Option.some.inj hnow] at hk
      exact Nat.lt_irrefl k hk
    · omega

/-- **An observer that attends sees the events in the order in which they came in exactly if none
comes in while it waits.** The second part is about an event that is being delivered. -/
theorem seen_eq_iff (hr : c.Rounds) (ha : c.Attends n i) (k : Nat) :
    (seen n i k none c = entries n k c ↔ c.Prompt n i false) ∧
      ∀ o : Occurrence ε, o.subject = n → o.number < k → c.tellings.count i = 1 →
        (seen n i k (some o) c = o :: entries n k c ↔ c.Prompt n i true) := by
  induction c generalizing k with
  | ended => exact ⟨iff_of_true rfl trivial, fun o _ _ hcount => by cases hcount⟩
  | told j rest ih =>
    obtain ⟨hnone, hsome⟩ := ih hr ha k
    refine ⟨hnone, fun o ho hk hcount => ?_⟩
    by_cases hj : j = i
    · subst hj
      rw [seen_told_self ho, seen_idle fun _ => not_mem_of_told hcount, prompt_told_self]
      exact (List.cons_inj_right o).trans hnone
    · rw [seen_told_other fun h => hj h.1, prompt_told_other hj]
      refine hsome o ho hk ?_
      rw [← hcount]
      exact (List.count_cons_of_ne hj).symm
  | raised m event observers delivery rest ih ih' =>
    obtain ⟨htellings, hdelivery, hrest⟩ := hr
    obtain ⟨hcount, hattends, hattends'⟩ := ha
    have hfirst := seen_delivery_perm (seen_perm hdelivery hattends)
      (by rw [htellings]; exact hcount) k event
    obtain ⟨hnone, hsome⟩ := ih' hrest hattends' (k + (1 + delivery.size))
    rw [entries_raised, ← List.append_assoc, seen_raised]
    constructor
    · have hinner : seen n i (k + 1) (some ⟨m, k, event⟩) delivery =
          ([⟨m, k, event⟩].filter fun o : Occurrence ε => o.subject = n) ++
            entries n (k + 1) delivery ↔ delivery.Prompt n i (m == n) := by
        by_cases hm : m = n
        · rw [List.filter_cons_of_pos (by simpa using hm), beq_iff_eq.2 hm]
          exact (ih hdelivery hattends (k + 1)).2 ⟨m, k, event⟩ hm (Nat.lt_succ_self k)
            (by rw [htellings]; exact hcount hm)
        · rw [List.filter_cons_of_neg (by simpa using hm), seen_idle fun ho => absurd ho hm,
            beq_eq_false_iff_ne.2 hm]
          exact (ih hdelivery hattends (k + 1)).1
      rw [append_eq_append_iff_of_length hfirst.length_eq, hinner, hnone, Prompt]
      simp
    · intro o ho hk hcount'
      have hlast := hsome o ho (by omega) hcount'
      by_cases hsilent : m ≠ n ∧ delivery.Silent n
      · have hnothing : ([⟨m, k, event⟩].filter fun o : Occurrence ε => o.subject = n) ++
            entries n (k + 1) delivery = [] := by
          rw [entries_eq_nil_iff.2 hsilent.2, List.append_nil]
          simpa using hsilent.1
        rw [hnothing] at hfirst ⊢
        rw [seen_raised, hfirst.eq_nil, Prompt]
        exact hlast.trans
          ⟨fun h => ⟨fun _ => hsilent, prompt_of_silent hsilent.2 _, h⟩, fun h => h.2.2⟩
      · -- Something comes in, so it is there to be seen.
        refine iff_of_false ?_ fun h => hsilent (h.1 rfl)
        rw [seen_raised]
        refine overtaken hk (fun hnil => hsilent ?_) _ _
        rw [hnil] at hfirst
        obtain ⟨hhere, hinner⟩ := List.append_eq_nil_iff.1 hfirst.symm.eq_nil
        exact ⟨by simpa using hhere, entries_eq_nil_iff.1 hinner⟩

end Order

/-- **The observer sees the events of a subject in the order in which they came in.** -/
def SeesInOrder (n i : Nat) (c : Course ε) : Prop := c.seen n i 0 none = c.entries n 0

end Course

/-! ## 4. Runs -/

namespace Audience

variable {ε : Type} {count : Nat → Audience ε → Nat} {a b : Audience ε}

/-- What becomes of an audience. -/
inductive Act (ε : Type) where
  /-- an event came in, and this is the course of its notification -/
  | notified (c : Course ε)
  /-- anything else -/
  | changed

/-- **One step of an audience.** Between notifications observers may be made, added and taken away,
and may get other reactions. -/
inductive Step (count : Nat → Audience ε → Nat) (a : Audience ε) : Act ε → Audience ε → Prop where
  | notify (subject : Nat) (event : ε) :
    Step count a (.notified (a.course count subject event)) (a.notify count subject event).2
  | change (b : Audience ε) : Step count a .changed b

/-- The course of a run. -/
def history : List (Act ε) → Course ε
  | [] => .ended
  | .notified c :: rest => c.append (history rest)
  | .changed :: rest => history rest

theorem rounds_history {acts : List (Act ε)} (h : ∀ c, .notified c ∈ acts → c.Rounds) :
    (history acts).Rounds := by
  induction acts with
  | nil => trivial
  | cons act rest ih =>
    have hrest := ih fun c hc => h c (List.mem_cons_of_mem _ hc)
    cases act with
    | notified c => exact Course.rounds_append.2 ⟨h c List.mem_cons_self, hrest⟩
    | changed => exact hrest

theorem rounds_of_trace {acts : List (Act ε)} (h : Trace (Step count) a acts b) :
    (history acts).Rounds := by
  refine rounds_history (h.invariant (I := fun acts _ => ∀ c, .notified c ∈ acts → c.Rounds)
    (fun c hc => by cases hc) fun acts b act b' _ hacts hs c hc => ?_)
  rcases List.mem_append.1 hc with hc | hc
  · exact hacts c hc
  · obtain rfl := List.mem_singleton.1 hc
    cases hs with
    | notify subject event => exact rounds_course count subject event b

/-- **In which order the events of a subject are seen** in a run. -/
structure Witnessed (count : Nat → Audience ε → Nat) (n : Nat) (acts : List (Act ε))
    (b : Audience ε) : Prop where
  /-- an observer that attends sees every event that came in, once -/
  complete : ∀ i, (history acts).Attends n i →
    ((history acts).seen n i 0 none).Perm ((history acts).entries n 0)
  /-- and it sees them in the order in which they came in exactly if none came in while it waited -/
  in_order_iff : ∀ i, (history acts).Attends n i →
    ((history acts).SeesInOrder n i ↔ (history acts).Prompt n i false)
  /-- the next event is delivered to all who are registered, and what they note of it and of the
  events that come in meanwhile is what they see -/
  next : ∀ event, (b.course count n event).Rounds ∧
    ∀ k, Notes b ((b.course count n event).sightings k none) (b.notify count n event).2

/-- **Observers that attend see all events, and in order as long as nobody raises one that others
still wait for another one.** So two of them see events in different orders only where an observer
raised an event. -/
theorem order_of_events (n : Nat) (acts : List (Act ε)) (h : Trace (Step count) a acts b) :
    Witnessed count n acts b where
  complete _ ha := (Course.seen_perm (rounds_of_trace h) ha 0).1
  in_order_iff _ ha := (Course.seen_eq_iff (rounds_of_trace h) ha 0).1
  next event := ⟨rounds_course count n event b, fun k => noted_course count n event k b⟩

/-! ## 5. An event that overtakes another one -/

/-- The event that comes in from outside. -/
def inserted : ReaderEvent := .plain "P" "R" .inserted

/-- The event that an observer raises. -/
def removed : ReaderEvent := .plain "P" "R" .removed

/-- The first of two observers raises an event when it is told of one. -/
def couple : Audience ReaderEvent :=
  { ((ofSubjects 1).make ⟨"A", 0, .renotify 1 removed⟩).make ⟨"B", 0, .record⟩ with
    lists := [⟨[0, 1]⟩] }

/-- A card is inserted while they watch. -/
def overtaking : List (Act ReaderEvent) := [.notified (couple.course registrations 0 inserted)]

theorem trace_overtaking : Trace (Step registrations) couple overtaking
    (couple.notify registrations 0 inserted).2 :=
  .snoc [] _ _ _ .start (.notify 0 inserted)

theorem order_of_events_overtaking : Witnessed registrations 0 overtaking
    (couple.notify registrations 0 inserted).2 :=
  order_of_events 0 overtaking trace_overtaking

/-- **The observer behind sees the events the other way round.** Both stay registered. -/
theorem event_overtaken :
    ∃ b, Trace (Step registrations) couple overtaking b ∧
      (history overtaking).Attends 0 0 ∧ (history overtaking).Attends 0 1 ∧
      (history overtaking).seen 0 0 0 none = [⟨0, 0, inserted⟩, ⟨0, 1, removed⟩] ∧
      (history overtaking).seen 0 1 0 none = [⟨0, 1, removed⟩, ⟨0, 0, inserted⟩] ∧
      ¬ (history overtaking).SeesInOrder 0 1 := by
  refine ⟨_, trace_overtaking, ?_, ?_, rfl, rfl, fun horder => ?_⟩
  · exact ⟨fun _ => rfl, ⟨fun _ => rfl, trivial, trivial⟩, trivial⟩
  · exact ⟨fun _ => rfl, ⟨fun _ => rfl, trivial, trivial⟩, trivial⟩
  · have hswapped : [(⟨0, 1, removed⟩ : Occurrence ReaderEvent), ⟨0, 0, inserted⟩] =
        [⟨0, 0, inserted⟩, ⟨0, 1, removed⟩] := horder
    exact absurd hswapped (by decide)

end Audience

end CardLink
