import CardLink.Observer.Audience

/-!
# Observers that only take note

Observers may do much when they are told of an event. Those that only take note of it, or fail over
it, leave the registrations and one another alone, so that a notification is no more than what it
tells them.

* `Audience.Passive`: no observer does more than that.
* `Audience.told`: what such observers note.
* **`Audience.Passive.notify`**: a notification tells the observers of its subject, and changes
  nothing.

NOT here: observers that register others or raise events themselves.
-/

namespace CardLink

/-- The observer takes note of an event or fails over it, and does nothing else. -/
def Reaction.IsPassive {ε : Type} : Reaction ε → Prop
  | .record => True
  | .fail _ => True
  | .panic _ => True
  | _ => False

namespace Audience

variable {ε : Type} {a : Audience ε}

/-- **All observers only take note.** -/
structure Passive (a : Audience ε) : Prop where
  reactions : ∀ w ∈ a.watchers, w.reaction.IsPassive
  /-- what they did before was collected -/
  collected : a.rested = a

/-- What the observers with these numbers note of an event. -/
def told (a : Audience ε) (event : ε) (is : List Nat) : List (Note ε) :=
  is.filterMap fun i => (a.watchers[i]?).map fun w => .told w.name event

theorem mem_told {event : ε} {is : List Nat} {n : Note ε} (h : n ∈ a.told event is) :
    ∃ who, n = .told who event := by
  obtain ⟨i, -, hi⟩ := List.mem_filterMap.1 h
  obtain ⟨w, -, rfl⟩ := Option.map_eq_some_iff.1 hi
  exact ⟨w.name, rfl⟩

/-- The observers that are registered at a subject, the earliest first. -/
def listeners (a : Audience ε) (subject : Nat) : List (Watcher ε) :=
  (a.observers subject).toList.filterMap (a.watchers[·]?)

theorem told_observers (event : ε) (subject : Nat) :
    a.told event (a.observers subject).toList =
      (a.listeners subject).map fun w => .told w.name event :=
  List.map_filterMap.symm

/-- The audience with more notes and more lines in its log. -/
def noting (a : Audience ε) (notes : List (Note ε)) (lines : List String) : Audience ε :=
  { a with notes := a.notes ++ notes, complaints := a.complaints ++ lines }

/-! ## 1. One observer after the other -/

theorem complain_noting {notes : List (Note ε)} {o : Outcome} {line : String}
    (h : o.complaint? = some line) : (a.noting notes []).complain o = a.noting notes [line] := by
  simp [complain, h, noting]

theorem update_of_passive (h : ∀ w ∈ a.watchers, w.reaction.IsPassive)
    (count : Nat → Audience ε → Nat) (depth : Nat) (event : ε) (i : Nat) :
    ∃ lines, (update count (depth + 1) event i a).2 = a.noting (a.told event [i]) lines := by
  unfold update
  cases hw : a.watchers[i]? with
  | none => exact ⟨[], by simp [noting, told, hw]⟩
  | some w =>
    have hpassive := h w (List.mem_of_getElem? hw)
    have hnoted : a.note (.told w.name event) = a.noting (a.told event [i]) [] := by
      simp [note, noting, told, hw]
    cases hr : w.reaction with
    | record =>
      simp only [hr, hnoted]
      exact ⟨[], rfl⟩
    | fail messages =>
      simp only [hr, hnoted]
      exact ⟨_, complain_noting rfl⟩
    | panic text =>
      simp only [hr, hnoted]
      exact ⟨_, complain_noting rfl⟩
    | _ =>
      rw [hr] at hpassive
      exact hpassive.elim

theorem deliver_of_passive (h : ∀ w ∈ a.watchers, w.reaction.IsPassive)
    (count : Nat → Audience ε → Nat) (depth : Nat) (event : ε) (is : List Nat) :
    ∃ lines, (ObserverList.deliver (update count (depth + 1) event) is a).2 =
      a.noting (a.told event is) lines := by
  induction is generalizing a with
  | nil => exact ⟨[], by simp [ObserverList.deliver, noting, told]⟩
  | cons i is ih =>
    obtain ⟨lines, hfirst⟩ := update_of_passive h count depth event i
    obtain ⟨lines', hrest⟩ := ih (a := a.noting (a.told event [i]) lines) h
    refine ⟨lines ++ lines', ?_⟩
    show (ObserverList.deliver _ is (update count (depth + 1) event i a).2).2 = _
    rw [hfirst, hrest]
    have htold : a.told event (i :: is) = a.told event [i] ++ a.told event is :=
      List.filterMap_append (l := [i])
    simp only [noting, htold, List.append_assoc]
    rfl

/-! ## 2. A notification -/

theorem Passive.notes_nil (h : a.Passive) : a.notes = [] := (congrArg Audience.notes h.collected).symm

/-- **The observers of the subject are told, in the order in which they registered**, and everything
is as it was once their notes are collected. -/
theorem Passive.notify (h : a.Passive) (count : Nat → Audience ε → Nat) (subject : Nat)
    (event : ε) :
    (a.notify count subject event).2.notes = a.told event (a.observers subject).toList ∧
      (a.notify count subject event).2.rested = a := by
  obtain ⟨lines, hdeliver⟩ :=
    deliver_of_passive h.reactions count a.budget event (a.observers subject).toList
  have hnotify : (a.notify count subject event).2 =
      a.noting (a.told event (a.observers subject).toList) lines := hdeliver
  rw [hnotify]
  refine ⟨?_, h.collected⟩
  show a.notes ++ _ = _
  rw [h.notes_nil, List.nil_append]

/-! ## 3. Subjects that come and go -/

/-- Registrations may come and go. -/
theorem Passive.withLists (h : a.Passive) (lists : List (ObserverList Nat)) :
    ({ a with lists := lists } : Audience ε).Passive where
  reactions := h.reactions
  collected := by
    have hlines : a.complaints = [] := (congrArg Audience.complaints h.collected).symm
    simp [rested, h.notes_nil, hlines]

/-- A new subject takes nobody's observers. -/
theorem observers_addSubject (a : Audience ε) (k : Nat) :
    a.addSubject.observers k = a.observers k := by
  unfold addSubject observers
  rw [List.getD_eq_getElem?_getD, List.getD_eq_getElem?_getD]
  by_cases hlt : k < a.lists.length
  · rw [List.getElem?_append_left hlt]
  · rw [List.getElem?_eq_none (Nat.le_of_not_lt hlt),
      List.getElem?_append_right (Nat.le_of_not_lt hlt)]
    cases k - a.lists.length with
    | zero => rfl
    | succ j => rfl

theorem observers_clear_of_ne (a : Audience ε) {k m : Nat} (h : k ≠ m) :
    (a.clear k).observers m = a.observers m := by
  unfold clear withObservers observers
  rw [List.getD_eq_getElem?_getD, List.getD_eq_getElem?_getD, List.getElem?_set_ne h]

end Audience

end CardLink
