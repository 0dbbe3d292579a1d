import CardLink.Proofs.Transport.Delivery
import Mathlib.Data.List.Induction

/-!
# Texts in flight when a node is detached

To detach a node is to forget which queue its texts go to. A queue that was left behind stays as it
is, and its receiver goes on until it is empty. So texts that were on their way to the node are
handed over after it was detached, and none of them is dropped.

* `Hub.DropsInFlight`: nothing that was on its way to a node is handed over after it was detached.
* `Hub.left_of_detached`: no text joins those that are on their way to a node that was detached.
* `Hub.Outlives`: what becomes of the texts that are on their way.
* **`Hub.texts_outlive_detaching`**: after every run; texts in flight are dropped only where nothing
  well-formed is in flight.
* `Hub.handed_over_after_all`: a run in which a note is handed over to a node that was detached.
-/

namespace CardLink

namespace Hub

/-! ## 1. Whose queues there are -/

/-- The ids that queues were made under, in order. -/
def homes (evs : List Event) : List String :=
  evs.filterMap fun
    | .attached node => some node
    | _ => none

/-- What was accepted for an attachment and its receiver has not taken. -/
def waiting (k : Nat) (evs : List Event) : List Load := (accepted k evs).drop (taken k evs).length

/-- A node is detached in a run, between two parts of it, and has had this attachment. -/
structure Detaches (evs before after : List Event) (node : String) (k : Nat) : Prop where
  parts : evs = before ++ .detached node :: after
  home : (homes before)[k]? = some node

/-- **What was on its way to a node is not handed over after it was detached.** -/
def DropsInFlight (evs : List Event) : Prop :=
  ∀ before after node k, Detaches evs before after node k → handed k after = []

/-- Nothing but malformed texts is on its way to a node when it is detached. -/
def NothingInFlight (evs : List Event) : Prop :=
  ∀ before after node k, Detaches evs before after node k →
    ∀ load ∈ waiting k before, load.content? = none

section Homes

variable {evs before after : List Event} {ev : Event} {node name : String} {k : Nat}

theorem homes_concat : homes (evs ++ [ev]) = homes evs ++ homes [ev] :=
  List.filterMap_append

theorem placed_fst (node : String) (evs : List Event) :
    (placed node evs).1 = (homes evs).length := by
  induction evs using List.reverseRecOn with
  | nil => rfl
  | append_singleton evs ev ih =>
    rw [placed_concat, homes_concat, List.length_append, ← ih]
    cases ev <;> rfl

/-- An attachment becomes current when it is made, and is so until its node is attached anew or
detached. -/
theorem current_of_concat (hk : current? node (evs ++ [ev]) = some k) :
    (ev = .attached node ∧ k = (homes evs).length) ∨
      (current? node evs = some k ∧ ev ≠ .detached node) := by
  have hplace : (place node (placed node evs) ev).2 = some k := by
    rw [← placed_concat]
    exact hk
  cases ev with
  | attached name =>
    by_cases hname : name = node
    · rw [hname, place, if_pos rfl, placed_fst] at hplace
      exact .inl ⟨by rw [hname], (Option.some.inj hplace).symm⟩
    · rw [place, if_neg hname] at hplace
      exact .inr ⟨hplace, Event.noConfusion⟩
  | detached name =>
    by_cases hname : name = node
    · rw [hname, place, if_pos rfl] at hplace
      cases hplace
    · rw [place, if_neg hname] at hplace
      exact .inr ⟨hplace, fun heq => hname (Event.detached.inj heq)⟩
  | sent => exact .inr ⟨hplace, Event.noConfusion⟩
  | injected => exact .inr ⟨hplace, Event.noConfusion⟩
  | took => exact .inr ⟨hplace, Event.noConfusion⟩

/-- The current attachment of a node was made under its id. -/
theorem home_of_current (hk : current? node evs = some k) : (homes evs)[k]? = some node := by
  induction evs using List.reverseRecOn with
  | nil => cases hk
  | append_singleton evs ev ih =>
    rw [homes_concat]
    rcases current_of_concat hk with ⟨rfl, rfl⟩ | ⟨hold, -⟩
    · exact List.getElem?_concat_length
    · have hhome := ih hold
      rw [List.getElem?_append_left (List.getElem?_eq_some_iff.1 hhome).1]
      exact hhome

/-- An attachment that was made and is nobody's any more. -/
structure Left (k : Nat) (evs : List Event) : Prop where
  made : k < (homes evs).length
  nobody : ∀ name, current? name evs ≠ some k

/-- A queue that was left behind is never taken up again. -/
theorem Left.concat (hl : Left k evs) : Left k (evs ++ [ev]) := by
  constructor
  · rw [homes_concat, List.length_append]
    exact Nat.lt_add_right _ hl.made
  · intro name hk
    rcases current_of_concat hk with ⟨-, hnew⟩ | ⟨hold, -⟩
    · exact Nat.ne_of_lt hl.made hnew
    · exact hl.nobody name hold

/-- **The attachments of a node are left behind** when it is detached. -/
theorem left_of_detached (hhome : (homes evs)[k]? = some node) :
    Left k (evs ++ [.detached node]) := by
  constructor
  · rw [homes_concat, List.length_append]
    exact Nat.lt_add_right _ (List.getElem?_eq_some_iff.1 hhome).1
  · intro name hk
    rcases current_of_concat hk with ⟨hattached, -⟩ | ⟨hold, hother⟩
    · cases hattached
    · have hname := home_of_current hold
      rw [hhome] at hname
      exact hother (by rw [Option.some.inj hname])

theorem Left.load? (hl : Left k evs) (ev : Event) : load? k evs ev = none := by
  unfold Hub.load?
  split
  · exact if_neg (hl.nobody _)
  · exact if_neg (hl.nobody _)
  · rfl

/-- Nothing is accepted for it any more. -/
theorem Left.acceptedIn (hl : Left k before) (evs : List Event) : acceptedIn k before evs = [] := by
  induction evs generalizing before with
  | nil => rfl
  | cons ev rest ih =>
    rw [Hub.acceptedIn, hl.load?, ih hl.concat]
    rfl

theorem Detaches.accepted (hd : Detaches evs before after node k) :
    accepted k evs = accepted k before := by
  have hparts : evs = (before ++ [.detached node]) ++ after := by simp [hd.parts]
  rw [hparts, accepted_append, (left_of_detached hd.home).acceptedIn, List.append_nil,
    accepted_concat]
  exact List.append_nil _

theorem Detaches.taken (hd : Detaches evs before after node k) :
    taken k evs = taken k before ++ taken k after := by
  rw [hd.parts, taken_append]
  rfl

/-- A run that goes on with takes detaches no node but those that it has detached. -/
theorem Detaches.of_takes {later : List Event} (honly : ∀ ev ∈ later, ∃ k wire, ev = .took k wire)
    (hd : Detaches (evs ++ later) before after node k) :
    ∃ rest, after = rest ++ later ∧ Detaches evs before rest node k := by
  rcases List.append_eq_append_iff.1 hd.parts with ⟨as, hbefore, hlater⟩ | ⟨bs, hevs, hafter⟩
  · obtain ⟨j, wire, hev⟩ := honly (.detached node) (by simp [hlater])
    cases hev
  · cases bs with
    | nil =>
      obtain rfl : later = .detached node :: after := hafter.symm
      obtain ⟨j, wire, hev⟩ := honly (.detached node) List.mem_cons_self
      cases hev
    | cons ev rest =>
      obtain ⟨rfl, rfl⟩ := List.cons.inj hafter
      exact ⟨rest, rfl, hevs, hd.home⟩

end Homes

/-! ## 2. What becomes of texts in flight -/

/-- **Texts in flight outlive the detaching of their node.** -/
structure Outlives (evs : List Event) (h : Hub) : Prop where
  /-- each of them was taken since or waits, in order -/
  kept : ∀ before after node k, Detaches evs before after node k →
    (waiting k before).map Load.wire = taken k after ++ h.queue k
  /-- a receiver that goes on has been handed all of them in the end -/
  complete : ∀ before after node k, Detaches evs before after node k →
    (waiting k before).filterMap Load.content? = handed k after ++ (h.receive k h.queued).1
  /-- they are dropped, however the receivers go on, only where nothing is in flight -/
  dropped_iff : (∀ later h', Trace Step h later h' → (∀ ev ∈ later, ∃ k wire, ev = .took k wire) →
    DropsInFlight (evs ++ later)) ↔ NothingInFlight evs

section Outlives

variable {evs before after : List Event} {h : Hub} {node family : String} {k : Nat}

theorem kept_of_carries (hc : Carries evs h) (hd : Detaches evs before after node k) :
    (waiting k before).map Load.wire = taken k after ++ h.queue k := by
  have hqueues := hc.queues k
  rw [hd.accepted, hd.taken, List.append_assoc] at hqueues
  rw [waiting, List.map_drop, hqueues, List.drop_left]

theorem contents_of_carries (hc : Carries evs h) (hd : Detaches evs before after node k) :
    (waiting k before).filterMap Load.content? = handed k after ++ (h.receive k h.queued).1 := by
  rw [← readable_wires, kept_of_carries hc hd, List.filterMap_append, received]
  rfl

/-- **What is in flight when a node is detached is handed over all the same.** Texts that are on
their way to the node are dropped exactly if none of them is well-formed. -/
theorem texts_outlive_detaching (h : Hub) (htrace : Trace Step (new family) evs h) :
    Outlives evs h := by
  have hc := carries_of_trace htrace
  refine ⟨fun _ _ _ _ => kept_of_carries hc, fun _ _ _ _ => contents_of_carries hc, ?_, ?_⟩
  · -- The receiver of the attachment goes on until its queue is empty.
    intro hdrops before after node k hd load hload
    obtain ⟨later, hlater, honly, htaken, -⟩ := receive_trace h k h.queued
    have hrest : Detaches (evs ++ later) before (after ++ later) node k :=
      ⟨by simp [hd.parts], hd.home⟩
    have hnone := hdrops later _ hlater (fun ev hev => ⟨k, honly ev hev⟩) _ _ _ _ hrest
    have hall := kept_of_carries hc hd
    rw [← List.take_of_length_le (queue_le_queued h k), ← htaken, ← taken_append] at hall
    have hcontents : (waiting k before).filterMap Load.content? = [] := by
      rw [← readable_wires, hall]
      exact hnone
    exact List.filterMap_eq_nil_iff.1 hcontents load hload
  · intro hnothing later h' hlater honly before after node k hd
    obtain ⟨rest, -, hdetached⟩ := hd.of_takes honly
    have hcontents := contents_of_carries (carries_of_trace (htrace.append hlater)) hd
    rw [List.filterMap_eq_nil_iff.2 (hnothing before rest node k hdetached)] at hcontents
    exact (List.append_eq_nil_iff.1 hcontents.symm).1

end Outlives

/-! ## 3. A note that is handed over after all -/

/-- A note is on its way to a node when the node is detached, and its receiver takes it. -/
def lateNote : List Event :=
  [.attached "M", .sent "M" (note "1") (.ok ()), .detached "M", .took 0 (note "1").toWire]

theorem trace_lateNote : ∃ h, Trace Step (new defaultFamily) lateNote h := by
  have h₁ : Trace Step (new defaultFamily) [.attached "M"] _ := .snoc [] _ _ _ .start (.attach "M")
  have h₂ := Trace.snoc _ _ _ _ h₁ (.send "M" (note "1"))
  have h₃ := Trace.snoc _ _ _ _ h₂ (.detach "M")
  exact ⟨_, Trace.snoc _ _ _ _ h₃ (.take 0 (note "1").toWire _ rfl)⟩

theorem texts_outlive_detaching_lateNote :
    ∃ h, Trace Step (new defaultFamily) lateNote h ∧ Outlives lateNote h := by
  obtain ⟨h, htrace⟩ := trace_lateNote
  exact ⟨h, htrace, texts_outlive_detaching h htrace⟩

/-- **A text that was in flight is not dropped.** -/
theorem handed_over_after_all :
    ∃ h, Trace Step (new defaultFamily) lateNote h ∧ ¬ DropsInFlight lateNote := by
  obtain ⟨h, htrace⟩ := trace_lateNote
  refine ⟨h, htrace, fun hdrops => ?_⟩
  have hnone : handed 0 [.took 0 (note "1").toWire] = [] :=
    hdrops [.attached "M", .sent "M" (note "1") (.ok ())] _ "M" 0 ⟨rfl, rfl⟩
  have hread : readable? (note "1").toWire = some (note "1") :=
    Load.readable?_wire (.envelope (note "1"))
  simp [handed, taken, hread] at hnone

end Hub

end CardLink
