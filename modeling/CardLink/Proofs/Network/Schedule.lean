import CardLink.Proofs.Network.Interleaving
import CardLink.Proofs.Network.Scheduling

/-!
# The tasks of a network take turns by moves

Whatever the network does when it settles, lets time pass or waits for the end of a task, it does
move by move, and no event is sent in these moves.

* `Network.Goes`: some moves in which no event is sent.
* `scheduling_goes`: the tasks take turns by such moves.
* `Goes.settle`, `Goes.runUntil`, `Goes.await`: so time passes by such moves.
-/

namespace CardLink

namespace Network

/-- **Some moves lead from one network to another**, and no event is sent in them. -/
def Goes (master station : String) (kept : Nat → Prop) (n n' : Network) : Prop :=
  ∃ evs, Trace (Move master station kept) n evs n' ∧ ∀ ev ∈ evs, ev = Happening.other

section Goes

variable {master station : String} {kept : Nat → Prop} {n n' n'' : Network}

theorem Goes.refl (n : Network) : Goes master station kept n n :=
  ⟨[], .start, fun _ hev => absurd hev List.not_mem_nil⟩

theorem Goes.move (h : Move master station kept n .other n') : Goes master station kept n n' :=
  ⟨[Happening.other], .snoc [] n _ n' .start h, fun _ hev => List.mem_singleton.1 hev⟩

theorem Goes.trans (h : Goes master station kept n n') (h' : Goes master station kept n' n'') :
    Goes master station kept n n'' := by
  obtain ⟨evs, htrace, hother⟩ := h
  obtain ⟨evs', htrace', hother'⟩ := h'
  refine ⟨evs ++ evs', htrace.append htrace', fun ev hev => ?_⟩
  rcases List.mem_append.1 hev with hev | hev
  · exact hother ev hev
  · exact hother' ev hev

/-- **The tasks take turns by moves.** -/
theorem scheduling_goes : Scheduling (Goes master station kept) where
  refl := .refl
  trans := .trans
  agenda _ agenda hakin := .move (.schedule agenda hakin.jobs)
  turn _ id := .move (.turn id)

theorem Goes.settle (n : Network) : Goes master station kept n n.settle := scheduling_goes.settle n

theorem Goes.runUntil (time : Nat) (n : Network) :
    Goes master station kept n (n.runUntil time) :=
  scheduling_goes.runUntil time n

theorem Goes.await (id : Nat) (n : Network) : Goes master station kept n (n.await id) :=
  scheduling_goes.await id n

end Goes

end Network

end CardLink
