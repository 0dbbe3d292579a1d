import CardLink.Slave.Basic

/-!
# What a slave is throughout

Whatever a slave does, it stays the node that it is and keeps its master; and what it sends by itself
when it takes in an envelope is a response.

* `Slave.prepare_frame`, `connected_frame`, `disconnected_frame`: handshakes.
* `Slave.insertCard_frame`, `removeCard_frame`: cards.
* `Slave.answer_frame`, `receive_frame`: envelopes that come in.
-/

namespace CardLink.Slave

section Frame

variable {sl' : Slave} (sl : Slave) (native : String)

theorem prepare_frame : (sl.prepare native).engine = sl.engine ∧
    (sl.prepare native).node = sl.node ∧ (sl.prepare native).master = sl.master := by
  unfold prepare
  split
  · exact ⟨rfl, rfl, rfl⟩
  · exact ⟨rfl, rfl, rfl⟩

theorem connected_frame (result : Except CallError String) :
    (sl.connected native result).2.node = sl.node ∧
      (sl.connected native result).2.master = sl.master := by
  unfold connected
  split
  · exact ⟨rfl, rfl⟩
  · split
    · exact ⟨rfl, rfl⟩
    · split
      · exact ⟨rfl, rfl⟩
      · exact ⟨rfl, rfl⟩

theorem disconnected_frame (result : Except CallError String) :
    (sl.disconnected native result).2.node = sl.node ∧
      (sl.disconnected native result).2.master = sl.master := by
  unfold disconnected
  split
  · exact ⟨rfl, rfl⟩
  · exact ⟨rfl, rfl⟩

variable {sl native} in
theorem insertCard_frame {card : SimulatedCard} {notice : Envelope}
    (h : sl.insertCard native card = .ok (notice, sl')) :
    sl'.node = sl.node ∧ sl'.master = sl.master := by
  unfold insertCard at h
  split at h
  · cases h
  · cases h
    exact ⟨rfl, rfl⟩

variable {sl native} in
theorem removeCard_frame {notice : Envelope} (h : sl.removeCard native = .ok (notice, sl')) :
    sl'.node = sl.node ∧ sl'.master = sl.master := by
  unfold removeCard at h
  split at h
  · cases h
  · cases h
    exact ⟨rfl, rfl⟩

theorem answer_frame (e : Envelope) : (sl.answer e).1.isRequest = false ∧
    (sl.answer e).2.node = sl.node ∧ (sl.answer e).2.master = sl.master := by
  unfold answer
  dsimp only
  split
  · exact ⟨rfl, rfl, rfl⟩
  · split
    · exact ⟨rfl, rfl, rfl⟩
    · split
      · exact ⟨rfl, rfl, rfl⟩
      · exact ⟨rfl, rfl, rfl⟩

theorem receive_frame (e : Envelope) : (∀ r, (sl.receive e).1 = some r → r.isRequest = false) ∧
    (sl.receive e).2.node = sl.node ∧ (sl.receive e).2.master = sl.master := by
  unfold receive
  split
  · exact ⟨fun r hr => absurd hr (Option.some_ne_none r).symm, rfl, rfl⟩
  · dsimp only
    split
    · exact ⟨fun r hr => absurd hr (Option.some_ne_none r).symm, rfl, rfl⟩
    · obtain ⟨hresponse, hnode, hmaster⟩ :=
        answer_frame { sl with seen := sl.seen ++ [e.action] } e
      refine ⟨fun r hr => ?_, hnode, hmaster⟩
      rw [← Option.some.inj hr]
      exact hresponse

end Frame

end CardLink.Slave
