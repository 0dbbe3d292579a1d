/-!
# Runs as lists of events

A system is given by its steps: `step s ev t` says that the event `ev` leads from `s` to `t`. A trace
is a run from a start state, told by its events, the earliest first.

* `Trace.invariant`: what the start has and every step keeps holds at the end.
* `Trace.split`: a run with an event in it goes through a step with this event.
* `Since`, `since_snoc`: an event that happened, and nothing since then that undoes it.
-/

namespace CardLink

/-- The run of a system from `s` with these events ends in `t`. -/
inductive Trace {σ ε : Type} (step : σ → ε → σ → Prop) (s : σ) : List ε → σ → Prop where
  | start : Trace step s [] s
  | snoc (evs : List ε) (t : σ) (ev : ε) (u : σ) (h : Trace step s evs t) (hs : step t ev u) :
      Trace step s (evs ++ [ev]) u

namespace Trace

variable {σ ε : Type} {step step' : σ → ε → σ → Prop} {s t u : σ} {evs : List ε}

/-- **What every step keeps holds along a run.** The property may speak about the events so far. -/
theorem invariant {I : List ε → σ → Prop} (h0 : I [] s)
    (hstep : ∀ evs t ev u, Trace step s evs t → I evs t → step t ev u → I (evs ++ [ev]) u)
    (h : Trace step s evs t) : I evs t := by
  induction h with
  | start => exact h0
  | snoc evs t ev u h hs ih => exact hstep evs t ev u h ih hs

theorem mono (hsub : ∀ s ev t, step s ev t → step' s ev t) (h : Trace step s evs t) :
    Trace step' s evs t := by
  induction h with
  | start => exact .start
  | snoc evs t ev u _ hs ih => exact .snoc evs t ev u ih (hsub _ _ _ hs)

theorem append {evs' : List ε} (h : Trace step s evs t) (h' : Trace step t evs' u) :
    Trace step s (evs ++ evs') u := by
  induction h' with
  | start => simpa using h
  | snoc evs' t' ev u _ hs ih =>
    rw [← List.append_assoc]
    exact .snoc _ _ _ _ ih hs

/-- **Every event of a run belongs to one of its steps.** -/
theorem split {before after : List ε} {ev : ε} (h : Trace step s evs u)
    (he : evs = before ++ ev :: after) :
    ∃ t t', Trace step s before t ∧ step t ev t' ∧ Trace step t' after u := by
  induction h generalizing after with
  | start => simp at he
  | snoc evs t ev' u h hs ih =>
    rcases List.eq_nil_or_concat after with rfl | ⟨after', last, rfl⟩
    · obtain ⟨rfl, hev⟩ := List.append_inj' he rfl
      obtain rfl : ev' = ev := by simpa using hev
      exact ⟨t, u, h, hs, .start⟩
    · have he' : evs ++ [ev'] = (before ++ ev :: after') ++ [last] := by simpa using he
      obtain ⟨rfl, hlast⟩ := List.append_inj' he' rfl
      obtain rfl : ev' = last := by simpa using hlast
      obtain ⟨t₁, t₂, h₁, hs₁, h₂⟩ := ih rfl
      exact ⟨t₁, t₂, h₁, hs₁, by simpa using Trace.snoc _ _ _ _ h₂ hs⟩

end Trace

/-! ## What happened and was not undone -/

section Since

variable {ε : Type} {fits : List ε → ε → Prop} {stops : ε → Prop} {evs : List ε} {ev : ε}

/-- An event happened that fits the events before it, and none happened since then that stops. -/
def Since (fits : List ε → ε → Prop) (stops : ε → Prop) (evs : List ε) : Prop :=
  ∃ before ev after, evs = before ++ ev :: after ∧ fits before ev ∧ ∀ ev' ∈ after, ¬ stops ev'

theorem not_since_nil : ¬ Since fits stops [] := by
  intro hsome
  obtain ⟨before, ev, after, h, -⟩ := hsome
  simp at h

/-- **The last event begins it, or lets it go on, or stops it.** -/
theorem since_snoc :
    Since fits stops (evs ++ [ev]) ↔ fits evs ev ∨ Since fits stops evs ∧ ¬ stops ev := by
  constructor
  · intro hsome
    obtain ⟨before, ev', after, h, hfits, hafter⟩ := hsome
    rcases List.eq_nil_or_concat after with rfl | ⟨after', last, rfl⟩
    · obtain ⟨rfl, hev⟩ := List.append_inj' h rfl
      obtain rfl : ev = ev' := by simpa using hev
      exact .inl hfits
    · have h' : evs ++ [ev] = (before ++ ev' :: after') ++ [last] := by simpa using h
      obtain ⟨rfl, hlast⟩ := List.append_inj' h' rfl
      obtain rfl : ev = last := by simpa using hlast
      refine .inr ⟨⟨before, ev', after', rfl, hfits, fun x hx => hafter x ?_⟩, hafter ev ?_⟩
      · simp [hx]
      · simp
  · intro hcase
    rcases hcase with hfits | ⟨⟨before, ev', after, rfl, hfits, hafter⟩, hev⟩
    · exact ⟨evs, ev, [], rfl, hfits, fun x hx => absurd hx List.not_mem_nil⟩
    · refine ⟨before, ev', after ++ [ev], by simp, hfits, fun x hx => ?_⟩
      rcases List.mem_append.1 hx with hx | hx
      · exact hafter x hx
      · obtain rfl : x = ev := by simpa using hx
        exact hev

/-- An event that neither begins nor stops it changes nothing. -/
theorem since_snoc_of_idle (hfits : ¬ fits evs ev) (hstops : ¬ stops ev) :
    Since fits stops (evs ++ [ev]) ↔ Since fits stops evs := by
  rw [since_snoc, or_iff_right hfits, and_iff_left hstops]

/-- An event that stops it and does not begin it anew. -/
theorem not_since_snoc (hfits : ¬ fits evs ev) (hstops : stops ev) :
    ¬ Since fits stops (evs ++ [ev]) := by
  rw [since_snoc, or_iff_right hfits]
  exact fun h => h.2 hstops

end Since

end CardLink
