import CardLink.Proofs.Json.Codec

/-!
# The value of a text that was written

A value that was read lists the members of an object by key. What a member is looked up for is the
same in both orders.

* `lookup_gathered`, `lookup_of_perm`: members that were gathered by key, or that stand in another
  order, are found as before.
* `parse?_toText`: the text of a value reads as the value of its outline.
* `parse?_members`, `parse?_object`: the text of an object reads as its members by key.
* `get?_parse?`: a key that the value does not have is not found in its text.
-/

namespace CardLink.Json

/-! ## 1. Members by key -/

/-- Members in the order of their keys. -/
def gathered {α : Type} (ms : List (String × α)) (sofar : List (String × α)) : List (String × α) :=
  ms.foldl (fun es m => insertEntry m.1 m.2 es) sofar

section Gathered

variable {α : Type} {ms sofar : List (String × α)}

theorem lookup_gathered (hdistinct : (ms.map (·.1)).Nodup) (name : String) :
    (gathered ms sofar).lookup name = (ms.lookup name).or (sofar.lookup name) := by
  induction ms generalizing sofar with
  | nil => rfl
  | cons m ms ih =>
    obtain ⟨k, v⟩ := m
    obtain ⟨hk, hrest⟩ := List.nodup_cons.1 hdistinct
    show (gathered ms (insertEntry k v sofar)).lookup name = _
    rw [ih hrest, lookup_insertEntry, List.lookup_cons]
    by_cases hname : name = k
    · subst hname
      have hnone : ms.lookup name = none := by
        rw [List.lookup_eq_none_iff]
        intro m hm
        have hne : name ≠ m.1 := fun heq => hk (List.mem_map.2 ⟨m, hm, heq.symm⟩)
        simpa using hne
      simp [hnone]
    · simp [beq_false_of_ne hname, hname]

/-- Distinct keys are found in whatever order the members stand. -/
theorem lookup_of_perm {ms' : List (String × α)} (h : ms.Perm ms')
    (hdistinct : (ms.map (·.1)).Nodup) (name : String) : ms.lookup name = ms'.lookup name := by
  induction h with
  | nil => rfl
  | cons m _ ih =>
    rw [List.lookup_cons, List.lookup_cons, ih (List.nodup_cons.1 hdistinct).2]
  | swap m m' ms =>
    obtain ⟨k, v⟩ := m
    obtain ⟨k', v'⟩ := m'
    have hne : k' ≠ k := fun heq => (List.nodup_cons.1 hdistinct).1 (by simp [heq])
    by_cases hname : name = k
    · subst hname
      simp [List.lookup_cons, beq_false_of_ne hne.symm]
    · simp [List.lookup_cons, beq_false_of_ne hname]
  | trans hfirst _ ih ih' =>
    exact (ih hdistinct).trans (ih' ((hfirst.map _).nodup_iff.1 hdistinct))

theorem mem_of_mem_gathered {m : String × α} (h : m ∈ gathered ms sofar) : m ∈ ms ∨ m ∈ sofar := by
  induction ms generalizing sofar with
  | nil => exact .inr h
  | cons m' ms ih =>
    rcases ih h with hm | hm
    · exact .inl (List.mem_cons_of_mem _ hm)
    · rcases mem_insertEntry hm with rfl | hm
      · exact .inl List.mem_cons_self
      · exact .inr hm

theorem sortedEntries_gathered (h : SortedEntries sofar) : SortedEntries (gathered ms sofar) := by
  induction ms generalizing sofar with
  | nil => exact h
  | cons m ms ih => exact ih (sortedEntries_insertEntry m.1 m.2 h)

/-- Keys in their order are all different. -/
theorem nodup_of_sortedEntries {es : List (String × α)} (h : SortedEntries es) :
    (es.map (·.1)).Nodup := by
  refine List.pairwise_map.2 (h.imp fun {a b} hlt heq => ?_)
  rw [heq] at hlt
  exact String.lt_irrefl _ hlt

theorem nodup_gathered : ((gathered ms []).map (·.1)).Nodup :=
  nodup_of_sortedEntries (sortedEntries_gathered List.Pairwise.nil)

end Gathered

/-! ## 2. Reading values -/

theorem parse?_toText (v : Json) (hv : v.Exact) : parse? v.toText = (Outline.ofValue v).value? := by
  unfold parse?
  rw [ofText_toText v hv]

/-- A value without parts, which is read back as it is. -/
structure Plain (v : Json) : Prop where
  content : (Outline.ofValue v).content? = some v
  depth : (Outline.ofValue v).depth = 0
  exact : v.Exact

theorem plain_text (s : String) : Plain (.text s) where
  content := by
    show (wording? (pieces s)).map Json.text = _
    rw [wording?_pieces]
    rfl
  depth := rfl
  exact := trivial

theorem plain_bool (b : Bool) : Plain (.bool b) := ⟨rfl, rfl, trivial⟩

/-- A value that is read back as it is, with at most so many lists and objects around its innermost
part. -/
structure Kept (layers : Nat) (v : Json) : Prop where
  content : (Outline.ofValue v).content? = some v
  depth : (Outline.ofValue v).depth ≤ layers
  exact : v.Exact

theorem Plain.kept {v : Json} (h : Plain v) : Kept 0 v := ⟨h.content, Nat.le_of_eq h.depth, h.exact⟩

section Kept

variable {layers : Nat} {ms : List (String × Json)} {items : List Json}

theorem Kept.mono {v : Json} (h : Kept 0 v) : Kept layers v :=
  ⟨h.content, Nat.le_trans h.depth (Nat.zero_le _), h.exact⟩

theorem contents?_ofItems (h : ∀ v ∈ items, Kept layers v) :
    (Items.ofValues items).contents? = some items := by
  induction items with
  | nil => rfl
  | cons v vs ih =>
    have hcontent := (h v List.mem_cons_self).content
    show (Items.cons (Outline.ofValue v) (Items.ofValues vs)).contents? = _
    simp only [Items.contents?, hcontent, ih fun w hw => h w (List.mem_cons_of_mem _ hw)]
    rfl

theorem depth_ofItems (h : ∀ v ∈ items, Kept layers v) :
    (Items.ofValues items).depth ≤ layers := by
  induction items with
  | nil => exact Nat.zero_le _
  | cons v vs ih =>
    exact Nat.max_le.2 ⟨(h v List.mem_cons_self).depth,
      ih fun w hw => h w (List.mem_cons_of_mem _ hw)⟩

theorem kept_list (h : ∀ v ∈ items, Kept layers v) : Kept (layers + 1) (.list items) where
  content := by
    show ((Items.ofValues items).contents?).map Json.list = _
    rw [contents?_ofItems h]
    rfl
  depth := Nat.succ_le_succ (depth_ofItems h)
  exact := exact_list.2 fun v hv => (h v hv).exact

theorem contents?_ofValues (h : ∀ m ∈ ms, Kept layers m.2) (sofar : List (String × Json)) :
    (Members.ofValues ms).contents? sofar = some (gathered ms sofar) := by
  induction ms generalizing sofar with
  | nil => rfl
  | cons m ms ih =>
    have hcontent := (h m List.mem_cons_self).content
    show (Members.cons (pieces m.1) (Outline.ofValue m.2) (Members.ofValues ms)).contents? sofar = _
    simp only [Members.contents?, wording?_pieces, hcontent]
    exact ih (fun m hm => h m (List.mem_cons_of_mem _ hm)) _

theorem depth_ofValues (h : ∀ m ∈ ms, Kept layers m.2) :
    (Members.ofValues ms).depth ≤ layers := by
  induction ms with
  | nil => exact Nat.zero_le _
  | cons m ms ih =>
    exact Nat.max_le.2 ⟨(h m List.mem_cons_self).depth,
      ih fun w hw => h w (List.mem_cons_of_mem _ hw)⟩

/-- **An object whose members are read back is read back**, its members by key. -/
theorem parse?_members (h : ∀ m ∈ ms, Kept layers m.2) (hlayers : layers < depthLimit) :
    parse? (Json.object ms).toText = some (.object (gathered ms [])) := by
  rw [parse?_toText _ (exact_object.2 fun m hm => (h m hm).exact)]
  have hdepth : (Outline.ofValue (.object ms)).depth ≤ depthLimit :=
    Nat.succ_le_of_lt (Nat.lt_of_le_of_lt (depth_ofValues h) hlayers)
  unfold Outline.value?
  rw [if_pos hdepth]
  show ((Members.ofValues ms).contents? []).map Json.object = _
  rw [contents?_ofValues h]
  rfl

/-- An object whose members have no parts. -/
theorem parse?_object (h : ∀ m ∈ ms, Plain m.2) :
    parse? (Json.object ms).toText = some (.object (gathered ms [])) :=
  parse?_members (fun m hm => (h m hm).kept) (by decide)

end Kept

/-- A key that no member has is not gathered. -/
theorem lookup_contents? {ms : List (String × Json)} {sofar out : List (String × Json)}
    {key : String} (hms : ms.lookup key = none) (hsofar : sofar.lookup key = none)
    (h : (Members.ofValues ms).contents? sofar = some out) : out.lookup key = none := by
  induction ms generalizing sofar with
  | nil =>
    obtain rfl := Option.some.inj h
    exact hsofar
  | cons m ms ih =>
    obtain ⟨k, v⟩ := m
    have hne : (key == k) = false := by
      cases hk : key == k with
      | false => rfl
      | true =>
        rw [List.lookup_cons, hk] at hms
        cases hms
    rw [List.lookup_cons, hne] at hms
    have hstep : (Members.cons (pieces k) (Outline.ofValue v) (Members.ofValues ms)).contents? sofar =
        some out := h
    simp only [Members.contents?, wording?_pieces] at hstep
    cases hv : (Outline.ofValue v).content? with
    | none => simp [hv] at hstep
    | some w =>
      simp only [hv] at hstep
      refine ih hms ?_ hstep
      rw [lookup_insertEntry, if_neg (by simpa using hne), hsofar]

/-- **A key that the value does not have is not found in its text.** -/
theorem get?_parse? {v w : Json} {key : String} (hexact : v.Exact) (hv : v.get? key = none)
    (h : parse? v.toText = some w) : w.get? key = none := by
  rw [parse?_toText v hexact] at h
  unfold Outline.value? at h
  split at h
  · cases v with
    | null => cases h; rfl
    | bool b => cases h; rfl
    | number n => cases h; rfl
    | text s =>
      obtain ⟨s', -, rfl⟩ := Option.map_eq_some_iff.1 h
      rfl
    | list items =>
      obtain ⟨vs, -, rfl⟩ := Option.map_eq_some_iff.1 h
      rfl
    | object ms =>
      obtain ⟨out, hout, rfl⟩ := Option.map_eq_some_iff.1 h
      exact lookup_contents? hv rfl hout
  · cases h

end CardLink.Json
