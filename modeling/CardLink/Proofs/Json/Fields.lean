import CardLink.Proofs.Json.Gather

/-!
# Records that are read from values

A record is read from the members of an object that are fields of it. All others are passed over,
since there is no fault of syntax in a value. So reading does not depend on them, and it goes well
exactly if each field that is given has a value of its type and each field that is needed is given.

* `Decoder.Exactly`: the decoder accepts these values of all, and no others.
* `ofMembers_known`: members that are no fields are passed over.
* **`entries_eq_ok_iff`**: which fields are given, and when they are in order.
* `required_eq_ok_iff`, `withDefault_eq_ok_iff`, `optional_eq_ok_iff`: one field.
* **`entries_congr`**: objects with the same fields make the same record.
-/

namespace CardLink.Json

/-! ## 1. Values of one type -/

/-- **The decoder accepts what is written so**, and nothing else. -/
def Decoder.Exactly {α : Type} (d : Decoder α) (f : α → Json) : Prop :=
  ∀ src v a, d src (Outline.ofValue v) = .ok a ↔ v = f a

section Exactly

variable {α : Type} {d : Decoder α} {f : α → Json}

theorem Decoder.Exactly.reads (h : d.Exactly f) : d.Reads f := fun src a => (h src (f a) a).2 rfl

theorem Decoder.Exactly.injective (h : d.Exactly f) {a b : α} (hab : f a = f b) : a = b := by
  have ha := h.reads .value a
  rw [hab, h.reads .value b] at ha
  exact (Except.ok.inj ha).symm

theorem exactly_text : Decoder.text.Exactly .text := by
  intro src v s
  refine ⟨fun h => ?_, fun h => h ▸ reads_text src s⟩
  cases v with
  | text s' =>
    rw [reads_text src s'] at h
    rw [Except.ok.inj h]
  | _ => cases h

theorem exactly_bool : Decoder.bool.Exactly .bool := by
  intro src v b
  refine ⟨fun h => ?_, fun h => h ▸ reads_bool src b⟩
  cases v with
  | bool b' => rw [Except.ok.inj h]
  | text s => simp [Outline.ofValue, Decoder.bool, Outline.mismatch, Outline.found] at h
  | _ => cases h

theorem Decoder.Exactly.optional (h : d.Exactly f) (hnull : ∀ a, f a ≠ .null) :
    d.optional.Exactly (ofOption f) := by
  intro src v a
  refine ⟨fun hok => ?_, fun hv => hv ▸ h.reads.optional hnull src a⟩
  by_cases hv : v = .null
  · subst hv
    cases hok
    rfl
  · rw [optional_of_ne_null (ofValue_ne_null hv)] at hok
    cases hread : d src (Outline.ofValue v) with
    | error fault => rw [hread] at hok; cases hok
    | ok b =>
      rw [hread] at hok
      cases hok
      exact (h src v b).1 hread

end Exactly

/-! ## 2. Values have no faults of syntax -/

mutual

theorem isBroken_ofValue : ∀ v : Json, (Outline.ofValue v).isBroken = false
  | .null => rfl
  | .bool _ => rfl
  | .number _ => rfl
  | .text _ => rfl
  | .list items => isBroken_ofItems items
  | .object members => isBroken_ofMembers members

theorem isBroken_ofItems : ∀ vs : List Json, (Items.ofValues vs).isBroken = false
  | [] => rfl
  | v :: vs => by
    show ((Outline.ofValue v).isBroken || (Items.ofValues vs).isBroken) = false
    rw [isBroken_ofValue v, isBroken_ofItems vs]
    rfl

theorem isBroken_ofMembers : ∀ ms : List (String × Json), (Members.ofValues ms).isBroken = false
  | [] => rfl
  | (_, v) :: ms => by
    show ((Outline.ofValue v).isBroken || (Members.ofValues ms).isBroken) = false
    rw [isBroken_ofValue v, isBroken_ofMembers ms]
    rfl

end

/-! ## 3. The fields among the members -/

/-- The member is a field of the record. -/
def isField (fields : List Field) (m : String × Json) : Bool :=
  (fields.find? (·.name == m.1)).isSome

/-- The members that are fields of the record. -/
def known (fields : List Field) (ms : List (String × Json)) : List (String × Json) :=
  ms.filter (isField fields)

section Known

variable {src : Source} {fields : List Field} {ms ns : List (String × Json)} {name record : String}
  {sofar es : Entries}

theorem isField_iff {m : String × Json} : isField fields m = true ↔ m.1 ∈ fields.map (·.name) := by
  rw [isField, List.find?_isSome, List.mem_map]
  constructor
  · rintro ⟨field, hfield, heq⟩
    exact ⟨field, hfield, by simpa using heq⟩
  · rintro ⟨field, hfield, heq⟩
    exact ⟨field, hfield, by simpa using heq⟩

/-- **Members that are no fields are passed over.** -/
theorem ofMembers_known (sofar : Entries) :
    Record.ofMembers src fields sofar (Members.ofValues ms) =
      Record.ofMembers src fields sofar (Members.ofValues (known fields ms)) := by
  induction ms generalizing sofar with
  | nil => rfl
  | cons m ms ih =>
    obtain ⟨k, v⟩ := m
    show Record.ofMembers src fields sofar
      (.cons (pieces k) (Outline.ofValue v) (Members.ofValues ms)) = _
    cases hfind : fields.find? (·.name == k) with
    | none =>
      have hother : ¬ isField fields (k, v) = true := by simp [isField, hfind]
      rw [known, List.filter_cons_of_neg hother]
      simp only [Record.ofMembers, wording?_pieces, hfind, isBroken_ofValue, Bool.false_eq_true,
        if_false]
      exact ih sofar
    | some field =>
      have hfield : isField fields (k, v) = true := by simp [isField, hfind]
      rw [known, List.filter_cons_of_pos hfield]
      show _ = Record.ofMembers src fields sofar
        (.cons (pieces k) (Outline.ofValue v) (Members.ofValues (known fields ms)))
      simp only [Record.ofMembers, wording?_pieces, hfind, ih]

/-- If reading goes well, all fields are in order. -/
theorem fits_of_ofMembers
    (h : Record.ofMembers src fields sofar (Members.ofValues ms) = .ok es) :
    Fits src fields (known fields ms) := by
  rw [ofMembers_known] at h
  have hall : ∀ m ∈ known fields ms, isField fields m = true := fun m hm =>
    (List.mem_filter.1 hm).2
  generalize known fields ms = ks at h hall
  induction ks generalizing sofar with
  | nil => exact fits_nil
  | cons m ks ih =>
    obtain ⟨k, v⟩ := m
    obtain ⟨field, hfind⟩ := Option.isSome_iff_exists.1 (hall (k, v) List.mem_cons_self)
    change Record.ofMembers src fields sofar
      (.cons (pieces k) (Outline.ofValue v) (Members.ofValues ks)) = _ at h
    simp only [Record.ofMembers, wording?_pieces, hfind] at h
    split at h
    · cases h
    · cases hcheck : field.check src (Outline.ofValue v) with
      | error fault => rw [hcheck] at h; cases h
      | ok u =>
        rw [hcheck] at h
        exact .cons hfind hcheck (ih h fun m hm => hall m (List.mem_cons_of_mem _ hm))

theorem nodup_known (hdistinct : (ms.map (·.1)).Nodup) : ((known fields ms).map (·.1)).Nodup :=
  hdistinct.sublist (List.filter_sublist.map _)

/-- **The fields that are given, if they are all in order.** -/
theorem entries_eq_ok_iff (hdistinct : (ms.map (·.1)).Nodup) :
    Record.entries record fields src (Outline.ofValue (.object ms)) = .ok es ↔
      Fits src fields (known fields ms) ∧ es = outlines (known fields ms) := by
  show Record.ofMembers src fields [] (Members.ofValues ms) = .ok es ↔ _
  constructor
  · intro h
    have hfits := fits_of_ofMembers h
    rw [ofMembers_known, ofMembers_ofValues hfits [] (fun _ _ => rfl) (nodup_known hdistinct)] at h
    exact ⟨hfits, (Except.ok.inj h).symm⟩
  · rintro ⟨hfits, rfl⟩
    rw [ofMembers_known]
    exact ofMembers_ofValues hfits [] (fun _ _ => rfl) (nodup_known hdistinct)

theorem lookup_known (hname : name ∈ fields.map (·.name)) :
    (known fields ms).lookup name = ms.lookup name := by
  induction ms with
  | nil => rfl
  | cons m ms ih =>
    obtain ⟨k, v⟩ := m
    by_cases hk : isField fields (k, v) = true
    · rw [known, List.filter_cons_of_pos hk, List.lookup_cons, List.lookup_cons, ← ih]
      rfl
    · have hne : name ≠ k := fun heq => hk (isField_iff.2 (heq ▸ hname))
      rw [known, List.filter_cons_of_neg hk, List.lookup_cons, beq_false_of_ne hne]
      exact ih

theorem lookup_known_of_other (hname : name ∉ fields.map (·.name)) :
    (known fields ms).lookup name = none := by
  rw [List.lookup_eq_none_iff]
  intro m hm
  have hne : name ≠ m.1 := fun heq => hname (heq ▸ isField_iff.1 (List.mem_filter.1 hm).2)
  simpa using hne

/-- The fields are in order if each one that is found is. -/
theorem fits_of_lookup (hsorted : SortedEntries ms)
    (h : ∀ field ∈ fields, ∀ v, ms.lookup field.name = some v →
      field.check src (Outline.ofValue v) = .ok ()) : Fits src fields (known fields ms) := by
  intro m hm
  obtain ⟨hmem, hknown⟩ := List.mem_filter.1 hm
  obtain ⟨field, hfind⟩ := Option.isSome_iff_exists.1 hknown
  have hname : field.name = m.1 := by simpa using List.find?_some hfind
  have hlookup : ms.lookup field.name = some m.2 := by
    rw [hname]
    exact Table.mem_entries_iff (t := ⟨ms, hsorted⟩) |>.1 hmem
  exact ⟨field, hfind, h field (List.mem_of_find?_eq_some hfind) m.2 hlookup⟩

/-- **Objects with the same fields make the same record.** -/
theorem entries_congr (hms : SortedEntries ms) (hns : SortedEntries ns)
    (h : ∀ name ∈ fields.map (·.name), ms.lookup name = ns.lookup name) :
    Record.entries record fields src (Outline.ofValue (.object ms)) =
      Record.entries record fields src (Outline.ofValue (.object ns)) := by
  have hlookup : ∀ name, (known fields ms).lookup name = (known fields ns).lookup name := by
    intro name
    by_cases hname : name ∈ fields.map (·.name)
    · rw [lookup_known hname, lookup_known hname, h name hname]
    · rw [lookup_known_of_other hname, lookup_known_of_other hname]
  have heq : known fields ms = known fields ns :=
    Table.eq_of_lookup_eq (hms.filter _) (hns.filter _) hlookup
  show Record.ofMembers src fields [] (Members.ofValues ms) =
    Record.ofMembers src fields [] (Members.ofValues ns)
  rw [ofMembers_known, heq, ← ofMembers_known]

end Known

/-! ## 4. One field -/

section Takes

variable {α : Type} {d : Decoder α} {f : α → Json} {src : Source} {ms : List (String × Json)}
  {name : String} {a : α} {v w : Json}

theorem check_of_lookup (h : d.Exactly f) (hv : ms.lookup name = some v)
    (ha : ms.lookup name = some (f a)) :
    (Field.needed name d).check src (Outline.ofValue v) = .ok () := by
  rw [hv] at ha
  exact check_needed ((h src v a).2 (Option.some.inj ha))

theorem check_of_getD (h : d.Exactly f) (hv : ms.lookup name = some v)
    (ha : (ms.lookup name).getD w = f a) :
    (Field.free name d).check src (Outline.ofValue v) = .ok () := by
  rw [hv] at ha
  exact check_free ((h src v a).2 ha)

theorem required_eq_ok_iff (h : d.Exactly f) :
    (outlines ms).required src name d = .ok a ↔ ms.lookup name = some (f a) := by
  unfold Entries.required
  rw [lookup_outlines]
  cases ms.lookup name with
  | none => exact ⟨fun heq => (nomatch heq), fun heq => (nomatch heq)⟩
  | some v => exact (h src v a).trans Option.some_inj.symm

/-- A field that is missing has its default. -/
theorem withDefault_eq_ok_iff (h : d.Exactly f) {default : α} :
    (outlines ms).withDefault src name default d = .ok a ↔
      (ms.lookup name).getD (f default) = f a := by
  unfold Entries.withDefault
  rw [lookup_outlines]
  cases ms.lookup name with
  | none => exact ⟨fun heq => congrArg f (Except.ok.inj heq), fun heq => congrArg _ (h.injective heq)⟩
  | some v => exact h src v a

/-- A field that is missing is as good as `null`. -/
theorem optional_eq_ok_iff (h : d.Exactly f) (hnull : ∀ a, f a ≠ .null) {a : Option α} :
    (outlines ms).optional src name d = .ok a ↔
      (ms.lookup name).getD .null = ofOption f a := by
  unfold Entries.optional
  rw [lookup_outlines]
  cases ms.lookup name with
  | none =>
    cases a with
    | none => exact ⟨fun _ => rfl, fun _ => rfl⟩
    | some a => exact ⟨fun heq => (nomatch heq), fun heq => absurd heq.symm (hnull a)⟩
  | some v => exact h.optional hnull src v a

end Takes

end CardLink.Json
