import CardLink.Json.Record
import CardLink.Proofs.Json.RoundTrip

/-!
# Decoders that read what is written

A decoder reads a way of writing if it gets every value back from its outline. That is shown for
values of the simple kinds, for lists and absent values, and for the members of a record; the
decoders of whole bodies follow from these.

* `Decoder.Reads`: the decoder reads what is written so.
* `Reads.optional`, `Reads.list`: absent values and lists.
* `entries_ofValues`, `required_ofValues`, `optional_ofValues`, `withDefault_ofValues`: records.
* **`Reads.ofText`**: the text of a value is decoded to the value.
-/

namespace CardLink.Json

/-! ## 1. Values -/

/-- **The decoder reads what is written so**, from a text and from a value. -/
def Decoder.Reads {α : Type} (d : Decoder α) (f : α → Json) : Prop :=
  ∀ src a, d src (Outline.ofValue (f a)) = .ok a

section Reads

variable {α : Type} {d : Decoder α} {f : α → Json}

/-- **The text of a value is decoded to the value.** -/
theorem Decoder.Reads.ofText (h : d.Reads f) (a : α) (ha : (f a).Exact) :
    d.ofText (f a).toText = .ok a := by
  unfold Decoder.ofText
  rw [ofText_toText _ ha]
  simp only [h .text a, if_true]

theorem reads_text : Decoder.text.Reads .text := by
  intro src s
  show Decoder.text src (.text (pieces s)) = .ok s
  simp only [Decoder.text, wording?_pieces]

theorem reads_bool : Decoder.bool.Reads .bool := fun _ _ => rfl

theorem reads_bytes : Decoder.bytes.Reads bytes := by
  intro src bs
  unfold Decoder.bytes bytes
  rw [reads_text]
  simp [Text.Hex.decode_encode]

theorem reads_u16 : Decoder.u16.Reads fun c => .nat c.toNat := by
  intro src c
  have hbound : c.toNat < Number.word16 := c.toNat_lt
  have hnat : Decoder.natBelow Number.word16 .u16 src (Outline.ofValue (.nat c.toNat)) =
      .ok c.toNat := by
    show (if 0 ≤ (c.toNat : Int) ∧ (c.toNat : Int).toNat < Number.word16 then
      Except.ok (c.toNat : Int).toNat else _) = _
    rw [if_pos ⟨Int.natCast_nonneg _, by simpa using hbound⟩]
    simp
  unfold Decoder.u16
  rw [hnat]
  simp [Except.map]

theorem object_ne_null {ms : List (String × Json)} : Json.object ms ≠ .null := fun h => by cases h

theorem text_ne_null (s : String) : Json.text s ≠ .null := fun h => by cases h

/-- Only `null` has the outline of `null`. -/
theorem ofValue_ne_null {v : Json} (h : v ≠ .null) : Outline.ofValue v ≠ .null := by
  cases v with
  | null => exact absurd rfl h
  | bool b => exact fun heq => by cases heq
  | number n => exact fun heq => by cases heq
  | text s => exact fun heq => by cases heq
  | list items => exact fun heq => by cases heq
  | object members => exact fun heq => by cases heq

theorem optional_of_ne_null {o : Outline} (h : o ≠ .null) (src : Source) :
    d.optional src o = (d src o).map some := by
  unfold Decoder.optional
  split
  · exact absurd rfl h
  · cases d src o <;> rfl

/-- An absent value is written as `null`, which no other value is. -/
theorem Decoder.Reads.optional (h : d.Reads f) (hnull : ∀ a, f a ≠ .null) :
    d.optional.Reads (ofOption f) := by
  intro src a
  cases a with
  | none => rfl
  | some a =>
    show d.optional src (Outline.ofValue (f a)) = _
    rw [optional_of_ne_null (ofValue_ne_null (hnull a)), h]
    rfl

theorem items_ofValues (src : Source) (h : d.Reads f) (as : List α) :
    Decoder.items (d src) (Items.ofValues (as.map f)) = .ok as := by
  induction as with
  | nil => rfl
  | cons a as ih =>
    show Decoder.items (d src) (.cons (Outline.ofValue (f a)) (Items.ofValues (as.map f))) = _
    simp only [Decoder.items, h src a, ih]

theorem Decoder.Reads.list (h : d.Reads f) : d.list.Reads fun as => .list (as.map f) :=
  fun src as => items_ofValues src h as

end Reads

/-! ## 2. Records -/

section Records

variable {α : Type} {d : Decoder α} {src : Source} {ms : List (String × Json)} {name : String}
  {v : Json} {a : α}

theorem check_needed (h : d src (Outline.ofValue v) = .ok a) :
    (Field.needed name d).check src (Outline.ofValue v) = .ok () := by
  show (d src _).map _ = _
  rw [h]
  rfl

theorem check_free (h : d src (Outline.ofValue v) = .ok a) :
    (Field.free name d).check src (Outline.ofValue v) = .ok () := by
  show (d src _).map _ = _
  rw [h]
  rfl

/-- The members are fields of the record, and their values are in order. -/
def Fits (src : Source) (fields : List Field) (ms : List (String × Json)) : Prop :=
  ∀ m ∈ ms, ∃ field, fields.find? (·.name == m.1) = some field ∧
    field.check src (Outline.ofValue m.2) = .ok ()

theorem fits_nil {fields : List Field} : Fits src fields [] := fun _ hm => absurd hm List.not_mem_nil

theorem Fits.cons {fields : List Field} {field : Field}
    (hfield : fields.find? (·.name == name) = some field)
    (hcheck : field.check src (Outline.ofValue v) = .ok ()) (h : Fits src fields ms) :
    Fits src fields ((name, v) :: ms) := by
  intro m hm
  rcases List.mem_cons.1 hm with rfl | hm
  · exact ⟨field, hfield, hcheck⟩
  · exact h m hm

theorem Fits.append {fields : List Field} {ms' : List (String × Json)} (h : Fits src fields ms)
    (h' : Fits src fields ms') : Fits src fields (ms ++ ms') := by
  intro m hm
  rcases List.mem_append.1 hm with hm | hm
  · exact h m hm
  · exact h' m hm

/-- A member that may be left out. -/
theorem fits_member? {f : α → Json} {fields : List Field}
    (hfield : fields.find? (·.name == name) = some (Field.free name d.optional)) (hd : d.Reads f)
    (hnull : ∀ a, f a ≠ .null) (a : Option α) : Fits src fields (member? name f a) := by
  cases a with
  | none => exact fits_nil
  | some a => exact .cons hfield (check_free (hd.optional hnull src (some a))) fits_nil

@[simp] theorem lookup_member? {f : α → Json} (name' : String) (a : Option α) :
    (member? name f a).lookup name' = if name' = name then a.map f else none := by
  cases a with
  | none => simp [member?]
  | some a =>
    by_cases h : name' = name
    · simp [member?, h]
    · simp [member?, h, List.lookup_cons, beq_false_of_ne h]

/-- The outlines of the members. -/
def outlines (ms : List (String × Json)) : Entries := ms.map fun m => (m.1, Outline.ofValue m.2)

theorem lookup_outlines : (outlines ms).lookup name = (ms.lookup name).map Outline.ofValue := by
  induction ms with
  | nil => rfl
  | cons m ms ih =>
    obtain ⟨k, v⟩ := m
    show ((k, Outline.ofValue v) :: outlines ms).lookup name = _
    rw [List.lookup_cons, List.lookup_cons, ih]
    cases name == k with
    | true => rfl
    | false => rfl

theorem ofMembers_ofValues {fields : List Field} (h : Fits src fields ms) (sofar : Entries)
    (hnew : ∀ m ∈ ms, sofar.lookup m.1 = none) (hdistinct : (ms.map (·.1)).Nodup) :
    Record.ofMembers src fields sofar (Members.ofValues ms) = .ok (sofar ++ outlines ms) := by
  induction ms generalizing sofar with
  | nil => exact congrArg Except.ok (List.append_nil sofar).symm
  | cons m ms ih =>
    obtain ⟨k, v⟩ := m
    obtain ⟨hk, hrest⟩ := List.nodup_cons.1 hdistinct
    obtain ⟨field, hfield, hcheck⟩ := h (k, v) List.mem_cons_self
    have hfresh : sofar.lookup k = none := hnew (k, v) List.mem_cons_self
    have hnext : ∀ m ∈ ms, (sofar ++ [(k, Outline.ofValue v)]).lookup m.1 = none := fun m hm => by
      have hne : (m.1 == k) = false := by
        refine beq_false_of_ne fun heq => hk (List.mem_map.2 ⟨m, hm, heq⟩)
      rw [List.lookup_append, hnew m (List.mem_cons_of_mem _ hm), List.lookup_cons, hne]
      rfl
    have hrec := ih (fun m hm => h m (List.mem_cons_of_mem _ hm)) _ hnext hrest
    show Record.ofMembers src fields sofar
      (.cons (pieces k) (Outline.ofValue v) (Members.ofValues ms)) = _
    simp only [Record.ofMembers, wording?_pieces, hfield, hfresh, hcheck, hrec]
    simp [outlines]

/-- **The fields given for a record that was written as an object.** -/
theorem entries_ofValues {fields : List Field} (record : String) (h : Fits src fields ms)
    (hdistinct : (ms.map (·.1)).Nodup) :
    Record.entries record fields src (Outline.ofValue (.object ms)) = .ok (outlines ms) :=
  ofMembers_ofValues h [] (fun _ _ => rfl) hdistinct

/-- A record is taken from the outlines of its members. -/
theorem bind_entries {β : Type} {fields : List Field} {record : String}
    {k : Entries → Except Fault β} (h : Fits src fields ms) (hdistinct : (ms.map (·.1)).Nodup) :
    (Record.entries record fields src (Outline.ofValue (.object ms)) >>= k) = k (outlines ms) := by
  rw [entries_ofValues record h hdistinct]
  rfl

theorem required_ofValues (hv : ms.lookup name = some v) (h : d src (Outline.ofValue v) = .ok a) :
    (outlines ms).required src name d = .ok a := by
  unfold Entries.required
  rw [lookup_outlines, hv]
  exact h

theorem withDefault_ofValues {default : α} (hv : ms.lookup name = some v)
    (h : d src (Outline.ofValue v) = .ok a) :
    (outlines ms).withDefault src name default d = .ok a := by
  unfold Entries.withDefault
  rw [lookup_outlines, hv]
  exact h

theorem withDefault_missing {default : α} (hv : ms.lookup name = none) :
    (outlines ms).withDefault src name default d = .ok default := by
  unfold Entries.withDefault
  rw [lookup_outlines, hv]
  rfl

/-- A member that is left out when its value is absent. -/
theorem optional_ofValues {f : α → Json} (hd : d.Reads f) (hnull : ∀ a, f a ≠ .null) {a : Option α}
    (hv : ms.lookup name = a.map f) : (outlines ms).optional src name d = .ok a := by
  unfold Entries.optional
  rw [lookup_outlines, hv]
  cases a with
  | none => rfl
  | some a => exact hd.optional hnull src (some a)

end Records

end CardLink.Json
