/-!
# Tables by name

A table maps names to values and lists its entries in the order of the names, each name once. What a
table holds is seen through `get?`; `get?_insert` and `get?_erase` say what the two changes do, and
`Table.ext_get?` that a table is no more than what it holds.
-/

namespace CardLink

/-! ## 1. Sorted lists of entries -/

/-- Puts an entry in its place by name, taking the place of one with the same name. -/
def insertEntry {α : Type} (name : String) (value : α) : List (String × α) → List (String × α)
  | [] => [(name, value)]
  | (k, v) :: rest =>
    if name < k then (name, value) :: (k, v) :: rest
    else if name = k then (name, value) :: rest
    else (k, v) :: insertEntry name value rest

/-- Entries in the strict order of their names. -/
abbrev SortedEntries {α : Type} (es : List (String × α)) : Prop :=
  es.Pairwise fun a b => a.1 < b.1

theorem lookup_insertEntry {α : Type} (name name' : String) (value : α)
    (es : List (String × α)) :
    (insertEntry name value es).lookup name' =
      if name' = name then some value else es.lookup name' := by
  induction es with
  | nil =>
    by_cases h : name' = name
    · simp [insertEntry, h]
    · simp [insertEntry, h]
  | cons e es ih =>
    obtain ⟨k, v⟩ := e
    simp only [insertEntry]
    split
    · by_cases h : name' = name
      · simp [h]
      · simp [List.lookup_cons, h, beq_false_of_ne h]
    · split
      · rename_i _ hk
        subst hk
        by_cases h : name' = name
        · simp [h]
        · simp [List.lookup_cons, h, beq_false_of_ne h]
      · rename_i _ hk
        by_cases h : name' = k
        · subst h
          simp [Ne.symm hk]
        · simp [List.lookup_cons, ih, beq_false_of_ne h]

theorem mem_insertEntry {α : Type} {name : String} {value : α} {es : List (String × α)}
    {e : String × α} (h : e ∈ insertEntry name value es) : e = (name, value) ∨ e ∈ es := by
  induction es with
  | nil => simpa [insertEntry] using h
  | cons a es ih =>
    simp only [insertEntry] at h
    split at h
    · simpa using h
    · split at h
      · rcases List.mem_cons.1 h with h | h
        · exact .inl h
        · exact .inr (List.mem_cons_of_mem _ h)
      · rcases List.mem_cons.1 h with h | h
        · exact .inr (by simp [h])
        · rcases ih h with h | h
          · exact .inl h
          · exact .inr (List.mem_cons_of_mem _ h)

theorem sortedEntries_insertEntry {α : Type} {es : List (String × α)} (name : String) (value : α)
    (h : SortedEntries es) : SortedEntries (insertEntry name value es) := by
  induction es with
  | nil => exact List.pairwise_singleton ..
  | cons a es ih =>
    obtain ⟨ha, hes⟩ := List.pairwise_cons.1 h
    simp only [insertEntry]
    split
    · rename_i hlt
      refine List.pairwise_cons.2 ⟨fun b hb => ?_, h⟩
      rcases List.mem_cons.1 hb with rfl | hb
      · exact hlt
      · exact String.lt_trans hlt (ha b hb)
    · split
      · rename_i heq
        exact List.pairwise_cons.2 ⟨fun b hb => by rw [heq]; exact ha b hb, hes⟩
      · rename_i hlt hne
        refine List.pairwise_cons.2 ⟨fun b hb => ?_, ih hes⟩
        rcases mem_insertEntry hb with rfl | hb
        · exact Std.lt_of_le_of_ne (Std.not_lt.1 hlt) (Ne.symm hne)
        · exact ha b hb

/-! ## 2. Tables -/

/-- A map from names to values. -/
structure Table (α : Type) where
  entries : List (String × α)
  sorted : SortedEntries entries := by decide

namespace Table

variable {α : Type}

def empty : Table α := ⟨[], List.Pairwise.nil⟩

instance : Inhabited (Table α) := ⟨empty⟩

instance [DecidableEq α] : DecidableEq (Table α) := fun s t =>
  decidable_of_iff (s.entries = t.entries) ⟨fun h => by cases s; cases t; simp_all, fun h => by rw [h]⟩

def get? (t : Table α) (name : String) : Option α := t.entries.lookup name

def contains (t : Table α) (name : String) : Bool := (t.get? name).isSome

def insert (t : Table α) (name : String) (value : α) : Table α :=
  ⟨insertEntry name value t.entries, sortedEntries_insertEntry name value t.sorted⟩

def erase (t : Table α) (name : String) : Table α :=
  ⟨t.entries.filter (·.1 != name), t.sorted.filter _⟩

/-- Later entries of one name win. -/
def ofList (es : List (String × α)) : Table α := es.foldl (fun t e => t.insert e.1 e.2) empty

def names (t : Table α) : List String := t.entries.map (·.1)

def values (t : Table α) : List α := t.entries.map (·.2)

def size (t : Table α) : Nat := t.entries.length

@[simp] theorem get?_empty (name : String) : (empty : Table α).get? name = none := rfl

theorem get?_insert (t : Table α) (name name' : String) (value : α) :
    (t.insert name value).get? name' = if name' = name then some value else t.get? name' :=
  lookup_insertEntry ..

theorem length_insertEntry {name : String} {es : List (String × α)} (value : α)
    (h : es.lookup name = none) : (insertEntry name value es).length = es.length + 1 := by
  induction es with
  | nil => rfl
  | cons e es ih =>
    obtain ⟨k, v⟩ := e
    have hne : name ≠ k := by
      rintro rfl
      simp at h
    have hrest : es.lookup name = none := by
      rw [List.lookup_cons, beq_false_of_ne hne] at h
      exact h
    rw [insertEntry, if_neg hne]
    split
    · rfl
    · rw [List.length_cons, List.length_cons, ih hrest]

/-- A new name is one more. -/
theorem size_insert {t : Table α} {name : String} (value : α) (h : t.get? name = none) :
    (t.insert name value).size = t.size + 1 :=
  length_insertEntry value h

theorem lookup_eq_none_of_lt {name : String} {es : List (String × α)}
    (h : ∀ e ∈ es, name < e.1) : es.lookup name = none := by
  rw [List.lookup_eq_none_iff]
  intro e he
  have hne : name ≠ e.1 := fun hk => absurd (h e he) (by rw [hk]; exact String.lt_irrefl _)
  simpa using hne

theorem lookup_cons_eq_none_of_lt {name k : String} {v : α} {es : List (String × α)}
    (hk : name < k) (hes : ∀ e ∈ es, k < e.1) : ((k, v) :: es).lookup name = none :=
  lookup_eq_none_of_lt fun e he => by
    rcases List.mem_cons.1 he with rfl | he
    · exact hk
    · exact String.lt_trans hk (hes e he)

theorem eq_of_lookup_eq {es fs : List (String × α)} (hes : SortedEntries es)
    (hfs : SortedEntries fs) (h : ∀ name, es.lookup name = fs.lookup name) : es = fs := by
  induction es generalizing fs with
  | nil =>
    cases fs with
    | nil => rfl
    | cons f fs =>
      obtain ⟨k, v⟩ := f
      have hf := h k
      simp at hf
  | cons e es ih =>
    obtain ⟨k, v⟩ := e
    obtain ⟨hk, hes'⟩ := List.pairwise_cons.1 hes
    cases fs with
    | nil =>
      have he := h k
      simp at he
    | cons f fs =>
      obtain ⟨k', w⟩ := f
      obtain ⟨hk', hfs'⟩ := List.pairwise_cons.1 hfs
      have hname : k = k' := by
        refine Std.le_antisymm (Std.not_lt.1 fun hlt => ?_) (Std.not_lt.1 fun hlt => ?_)
        · have hsome := h k'
          rw [lookup_cons_eq_none_of_lt hlt hk] at hsome
          simp at hsome
        · have hsome := h k
          rw [lookup_cons_eq_none_of_lt hlt hk'] at hsome
          simp at hsome
      subst hname
      have hvalue : v = w := by
        have hsome := h k
        simpa using hsome
      have hrest : es = fs := ih hes' hfs' fun name => by
        by_cases hne : name = k
        · subst hne
          rw [lookup_eq_none_of_lt hk, lookup_eq_none_of_lt hk']
        · have hnext := h name
          simpa [List.lookup_cons, beq_false_of_ne hne] using hnext
      rw [hrest, hvalue]

/-- A table is no more than what it holds. -/
theorem ext_get? {s t : Table α} (h : ∀ name, s.get? name = t.get? name) : s = t := by
  obtain ⟨es, hes⟩ := s
  obtain ⟨fs, hfs⟩ := t
  have heq : es = fs := eq_of_lookup_eq hes hfs h
  subst heq
  rfl

theorem lookup_filter_ne (es : List (String × α)) (name name' : String) :
    (es.filter (·.1 != name)).lookup name' = if name' = name then none else es.lookup name' := by
  induction es with
  | nil => simp
  | cons e es ih =>
    obtain ⟨k, v⟩ := e
    by_cases hk : k = name
    · subst hk
      by_cases h : name' = k
      · subst h; simpa using ih
      · simp [ih, List.lookup_cons, h, beq_false_of_ne h]
    · by_cases h : name' = k
      · subst h; simp [hk]
      · simp [hk, ih, List.lookup_cons, beq_false_of_ne h]

theorem get?_erase (t : Table α) (name name' : String) :
    (t.erase name).get? name' = if name' = name then none else t.get? name' :=
  lookup_filter_ne ..

/-! ## 3. Entries and values -/

/-- An entry is what a look-up under its name finds. -/
theorem mem_entries_iff {t : Table α} {name : String} {value : α} :
    (name, value) ∈ t.entries ↔ t.get? name = some value := by
  constructor
  · intro h
    obtain ⟨before, after, heq⟩ := List.append_of_mem h
    refine List.lookup_eq_some_iff.2 ⟨before, after, heq, fun e he => ?_⟩
    have hsorted : SortedEntries (before ++ (name, value) :: after) := heq ▸ t.sorted
    have hlt : e.1 < name := (List.pairwise_append.1 hsorted).2.2 e he _ List.mem_cons_self
    have hne : name ≠ e.1 := fun hname => String.lt_irrefl _ (hname ▸ hlt)
    simpa using hne
  · intro h
    obtain ⟨before, after, heq, -⟩ := List.lookup_eq_some_iff.1 h
    rw [heq]
    exact List.mem_append_right _ List.mem_cons_self

theorem mem_values_iff {t : Table α} {value : α} :
    value ∈ t.values ↔ ∃ name, t.get? name = some value := by
  constructor
  · intro h
    obtain ⟨⟨name, _⟩, hmem, rfl⟩ := List.mem_map.1 h
    exact ⟨name, mem_entries_iff.1 hmem⟩
  · intro hsome
    obtain ⟨name, h⟩ := hsome
    exact List.mem_map.2 ⟨_, mem_entries_iff.2 h, rfl⟩

/-- The first value that passes a test has the least name of all that pass it. -/
theorem find?_values {t : Table α} {test : α → Bool} {value : α}
    (h : t.values.find? test = some value) :
    ∃ name, t.get? name = some value ∧
      ∀ name' value', t.get? name' = some value' → test value' = true → name ≤ name' := by
  obtain ⟨-, before, after, heq, hbefore⟩ := List.find?_eq_some_iff_append.1 h
  obtain ⟨es, fs, hentries, rfl, hfs⟩ := List.map_eq_append_iff.1 heq
  obtain ⟨⟨name, _⟩, rest, rfl, rfl, -⟩ := List.map_eq_cons_iff.1 hfs
  have hsorted : SortedEntries (es ++ (name, _) :: rest) := hentries ▸ t.sorted
  refine ⟨name, mem_entries_iff.1 (hentries ▸ List.mem_append_right _ List.mem_cons_self),
    fun name' value' hget htest => ?_⟩
  have hmem : (name', value') ∈ es ++ (name, _) :: rest := hentries ▸ mem_entries_iff.2 hget
  rcases List.mem_append.1 hmem with hmem | hmem
  · have hfails := hbefore value' (List.mem_map_of_mem (f := Prod.snd) hmem)
    rw [htest] at hfails
    cases hfails
  · rcases List.mem_cons.1 hmem with heq | hmem
    · obtain rfl := congrArg Prod.fst heq
      exact Std.le_refl _
    · have hlt := (List.pairwise_cons.1 (List.pairwise_append.1 hsorted).2.1).1 _ hmem
      exact Std.not_lt.1 (String.lt_asymm hlt)

end Table

end CardLink
