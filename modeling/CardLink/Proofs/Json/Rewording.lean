import CardLink.Proofs.Json.Gather

/-!
# Other ways to write a value

A value may be written with other escapes in its strings and with the members of its objects in
another order, as long as members with one key stay in theirs. An object may be given members that a
reader of certain names does not look for.

* `Members.last?`, `lookup_contents?_eq`: of the members with one key the last one counts.
* `Alike`: other escapes and another order, at any depth; `Alike.value?`: the value is the same.
* `Extended`: further members; `Extended.last?`: those with the given names are the same.
* `Reworded`: both; **`Reworded.agree`**: what is found under the given names is the same.

White space is no part of an outline, so texts that differ in nothing else spell the same one.
-/

namespace CardLink.Json

/-! ## 1. The last member with a key -/

/-- **The last member with this key.** -/
def Members.last? (name : String) : Members → Option Outline
  | .cons key o rest => (rest.last? name).or (if wording? key = some name then some o else none)
  | _ => none

/-- Induction along the members of one object. -/
@[elab_as_elim]
theorem Members.along {motive : Members → Prop} (closed : motive .closed) (broken : motive .broken)
    (cons : ∀ key o rest, motive rest → motive (.cons key o rest)) : ∀ ms, motive ms
  | .closed => closed
  | .broken => broken
  | .cons key o rest => cons key o rest (along closed broken cons rest)

section Last

variable {key : List Piece} {o : Outline} {rest ms : Members} {sofar es : List (String × Json)}
  {name : String}

/-- The first member of an object that has a value. -/
theorem contents?_cons (h : (Members.cons key o rest).contents? sofar = some es) :
    ∃ k v, wording? key = some k ∧ o.content? = some v ∧
      rest.contents? (insertEntry k v sofar) = some es := by
  rw [Members.contents?] at h
  split at h
  · rename_i k v hk hv
    exact ⟨k, v, hk, hv, h⟩
  · cases h

theorem sortedEntries_contents? (hsofar : SortedEntries sofar) (h : ms.contents? sofar = some es) :
    SortedEntries es := by
  induction ms using Members.along generalizing sofar with
  | closed =>
    cases h
    exact hsofar
  | broken => cases h
  | cons key o rest ih =>
    obtain ⟨k, v, -, -, hrest⟩ := contents?_cons h
    exact ih (sortedEntries_insertEntry k v hsofar) hrest

/-- What is found under a name is the last member with this key, or else what was there before. -/
theorem lookup_contents?_cases (h : ms.contents? sofar = some es) (name : String) :
    (∃ o v, ms.last? name = some o ∧ o.content? = some v ∧ es.lookup name = some v) ∨
      (ms.last? name = none ∧ es.lookup name = sofar.lookup name) := by
  induction ms using Members.along generalizing sofar with
  | closed =>
    cases h
    exact .inr ⟨rfl, rfl⟩
  | broken => cases h
  | cons key o rest ih =>
    obtain ⟨k, v, hk, hv, hrest⟩ := contents?_cons h
    rcases ih hrest with ⟨o', v', hlast, hv', hfound⟩ | ⟨hlast, hfound⟩
    · exact .inl ⟨o', v', by rw [Members.last?, hlast]; rfl, hv', hfound⟩
    · rw [lookup_insertEntry] at hfound
      rw [Members.last?, hlast, hk, Option.none_or]
      by_cases hname : name = k
      · subst hname
        rw [if_pos rfl] at hfound
        exact .inl ⟨o, v, if_pos rfl, hv, hfound⟩
      · rw [if_neg hname] at hfound
        exact .inr ⟨if_neg fun heq => hname (Option.some.inj heq).symm, hfound⟩

/-- **Of the members with one key the last one counts.** -/
theorem lookup_contents?_eq (h : ms.contents? [] = some es) (name : String) :
    es.lookup name = (ms.last? name).bind Outline.content? := by
  rcases lookup_contents?_cases h name with ⟨o, v, hlast, hv, hfound⟩ | ⟨hlast, hfound⟩
  · rw [hfound, hlast, ← hv]
    rfl
  · rw [hfound, hlast]
    rfl

end Last

/-! ## 2. Other escapes and another order -/

mutual

/-- **The same value, written in another way.** -/
inductive Alike : Outline → Outline → Prop where
  | same (o : Outline) : Alike o o
  | text (ps qs : List Piece) (h : wording? ps = wording? qs) : Alike (.text ps) (.text qs)
  | list (is js : Items) (h : AlikeItems is js) : Alike (.list is) (.list js)
  | object (ms ns : Members) (h : AlikeMembers ms ns) : Alike (.map ms) (.map ns)

/-- Item by item. -/
inductive AlikeItems : Items → Items → Prop where
  | same (is : Items) : AlikeItems is is
  | cons (o p : Outline) (is js : Items) (h : Alike o p) (hs : AlikeItems is js) :
      AlikeItems (.cons o is) (.cons p js)

/-- Member by member, and members with different keys may change places. -/
inductive AlikeMembers : Members → Members → Prop where
  | same (ms : Members) : AlikeMembers ms ms
  | cons (key key' : List Piece) (o p : Outline) (ms ns : Members)
      (hkey : wording? key = wording? key') (h : Alike o p) (hs : AlikeMembers ms ns) :
      AlikeMembers (.cons key o ms) (.cons key' p ns)
  | swap (key key' : List Piece) (o p : Outline) (ms : Members)
      (hne : wording? key ≠ wording? key') :
      AlikeMembers (.cons key o (.cons key' p ms)) (.cons key' p (.cons key o ms))
  | trans (ms ns ks : Members) (h : AlikeMembers ms ns) (h' : AlikeMembers ns ks) :
      AlikeMembers ms ks

end

/-- The outlines have the same value and the same depth. -/
def SameValue (o p : Outline) : Prop := o.content? = p.content? ∧ o.depth = p.depth

def SameItems (is js : Items) : Prop := is.contents? = js.contents? ∧ is.depth = js.depth

/-- Whatever members were gathered before. -/
def SameMembers (ms ns : Members) : Prop :=
  (∀ sofar, SortedEntries sofar → ms.contents? sofar = ns.contents? sofar) ∧ ms.depth = ns.depth

section Alike

variable {o p : Outline} {is js : Items} {ms ns : Members} {key key' : List Piece}

/-- Entries with different names can be put in their places in either order. -/
theorem insertEntry_comm {α : Type} {k k' : String} (hne : k ≠ k') (v v' : α)
    {es : List (String × α)} (h : SortedEntries es) :
    insertEntry k v (insertEntry k' v' es) = insertEntry k' v' (insertEntry k v es) := by
  refine Table.eq_of_lookup_eq (sortedEntries_insertEntry _ _ (sortedEntries_insertEntry _ _ h))
    (sortedEntries_insertEntry _ _ (sortedEntries_insertEntry _ _ h)) fun name => ?_
  simp only [lookup_insertEntry]
  by_cases hname : name = k
  · rw [if_pos hname, if_neg fun hname' => hne (hname.symm.trans hname'), if_pos hname]
  · rw [if_neg hname, if_neg hname]

theorem SameItems.list (h : SameItems is js) : SameValue (.list is) (.list js) :=
  ⟨congrArg (Option.map Json.list) h.1, congrArg (· + 1) h.2⟩

theorem SameMembers.object (h : SameMembers ms ns) : SameValue (.map ms) (.map ns) :=
  ⟨congrArg (Option.map Json.object) (h.1 [] List.Pairwise.nil), congrArg (· + 1) h.2⟩

theorem SameValue.item (h : SameValue o p) (hs : SameItems is js) :
    SameItems (.cons o is) (.cons p js) := by
  constructor
  · rw [Items.contents?, Items.contents?, h.1, hs.1]
  · rw [Items.depth, Items.depth, h.2, hs.2]

theorem SameValue.member (h : SameValue o p) (hkey : wording? key = wording? key')
    (hs : SameMembers ms ns) : SameMembers (.cons key o ms) (.cons key' p ns) := by
  constructor
  · intro sofar hsofar
    rw [Members.contents?, Members.contents?, hkey, h.1]
    split
    · exact hs.1 _ (sortedEntries_insertEntry _ _ hsofar)
    · rfl
  · rw [Members.depth, Members.depth, h.2, hs.2]

/-- **Members with different keys may change places.** -/
theorem sameMembers_swap (o p : Outline) (ms : Members) (hne : wording? key ≠ wording? key') :
    SameMembers (.cons key o (.cons key' p ms)) (.cons key' p (.cons key o ms)) := by
  refine ⟨fun sofar hsofar => ?_, Nat.max_left_comm _ _ _⟩
  simp only [Members.contents?]
  cases hk : wording? key with
  | none => cases wording? key' <;> cases p.content? <;> rfl
  | some k =>
    cases hk' : wording? key' with
    | none => cases o.content? <;> rfl
    | some k' =>
      rw [hk, hk'] at hne
      cases o.content? with
      | none => cases p.content? <;> rfl
      | some v =>
        cases p.content? with
        | none => rfl
        | some v' =>
          have hcomm := insertEntry_comm (fun heq => hne (congrArg some heq)) v v' hsofar
          exact congrArg ms.contents? hcomm.symm

/-- **The value is the same.** -/
theorem Alike.sameValue (h : Alike o p) : SameValue o p := by
  -- by the rules for values, items and members together
  refine @Alike.rec (fun o p _ => SameValue o p) (fun is js _ => SameItems is js)
    (fun ms ns _ => SameMembers ms ns) ?same ?text ?list ?object ?sameItems ?item ?sameMembers
    ?member ?swap ?trans o p h
  case same => exact fun _ => ⟨rfl, rfl⟩
  case text => exact fun _ _ hps => ⟨congrArg (Option.map Json.text) hps, rfl⟩
  case list => exact fun _ _ _ ih => ih.list
  case object => exact fun _ _ _ ih => ih.object
  case sameItems => exact fun _ => ⟨rfl, rfl⟩
  case item => exact fun _ _ _ _ _ _ ih ihs => ih.item ihs
  case sameMembers => exact fun _ => ⟨fun _ _ => rfl, rfl⟩
  case member => exact fun _ _ _ _ _ _ hkey _ _ ih ihs => ih.member hkey ihs
  case swap => exact fun _ _ o p ms hne => sameMembers_swap o p ms hne
  case trans =>
    exact fun _ _ _ _ _ ih ih' =>
      ⟨fun sofar hsofar => (ih.1 sofar hsofar).trans (ih'.1 sofar hsofar), ih.2.trans ih'.2⟩

theorem Alike.value? (h : Alike o p) : o.value? = p.value? := by
  obtain ⟨hcontent, hdepth⟩ := h.sameValue
  rw [Outline.value?, Outline.value?, hcontent, hdepth]

end Alike

/-! ## 3. Further members -/

/-- **Further members, with other keys than these names.** -/
inductive Extended (names : List String) : Members → Members → Prop where
  | closed : Extended names .closed .closed
  | keep (key : List Piece) (o : Outline) (ms ns : Members) (h : Extended names ms ns) :
      Extended names (.cons key o ms) (.cons key o ns)
  | add (key : List Piece) (o : Outline) (ms ns : Members)
      (hother : ∀ name ∈ names, wording? key ≠ some name) (h : Extended names ms ns) :
      Extended names ms (.cons key o ns)

/-- **The same under these names**: another way to write the value, and then further members. -/
inductive Reworded (names : List String) (o : Outline) : Outline → Prop where
  | alike (p : Outline) (h : Alike o p) : Reworded names o p
  | extended (ms ns : Members) (h : Alike o (.map ms)) (hs : Extended names ms ns) :
      Reworded names o (.map ns)

/-- **Values that agree under these names**: the same one, or objects with the same members there. -/
inductive Agree (names : List String) (v : Json) : Json → Prop where
  | same : Agree names v v
  | objects (es fs : List (String × Json)) (hv : v = .object es) (hes : SortedEntries es)
      (hfs : SortedEntries fs) (h : ∀ name ∈ names, es.lookup name = fs.lookup name) :
      Agree names v (.object fs)

section Extended

variable {names : List String} {ms ns : Members} {name : String} {o p : Outline} {v w : Json}

theorem Extended.last? (h : Extended names ms ns) (hname : name ∈ names) :
    ns.last? name = ms.last? name := by
  induction h with
  | closed => rfl
  | keep key o ms ns _ ih => rw [Members.last?, Members.last?, ih]
  | add key o ms ns hother _ ih => rw [Members.last?, if_neg (hother name hname), Option.or_none, ih]

theorem content?_of_value? (h : o.value? = some v) : o.content? = some v := by
  rw [Outline.value?] at h
  split at h
  · exact h
  · cases h

/-- The value of an object. -/
theorem value?_map (h : (Outline.map ms).value? = some v) :
    ∃ es, ms.contents? [] = some es ∧ v = .object es ∧ SortedEntries es := by
  obtain ⟨es, hes, rfl⟩ := Option.map_eq_some_iff.1 (content?_of_value? h)
  exact ⟨es, hes, rfl, sortedEntries_contents? List.Pairwise.nil hes⟩

/-- Only objects have objects as their values. -/
theorem exists_map {es : List (String × Json)} (h : o.value? = some (.object es)) :
    ∃ ms, o = .map ms := by
  have hcontent := content?_of_value? h
  cases o with
  | map ms => exact ⟨ms, rfl⟩
  | _ => simp [Outline.content?] at hcontent

/-- **What is found under the names is the same.** -/
theorem Reworded.agree (h : Reworded names o p) (hv : o.value? = some v)
    (hw : p.value? = some w) : Agree names v w := by
  cases h with
  | alike p halike =>
    rw [halike.value?, hw] at hv
    cases hv
    exact .same
  | extended ms ns halike hs =>
    rw [halike.value?] at hv
    obtain ⟨es, hes, rfl, hsorted⟩ := value?_map hv
    obtain ⟨fs, hfs, rfl, hsorted'⟩ := value?_map hw
    refine .objects es fs rfl hsorted hsorted' fun name hname => ?_
    rw [lookup_contents?_eq hes, lookup_contents?_eq hfs, hs.last? hname]

end Extended

end CardLink.Json
