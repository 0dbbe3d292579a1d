import CardLink.Proofs.Json.Grammar

/-!
# The reader accepts exactly the grammar

A text is read to an outline without a fault exactly if it spells the outline. One direction goes by
the fuel of the reader: what was read is a spelling. The other one goes by the rules of the grammar:
a spelling is read, up to what follows it, if there is fuel for twice its length.

* `Finds`, `finds`: what was read is a spelling.
* `Reads`, `Spells.reads`: a spelling is read.
* **`ofText_iff`**, **`parse?_iff`**: whole texts, and their values.
-/

namespace CardLink.Json

/-! ## 1. White space -/

theorem skipSpace_cons {c : Char} (h : isSpace c = false) (cs : List Char) :
    skipSpace (c :: cs) = c :: cs := by
  simp [skipSpace, h]

section Blank

variable {ws cs : List Char}

theorem blank_nil : Blank [] := fun _ hc => absurd hc List.not_mem_nil

/-- What is skipped is white space. -/
theorem exists_blank (cs : List Char) : ∃ ws, Blank ws ∧ cs = ws ++ skipSpace cs :=
  ⟨cs.takeWhile isSpace, List.all_eq_true.1 List.all_takeWhile,
    List.takeWhile_append_dropWhile.symm⟩

theorem skipSpace_append (hws : Blank ws) (cs : List Char) : skipSpace (ws ++ cs) = skipSpace cs :=
  List.dropWhile_append_of_pos hws

theorem skipSpace_skipSpace (cs : List Char) : skipSpace (skipSpace cs) = skipSpace cs := by
  obtain ⟨ws, hws, heq⟩ := exists_blank cs
  calc skipSpace (skipSpace cs) = skipSpace (ws ++ skipSpace cs) := (skipSpace_append hws _).symm
    _ = skipSpace cs := by rw [← heq]

theorem readOutline_skipSpace (fuel : Nat) (cs : List Char) :
    readOutline fuel (skipSpace cs) = readOutline fuel cs := by
  cases fuel with
  | zero => rfl
  | succ fuel => rw [readOutline, readOutline, skipSpace_skipSpace]

theorem readItems_skipSpace (fuel : Nat) (cs : List Char) :
    readItems fuel (skipSpace cs) = readItems fuel cs := by
  cases fuel with
  | zero => rfl
  | succ fuel => rw [readItems, readItems, readOutline_skipSpace]

theorem readMembers_skipSpace (fuel : Nat) (cs : List Char) :
    readMembers fuel (skipSpace cs) = readMembers fuel cs := by
  cases fuel with
  | zero => rfl
  | succ fuel => rw [readMembers, readMembers, skipSpace_skipSpace]

/-- White space before a value. -/
theorem readOutline_append (hws : Blank ws) (fuel : Nat) (cs : List Char) :
    readOutline fuel (ws ++ cs) = readOutline fuel cs := by
  rw [← readOutline_skipSpace, skipSpace_append hws, readOutline_skipSpace]

/-! ### The first character of a value -/

/-- What a bracket begins. -/
theorem readOutline_bracket (fuel : Nat) (cs : List Char) :
    readOutline (fuel + 1) ('[' :: cs) =
      match skipSpace cs with
      | ']' :: r => (.list .closed, some r)
      | r =>
        match readItems fuel r with
        | (items, r) => (.list items, r) := by
  rw [readOutline, skipSpace_cons (by decide)]
  exact (if_neg (by decide)).trans (if_pos rfl)

/-- What a brace begins. -/
theorem readOutline_brace (fuel : Nat) (cs : List Char) :
    readOutline (fuel + 1) ('\x7b' :: cs) =
      match skipSpace cs with
      | '\x7d' :: r => (.map .closed, some r)
      | r =>
        match readMembers fuel r with
        | (members, r) => (.map members, r) := by
  rw [readOutline, skipSpace_cons (by decide)]
  exact (if_neg (by decide)).trans ((if_neg (by decide)).trans (if_pos rfl))

end Blank

/-! ## 2. What was read is a spelling -/

section Finds

variable {fuel : Nat} {o : Outline} {items : Items} {members : Members} {ws cs word r : List Char}

theorem Spells.after (h : Spells o cs) (hws : Blank ws) : Spells o (ws ++ cs) := by
  have hpadded := Spells.padded o ws cs [] hws h blank_nil
  rwa [List.append_nil] at hpadded

theorem Spells.before (h : Spells o cs) (hws : Blank ws) : Spells o (cs ++ ws) :=
  .padded o [] cs ws blank_nil h hws

theorem readWord_eq_some {o' : Outline} (h : readWord word o cs = (o', some r)) :
    o' = o ∧ cs = word ++ r := by
  unfold readWord at h
  split at h
  · rename_i hword
    obtain ⟨r', rfl⟩ := List.isPrefixOf_iff_prefix.1 hword
    rw [List.drop_left] at h
    cases h
    exact ⟨rfl, rfl⟩
  · cases h

/-- **With this much fuel, what is read is a spelling** of its outline. -/
structure Finds (fuel : Nat) : Prop where
  value : ∀ {cs o r}, readOutline fuel cs = (o, some r) → ∃ body, Spells o body ∧ cs = body ++ r
  items : ∀ {cs items r}, readItems fuel cs = (items, some r) →
    ∃ body, SpellsItems items body ∧ cs = body ++ ']' :: r
  members : ∀ {cs members r}, readMembers fuel cs = (members, some r) →
    ∃ body, SpellsMembers members body ∧ cs = body ++ '\x7d' :: r

theorem finds_zero : Finds 0 where
  value h := by cases h
  items h := by cases h
  members h := by cases h

/-- What stands after the bracket of a list. -/
theorem Finds.list (h : Finds fuel) {rest : List Char}
    (hread : readOutline (fuel + 1) ('[' :: rest) = (o, some r)) :
    ∃ body, Spells o body ∧ '[' :: rest = body ++ r := by
  obtain ⟨ws, hws, hrest⟩ := exists_blank rest
  rw [readOutline_bracket] at hread
  split at hread
  · rename_i r' hclose
    cases hread
    rw [hclose] at hrest
    exact ⟨_, .emptyList ws hws, by rw [hrest]; simp⟩
  · rw [readItems_skipSpace] at hread
    rcases hitems : readItems fuel rest with ⟨items, r'⟩
    rw [hitems] at hread
    cases hread
    obtain ⟨body, hbody, rfl⟩ := h.items hitems
    exact ⟨_, .list items body hbody, by simp⟩

/-- What stands after the brace of an object. -/
theorem Finds.object (h : Finds fuel) {rest : List Char}
    (hread : readOutline (fuel + 1) ('\x7b' :: rest) = (o, some r)) :
    ∃ body, Spells o body ∧ '\x7b' :: rest = body ++ r := by
  obtain ⟨ws, hws, hrest⟩ := exists_blank rest
  rw [readOutline_brace] at hread
  split at hread
  · rename_i r' hclose
    cases hread
    rw [hclose] at hrest
    exact ⟨_, .emptyObject ws hws, by rw [hrest]; simp⟩
  · rw [readMembers_skipSpace] at hread
    rcases hmembers : readMembers fuel rest with ⟨members, r'⟩
    rw [hmembers] at hread
    cases hread
    obtain ⟨body, hbody, rfl⟩ := h.members hmembers
    exact ⟨_, .object members body hbody, by simp⟩

theorem Finds.value_succ (h : Finds fuel) (hread : readOutline (fuel + 1) cs = (o, some r)) :
    ∃ body, Spells o body ∧ cs = body ++ r := by
  obtain ⟨ws, hws, hcs⟩ := exists_blank cs
  have hinner : ∃ body, Spells o body ∧ skipSpace cs = body ++ r := by
    rw [readOutline] at hread
    split at hread
    · cases hread
    · rename_i c rest hfirst
      rw [hfirst]
      split at hread
      · rename_i hc
        subst hc
        split at hread
        · rename_i ps r' hps
          cases hread
          obtain ⟨ks, hks, rfl⟩ := spells_of_readPieces hps
          exact ⟨_, .text ps ks hks, by simp⟩
        · cases hread
      split at hread
      · rename_i hc
        subst hc
        exact h.list hread
      split at hread
      · rename_i hc
        subst hc
        exact h.object hread
      split at hread
      · rename_i hc
        subst hc
        obtain ⟨rfl, rfl⟩ := readWord_eq_some hread
        exact ⟨_, .null, rfl⟩
      split at hread
      · rename_i hc
        subst hc
        obtain ⟨rfl, rfl⟩ := readWord_eq_some hread
        exact ⟨_, .yes, rfl⟩
      split at hread
      · rename_i hc
        subst hc
        obtain ⟨rfl, rfl⟩ := readWord_eq_some hread
        exact ⟨_, .no, rfl⟩
      · split at hread
        · rename_i n r' hn
          cases hread
          obtain ⟨ns, hns, heq⟩ := spells_of_readNumeral hn
          exact ⟨ns, .number n ns hns, heq⟩
        · cases hread
  obtain ⟨body, hbody, heq⟩ := hinner
  exact ⟨ws ++ body, hbody.after hws, by rw [List.append_assoc, ← heq, ← hcs]⟩

theorem Finds.items_succ (h : Finds fuel) (hread : readItems (fuel + 1) cs = (items, some r)) :
    ∃ body, SpellsItems items body ∧ cs = body ++ ']' :: r := by
  rw [readItems] at hread
  split at hread
  · cases hread
  · rename_i o r₁ ho
    obtain ⟨body, hbody, rfl⟩ := h.value ho
    obtain ⟨ws, hws, hr₁⟩ := exists_blank r₁
    split at hread
    · rename_i r₂ hcomma
      rcases hitems : readItems fuel r₂ with ⟨others, r₃⟩
      rw [hitems] at hread
      cases hread
      obtain ⟨body', hbody', rfl⟩ := h.items hitems
      rw [hcomma] at hr₁
      exact ⟨_, .cons o others _ _ (hbody.before hws) hbody', by rw [hr₁]; simp⟩
    · rename_i r₂ hclose
      cases hread
      rw [hclose] at hr₁
      exact ⟨_, .last o _ (hbody.before hws), by rw [hr₁]; simp⟩
    · cases hread

theorem Finds.members_succ (h : Finds fuel)
    (hread : readMembers (fuel + 1) cs = (members, some r)) :
    ∃ body, SpellsMembers members body ∧ cs = body ++ '\x7d' :: r := by
  obtain ⟨ws, hws, hcs⟩ := exists_blank cs
  rw [readMembers] at hread
  split at hread
  · rename_i rest hquote
    rw [hquote] at hcs
    split at hread
    · cases hread
    · rename_i key r₁ hkey
      obtain ⟨ks, hks, rfl⟩ := spells_of_readPieces hkey
      obtain ⟨ws', hws', hr₁⟩ := exists_blank r₁
      split at hread
      · rename_i r₂ hcolon
        rw [hcolon] at hr₁
        split at hread
        · cases hread
        · rename_i o r₃ ho
          obtain ⟨body, hbody, rfl⟩ := h.value ho
          obtain ⟨ws'', hws'', hr₃⟩ := exists_blank r₃
          split at hread
          · rename_i r₄ hcomma
            rcases hmembers : readMembers fuel r₄ with ⟨others, r₅⟩
            rw [hmembers] at hread
            cases hread
            obtain ⟨body', hbody', rfl⟩ := h.members hmembers
            rw [hcomma] at hr₃
            exact ⟨_, .cons key o others ws ks ws' _ _ hws hks hws' (hbody.before hws'') hbody',
              by rw [hcs, hr₁, hr₃]; simp⟩
          · rename_i r₄ hclose
            cases hread
            rw [hclose] at hr₃
            exact ⟨_, .last key o ws ks ws' _ hws hks hws' (hbody.before hws''),
              by rw [hcs, hr₁, hr₃]; simp⟩
          · cases hread
      · cases hread
  · cases hread

/-- **What is read is a spelling.** -/
theorem finds (fuel : Nat) : Finds fuel := by
  induction fuel with
  | zero => exact finds_zero
  | succ fuel ih => exact ⟨ih.value_succ, ih.items_succ, ih.members_succ⟩

end Finds

/-! ## 3. A spelling is read -/

/-- What may follow a value inside a text. -/
def EndsValue (c : Char) : Prop := isSpace c = true ∨ c = ',' ∨ c = ']' ∨ c = '\x7d'

/-- **With fuel for its length the text is read to the outline**, up to white space. -/
def Reads (o : Outline) (cs : List Char) : Prop :=
  ∀ fuel rest, 2 * cs.length + 1 ≤ fuel → Heads EndsValue rest →
    ∃ r, readOutline fuel (cs ++ rest) = (o, some r) ∧ skipSpace r = skipSpace rest

/-- The same for items, up to their bracket. -/
def ReadsItems (items : Items) (cs : List Char) : Prop :=
  ∀ fuel rest, 2 * cs.length + 2 ≤ fuel → readItems fuel (cs ++ ']' :: rest) = (items, some rest)

/-- The same for members, up to their brace. -/
def ReadsMembers (members : Members) (cs : List Char) : Prop :=
  ∀ fuel rest, 2 * cs.length + 2 ≤ fuel →
    readMembers fuel (cs ++ '\x7d' :: rest) = (members, some rest)

section Reads

variable {o : Outline} {items : Items} {members : Members} {key : List Piece}
  {ws ws' cs ds ks rest : List Char} {n : Numeral}

theorem noNumeral_of_endsValue {c : Char} (h : EndsValue c) : NoNumeral c := by
  simp only [EndsValue, isSpace, Bool.or_eq_true, decide_eq_true_eq] at h
  rcases h with (((rfl | rfl) | rfl) | rfl) | rfl | rfl | rfl
  all_goals exact ⟨by decide, by decide, by decide, by decide⟩

/-- A character that ends a value and is seen after white space. -/
theorem skipSpace_of_close {c : Char} (h : c = ',' ∨ c = ']' ∨ c = '\x7d') (cs : List Char) :
    skipSpace (c :: cs) = c :: cs := by
  rcases h with rfl | rfl | rfl
  · exact skipSpace_cons (by decide) cs
  · exact skipSpace_cons (by decide) cs
  · exact skipSpace_cons (by decide) cs

theorem Reads.padded (h : Reads o cs) (hws : Blank ws) (hws' : Blank ws') :
    Reads o (ws ++ cs ++ ws') := by
  intro fuel rest hfuel hrest
  have hlength : cs.length ≤ (ws ++ cs ++ ws').length := by
    rw [List.length_append, List.length_append]
    omega
  have hheads : Heads EndsValue (ws' ++ rest) := by
    cases ws' with
    | nil => exact hrest
    | cons c ws' => exact .cons (.inl (hws' c List.mem_cons_self))
  obtain ⟨r, hread, hr⟩ := h fuel (ws' ++ rest) (by omega) hheads
  refine ⟨r, ?_, hr.trans (skipSpace_append hws' rest)⟩
  rw [List.append_assoc, List.append_assoc, readOutline_append hws, hread]

theorem Reads.null : Reads .null ['n', 'u', 'l', 'l'] := by
  intro fuel rest hfuel _
  cases fuel with
  | zero => omega
  | succ fuel => exact ⟨rest, rfl, rfl⟩

theorem Reads.yes : Reads (.bool true) ['t', 'r', 'u', 'e'] := by
  intro fuel rest hfuel _
  cases fuel with
  | zero => omega
  | succ fuel => exact ⟨rest, rfl, rfl⟩

theorem Reads.no : Reads (.bool false) ['f', 'a', 'l', 's', 'e'] := by
  intro fuel rest hfuel _
  cases fuel with
  | zero => omega
  | succ fuel => exact ⟨rest, rfl, rfl⟩

/-- A numeral begins with a digit or a sign. -/
theorem SpellsNumeral.head (h : SpellsNumeral n cs) :
    ∃ c ds, cs = c :: ds ∧ ∀ c' : Char, c'.isDigit = false → c' ≠ '-' → c ≠ c' := by
  cases h with
  | positive _ hsign hn =>
    obtain ⟨d, ds, rfl, hd⟩ := hn.digit
    refine ⟨d, ds, rfl, fun c' hc' _ heq => ?_⟩
    rw [heq, hc'] at hd
    cases hd
  | negative cs hsign hn => exact ⟨'-', cs, rfl, fun c' _ hc' => Ne.symm hc'⟩

theorem Reads.numeral (h : SpellsNumeral n cs) : Reads (.number n.number?) cs := by
  intro fuel rest hfuel hrest
  have hread := h.read (hrest.mono fun _ hc => noNumeral_of_endsValue hc)
  obtain ⟨c, ds, rfl, hne⟩ := h.head
  cases fuel with
  | zero => omega
  | succ fuel =>
    have hspace : isSpace c = false := by simp [isSpace, hne]
    refine ⟨rest, ?_, rfl⟩
    rw [List.cons_append] at hread ⊢
    rw [readOutline, skipSpace_cons hspace]
    simp only [hne '"' (by decide) (by decide), hne '[' (by decide) (by decide),
      hne '\x7b' (by decide) (by decide), hne 'n' (by decide) (by decide),
      hne 't' (by decide) (by decide), hne 'f' (by decide) (by decide), if_false, hread]

theorem Reads.string {ps : List Piece} (h : SpellsPieces ps cs) :
    Reads (.text ps) ('"' :: (cs ++ ['"'])) := by
  intro fuel rest hfuel _
  cases fuel with
  | zero => omega
  | succ fuel =>
    refine ⟨rest, ?_, rfl⟩
    have htext : '"' :: (cs ++ ['"']) ++ rest = '"' :: (cs ++ '"' :: rest) := by simp
    rw [htext, readOutline, skipSpace_cons (by decide)]
    simp only [h.read, if_true]

theorem Reads.emptyList (hws : Blank ws) : Reads (.list .closed) ('[' :: (ws ++ [']'])) := by
  intro fuel rest hfuel _
  cases fuel with
  | zero => omega
  | succ fuel =>
    refine ⟨rest, ?_, rfl⟩
    have htext : '[' :: (ws ++ [']']) ++ rest = '[' :: (ws ++ ']' :: rest) := by simp
    have hclose : skipSpace (ws ++ ']' :: rest) = ']' :: rest := by
      rw [skipSpace_append hws, skipSpace_of_close (.inr (.inl rfl))]
    rw [htext, readOutline_bracket, hclose]
    rfl

theorem Reads.emptyObject (hws : Blank ws) :
    Reads (.map .closed) ('\x7b' :: (ws ++ ['\x7d'])) := by
  intro fuel rest hfuel _
  cases fuel with
  | zero => omega
  | succ fuel =>
    refine ⟨rest, ?_, rfl⟩
    have htext : '\x7b' :: (ws ++ ['\x7d']) ++ rest = '\x7b' :: (ws ++ '\x7d' :: rest) := by simp
    have hclose : skipSpace (ws ++ '\x7d' :: rest) = '\x7d' :: rest := by
      rw [skipSpace_append hws, skipSpace_of_close (.inr (.inr rfl))]
    rw [htext, readOutline_brace, hclose]
    rfl

/-- A bracket is no item. -/
theorem readItems_close (fuel : Nat) (cs : List Char) : (readItems fuel (']' :: cs)).2 = none := by
  cases fuel with
  | zero => rfl
  | succ fuel =>
    cases fuel with
    | zero => rfl
    | succ fuel => rfl

/-- A brace is no member. -/
theorem readMembers_close (fuel : Nat) (cs : List Char) :
    (readMembers fuel ('\x7d' :: cs)).2 = none := by
  cases fuel with
  | zero => rfl
  | succ fuel => rfl

theorem ReadsItems.list (h : ReadsItems items cs) : Reads (.list items) ('[' :: (cs ++ [']'])) := by
  intro fuel rest hfuel _
  cases fuel with
  | zero => omega
  | succ fuel =>
    refine ⟨rest, ?_, rfl⟩
    have htext : '[' :: (cs ++ [']']) ++ rest = '[' :: (cs ++ ']' :: rest) := by simp
    have hread := h fuel rest (by simp at hfuel; omega)
    rw [← readItems_skipSpace] at hread
    rw [htext, readOutline_bracket]
    split
    · rename_i r hclose
      have hnone := readItems_close fuel r
      rw [← hclose, hread] at hnone
      cases hnone
    · rw [hread]

theorem ReadsMembers.object (h : ReadsMembers members cs) :
    Reads (.map members) ('\x7b' :: (cs ++ ['\x7d'])) := by
  intro fuel rest hfuel _
  cases fuel with
  | zero => omega
  | succ fuel =>
    refine ⟨rest, ?_, rfl⟩
    have htext : '\x7b' :: (cs ++ ['\x7d']) ++ rest = '\x7b' :: (cs ++ '\x7d' :: rest) := by simp
    have hread := h fuel rest (by simp at hfuel; omega)
    rw [← readMembers_skipSpace] at hread
    rw [htext, readOutline_brace]
    split
    · rename_i r hclose
      have hnone := readMembers_close fuel r
      rw [← hclose, hread] at hnone
      cases hnone
    · rw [hread]

/-! ### Items and members -/

theorem Reads.lastItem (h : Reads o cs) : ReadsItems (.cons o .closed) cs := by
  intro fuel rest hfuel
  cases fuel with
  | zero => omega
  | succ fuel =>
    obtain ⟨r, hread, hr⟩ := h fuel (']' :: rest) (by omega) (.cons (.inr (.inr (.inl rfl))))
    rw [skipSpace_of_close (.inr (.inl rfl))] at hr
    rw [readItems]
    simp only [hread, hr]

theorem Reads.item (h : Reads o cs) (hs : ReadsItems items ds) :
    ReadsItems (.cons o items) (cs ++ ',' :: ds) := by
  intro fuel rest hfuel
  cases fuel with
  | zero => omega
  | succ fuel =>
    rw [List.length_append, List.length_cons] at hfuel
    obtain ⟨r, hread, hr⟩ := h fuel (',' :: (ds ++ ']' :: rest)) (by omega)
      (.cons (.inr (.inl rfl)))
    rw [skipSpace_of_close (.inl rfl)] at hr
    rw [List.append_assoc, List.cons_append, readItems]
    simp only [hread, hr, hs fuel rest (by omega)]

theorem skipSpace_colon (cs : List Char) : skipSpace (':' :: cs) = ':' :: cs :=
  skipSpace_cons (by decide) cs

theorem Reads.lastMember (h : Reads o cs) (hws : Blank ws) (hkey : SpellsPieces key ks)
    (hws' : Blank ws') :
    ReadsMembers (.cons key o .closed) (ws ++ '"' :: (ks ++ '"' :: (ws' ++ ':' :: cs))) := by
  intro fuel rest hfuel
  cases fuel with
  | zero => omega
  | succ fuel =>
    simp only [List.length_append, List.length_cons] at hfuel
    obtain ⟨r, hread, hr⟩ := h fuel ('\x7d' :: rest) (by omega) (.cons (.inr (.inr (.inr rfl))))
    rw [skipSpace_of_close (.inr (.inr rfl))] at hr
    simp only [List.append_assoc, List.cons_append]
    rw [readMembers, skipSpace_append hws, skipSpace_cons (by decide)]
    simp only [hkey.read, skipSpace_append hws', skipSpace_colon, hread, hr]

theorem Reads.member (h : Reads o cs) (hws : Blank ws) (hkey : SpellsPieces key ks)
    (hws' : Blank ws') (hs : ReadsMembers members ds) :
    ReadsMembers (.cons key o members)
      (ws ++ '"' :: (ks ++ '"' :: (ws' ++ ':' :: (cs ++ ',' :: ds)))) := by
  intro fuel rest hfuel
  cases fuel with
  | zero => omega
  | succ fuel =>
    simp only [List.length_append, List.length_cons] at hfuel
    obtain ⟨r, hread, hr⟩ := h fuel (',' :: (ds ++ '\x7d' :: rest)) (by omega)
      (.cons (.inr (.inl rfl)))
    rw [skipSpace_of_close (.inl rfl)] at hr
    simp only [List.append_assoc, List.cons_append]
    rw [readMembers, skipSpace_append hws, skipSpace_cons (by decide)]
    simp only [hkey.read, skipSpace_append hws', skipSpace_colon, hread, hr,
      hs fuel rest (by omega)]

/-- **A spelling is read.** -/
theorem Spells.reads (h : Spells o cs) : Reads o cs := by
  -- by the rules for values, items and members together
  refine @Spells.rec (fun o cs _ => Reads o cs) (fun items cs _ => ReadsItems items cs)
    (fun members cs _ => ReadsMembers members cs) ?padded Reads.null Reads.yes Reads.no
    ?number ?text ?emptyList ?list ?emptyObject ?object ?lastItem ?item ?lastMember ?member o cs h
  case padded => exact fun _ _ _ _ hws _ hws' ih => ih.padded hws hws'
  case number => exact fun _ _ hn => Reads.numeral hn
  case text => exact fun _ _ hps => Reads.string hps
  case emptyList => exact fun _ hws => Reads.emptyList hws
  case list => exact fun _ _ _ ih => ih.list
  case emptyObject => exact fun _ hws => Reads.emptyObject hws
  case object => exact fun _ _ _ ih => ih.object
  case lastItem => exact fun _ _ _ ih => ih.lastItem
  case item => exact fun _ _ _ _ _ _ ih ihs => ih.item ihs
  case lastMember => exact fun _ _ _ _ _ _ hws hkey hws' _ ih => ih.lastMember hws hkey hws'
  case member =>
    exact fun _ _ _ _ _ _ _ _ hws hkey hws' _ _ ih ihs => ih.member hws hkey hws' ihs

end Reads

/-! ## 4. Whole texts -/

/-- **A text is read to an outline without a fault exactly if it spells the outline.** -/
theorem ofText_iff {s : String} {o : Outline} :
    Outline.ofText s = (o, true) ↔ Spells o s.toList := by
  unfold Outline.ofText
  dsimp only
  constructor
  · intro h
    split at h
    · cases h
    · rename_i o' r hread
      obtain ⟨rfl, hend⟩ := Prod.mk.inj h
      obtain ⟨body, hbody, heq⟩ := (finds _).value hread
      obtain ⟨ws, hws, hr⟩ := exists_blank r
      rw [List.isEmpty_iff.1 hend, List.append_nil] at hr
      rw [heq, hr]
      exact hbody.before hws
  · intro h
    obtain ⟨r, hread, hr⟩ := h.reads (2 * s.toList.length + 2) [] (by omega)
      (fun c hc => nomatch hc)
    rw [List.append_nil] at hread
    simp only [hread, hr]
    rfl

/-- **A text has a value exactly if it spells an outline with this value.** -/
theorem parse?_iff {s : String} {v : Json} :
    parse? s = some v ↔ ∃ o, Spells o s.toList ∧ o.value? = some v := by
  unfold parse?
  constructor
  · intro h
    split at h
    · rename_i o hread
      exact ⟨o, ofText_iff.1 hread, h⟩
    · cases h
  · intro hsome
    obtain ⟨o, hspells, hv⟩ := hsome
    rw [ofText_iff.2 hspells]
    exact hv

end CardLink.Json
