import CardLink.Json.Reader

/-!
# The grammar of JSON texts

Which texts have an outline is said without the reader: a relation between an outline and its
spellings, with one rule for each way to write a value. White space may stand around every value and
every key, a character may be written as itself or as an escape, and a numeral has a whole part
without needless zeros.

* `SpellsPieces`, `SpellsNumeral`, `Spells`: strings, numerals and values.
* `spells_of_readPieces`, `SpellsPieces.read`: the reader takes exactly the strings.
* `spells_of_readNumeral`, `SpellsNumeral.read`: the reader takes exactly the numerals, as far as
  they go.

NOT here: the reader of values (`Proofs.Json.Recognition`), nor what numbers numerals stand for.
-/

namespace CardLink.Json

/-! ## 1. Strings -/

/-- **One piece of a string**: a character that stands for itself, a short escape, or a code unit
named by four digits. -/
inductive SpellsPiece : Piece → List Char → Prop where
  | plain (c : Char) (hlow : ¬ c.toNat < 0x20) (hquote : c ≠ '"') (hslash : c ≠ '\\') :
      SpellsPiece (.char c) [c]
  | short (e c : Char) (h : unescape? e = some c) : SpellsPiece (.char c) ['\\', e]
  | unit (a b c d : Char) (n : Nat) (h : hexUnit? a b c d = some n) :
      SpellsPiece (.ofUnit n) ['\\', 'u', a, b, c, d]

/-- **The inside of a string.** -/
inductive SpellsPieces : List Piece → List Char → Prop where
  | nil : SpellsPieces [] []
  | cons (p : Piece) (ps : List Piece) (cs ds : List Char) (h : SpellsPiece p cs)
      (hs : SpellsPieces ps ds) : SpellsPieces (p :: ps) (cs ++ ds)

/-! ## 2. Numerals -/

/-- Some digits. -/
structure Digits (ds : List Char) : Prop where
  nonempty : ds ≠ []
  digits : ∀ c ∈ ds, c.isDigit = true

/-- The part after the whole digits: none, or a point and digits. -/
inductive SpellsFraction : List Char → List Char → Prop where
  | absent : SpellsFraction [] []
  | point (ds : List Char) (h : Digits ds) : SpellsFraction ds ('.' :: ds)

/-- The exponent: none, or its letter, perhaps a sign, and digits. -/
inductive SpellsExponent : Option (Bool × List Char) → List Char → Prop where
  | absent : SpellsExponent none []
  | bare (mark : Char) (ds : List Char) (hmark : mark = 'e' ∨ mark = 'E') (h : Digits ds) :
      SpellsExponent (some (false, ds)) (mark :: ds)
  | plus (mark : Char) (ds : List Char) (hmark : mark = 'e' ∨ mark = 'E') (h : Digits ds) :
      SpellsExponent (some (false, ds)) (mark :: '+' :: ds)
  | minus (mark : Char) (ds : List Char) (hmark : mark = 'e' ∨ mark = 'E') (h : Digits ds) :
      SpellsExponent (some (true, ds)) (mark :: '-' :: ds)

/-- A numeral without its sign. Several digits do not begin with a zero. -/
inductive SpellsUnsigned : Numeral → List Char → Prop where
  | parts (negative : Bool) (whole fraction : List Char) (exponent : Option (Bool × List Char))
      (fs es : List Char) (hwhole : Digits whole)
      (hzero : whole.head? = some '0' → whole.length = 1) (hfraction : SpellsFraction fraction fs)
      (hexponent : SpellsExponent exponent es) :
      SpellsUnsigned ⟨negative, whole, fraction, exponent⟩ (whole ++ (fs ++ es))

/-- **A numeral.** -/
inductive SpellsNumeral : Numeral → List Char → Prop where
  | positive (n : Numeral) (cs : List Char) (hsign : n.negative = false)
      (h : SpellsUnsigned n cs) : SpellsNumeral n cs
  | negative (n : Numeral) (cs : List Char) (hsign : n.negative = true)
      (h : SpellsUnsigned n cs) : SpellsNumeral n ('-' :: cs)

/-! ## 3. Values -/

/-- Nothing but white space. -/
def Blank (ws : List Char) : Prop := ∀ c ∈ ws, isSpace c = true

mutual

/-- **A value**, perhaps with white space around it. -/
inductive Spells : Outline → List Char → Prop where
  | padded (o : Outline) (ws cs ws' : List Char) (hws : Blank ws) (h : Spells o cs)
      (hws' : Blank ws') : Spells o (ws ++ cs ++ ws')
  | null : Spells .null ['n', 'u', 'l', 'l']
  | yes : Spells (.bool true) ['t', 'r', 'u', 'e']
  | no : Spells (.bool false) ['f', 'a', 'l', 's', 'e']
  | number (n : Numeral) (cs : List Char) (h : SpellsNumeral n cs) : Spells (.number n.number?) cs
  | text (ps : List Piece) (cs : List Char) (h : SpellsPieces ps cs) :
      Spells (.text ps) ('"' :: (cs ++ ['"']))
  | emptyList (ws : List Char) (h : Blank ws) : Spells (.list .closed) ('[' :: (ws ++ [']']))
  | list (items : Items) (cs : List Char) (h : SpellsItems items cs) :
      Spells (.list items) ('[' :: (cs ++ [']']))
  | emptyObject (ws : List Char) (h : Blank ws) :
      Spells (.map .closed) ('\x7b' :: (ws ++ ['\x7d']))
  | object (members : Members) (cs : List Char) (h : SpellsMembers members cs) :
      Spells (.map members) ('\x7b' :: (cs ++ ['\x7d']))

/-- The items of a list that has some. -/
inductive SpellsItems : Items → List Char → Prop where
  | last (o : Outline) (cs : List Char) (h : Spells o cs) : SpellsItems (.cons o .closed) cs
  | cons (o : Outline) (items : Items) (cs ds : List Char) (h : Spells o cs)
      (hs : SpellsItems items ds) : SpellsItems (.cons o items) (cs ++ ',' :: ds)

/-- The members of an object that has some. -/
inductive SpellsMembers : Members → List Char → Prop where
  | last (key : List Piece) (o : Outline) (ws ks ws' cs : List Char) (hws : Blank ws)
      (hkey : SpellsPieces key ks) (hws' : Blank ws') (h : Spells o cs) :
      SpellsMembers (.cons key o .closed) (ws ++ '"' :: (ks ++ '"' :: (ws' ++ ':' :: cs)))
  | cons (key : List Piece) (o : Outline) (members : Members) (ws ks ws' cs ds : List Char)
      (hws : Blank ws) (hkey : SpellsPieces key ks) (hws' : Blank ws') (h : Spells o cs)
      (hs : SpellsMembers members ds) :
      SpellsMembers (.cons key o members)
        (ws ++ '"' :: (ks ++ '"' :: (ws' ++ ':' :: (cs ++ ',' :: ds))))

end

/-! ## 4. The reader of strings -/

/-- An escape of one letter. -/
theorem readPieces_short {e c : Char} (he : e ≠ 'u') (h : unescape? e = some c)
    (rest : List Char) :
    readPieces ('\\' :: e :: rest) = (readPieces rest).map fun p => (.char c :: p.1, p.2) := by
  rw [readPieces, h]
  · cases readPieces rest with
    | none => rfl
    | some p => rfl
  · intro _ _ _ _ _ heq
    simp [he] at heq

/-- A character that stands for itself. -/
theorem readPieces_plain {c : Char} (hquote : c ≠ '"') (hslash : c ≠ '\\') (hlow : ¬ c.toNat < 0x20)
    (rest : List Char) :
    readPieces (c :: rest) = (readPieces rest).map fun p => (.char c :: p.1, p.2) := by
  rw [readPieces, if_neg (by simp [hlow, hslash])]
  · cases readPieces rest with
    | none => rfl
    | some p => rfl
  · intro heq
    exact hquote heq
  · intro _ _ _ _ _ heq
    exact absurd heq hslash
  · intro _ _ heq
    exact absurd heq hslash

section Strings

variable {p : Piece} {ps : List Piece} {cs r : List Char}

/-- A piece is read. -/
theorem SpellsPiece.read (h : SpellsPiece p cs) (rest : List Char) :
    readPieces (cs ++ rest) = (readPieces rest).map fun q => (p :: q.1, q.2) := by
  cases h with
  | plain c hlow hquote hslash => exact readPieces_plain hquote hslash hlow rest
  | short e c he =>
    refine readPieces_short (fun hu => ?_) he rest
    rw [hu] at he
    cases he
  | unit a b c d n hunit =>
    show readPieces ('\\' :: 'u' :: a :: b :: c :: d :: rest) = _
    rw [readPieces, hunit]
    cases readPieces rest with
    | none => rfl
    | some q => rfl

theorem SpellsPieces.read (h : SpellsPieces ps cs) (rest : List Char) :
    readPieces (cs ++ '"' :: rest) = some (ps, rest) := by
  induction h with
  | nil => rfl
  | cons p ps cs ds hp _ ih =>
    rw [List.append_assoc, hp.read, ih]
    rfl

/-- What was read begins with a spelling of the pieces. -/
theorem spells_of_readPieces (h : readPieces cs = some (ps, r)) :
    ∃ ks, SpellsPieces ps ks ∧ cs = ks ++ '"' :: r := by
  fun_induction readPieces cs generalizing ps r with
  | case1 => cases h
  | case2 rest =>
    cases h
    exact ⟨[], .nil, rfl⟩
  | case3 a b c d rest n ps' r' hrest hunit ih =>
    cases h
    obtain ⟨ks, hks, rfl⟩ := ih hrest
    exact ⟨_, .cons _ _ _ _ (.unit a b c d n hunit) hks, rfl⟩
  | case4 => cases h
  | case5 e rest hu c ps' r' hrest hescape ih =>
    cases h
    obtain ⟨ks, hks, rfl⟩ := ih hrest
    exact ⟨_, .cons _ _ _ _ (.short e c hescape) hks, rfl⟩
  | case6 => cases h
  | case7 => cases h
  | case8 c rest hquote _ _ hplain ps' r' hrest ih =>
    cases h
    obtain ⟨ks, hks, rfl⟩ := ih hrest
    rw [not_or] at hplain
    exact ⟨_, .cons _ _ _ _ (.plain c hplain.1 hquote hplain.2) hks, rfl⟩
  | case9 => cases h

end Strings

/-! ## 5. The reader of numerals -/

/-- The text that follows does not go on with such a character. -/
def Heads (good : Char → Prop) (rest : List Char) : Prop := ∀ c ∈ rest.head?, good c

/-- No digit follows. -/
def NoDigit (c : Char) : Prop := c.isDigit = false

/-- Nothing follows that would go on with the exponent. -/
def NoExponent (c : Char) : Prop := c.isDigit = false ∧ c ≠ 'e' ∧ c ≠ 'E'

/-- **Nothing follows that would go on with a numeral.** -/
def NoNumeral (c : Char) : Prop := c.isDigit = false ∧ c ≠ '.' ∧ c ≠ 'e' ∧ c ≠ 'E'

section Numerals

variable {n : Numeral} {ds fs es cs r rest : List Char} {exponent : Option (Bool × List Char)}

theorem Heads.mono {good good' : Char → Prop} (h : Heads good rest)
    (himp : ∀ c, good c → good' c) : Heads good' rest := fun c hc => himp c (h c hc)

theorem Heads.cons {good : Char → Prop} {c : Char} (h : good c) : Heads good (c :: cs) := by
  intro d hd
  obtain rfl := Option.some.inj hd
  exact h

/-- Digits are taken up to what is no digit. -/
theorem digitsOf_append_of_heads (hds : ∀ c ∈ ds, c.isDigit = true) (hrest : Heads NoDigit rest) :
    digitsOf (ds ++ rest) = (ds, rest) := by
  have hstop : rest.takeWhile Char.isDigit = [] ∧ rest.dropWhile Char.isDigit = rest := by
    cases rest with
    | nil => exact ⟨rfl, rfl⟩
    | cons c rest =>
      have hc : c.isDigit = false := hrest c rfl
      simp [hc]
  unfold digitsOf
  rw [List.takeWhile_append_of_pos hds, List.dropWhile_append_of_pos hds, hstop.1, hstop.2,
    List.append_nil]

theorem digits_of_digitsOf (h : digitsOf cs = (ds, r)) (hne : ds ≠ []) :
    Digits ds ∧ cs = ds ++ r := by
  obtain ⟨rfl, rfl⟩ := Prod.mk.inj h
  exact ⟨⟨hne, List.all_eq_true.1 List.all_takeWhile⟩, List.takeWhile_append_dropWhile.symm⟩

/-! ### Fractions -/

theorem SpellsFraction.read (h : SpellsFraction ds fs)
    (hrest : Heads (fun c => NoDigit c ∧ c ≠ '.') rest) :
    readFraction (fs ++ rest) = some (ds, rest) := by
  cases h with
  | absent =>
    show readFraction rest = _
    unfold readFraction
    split
    · exact absurd rfl (hrest '.' rfl).2
    · rfl
  | point ds hds =>
    show readFraction ('.' :: (ds ++ rest)) = _
    unfold readFraction
    simp only [digitsOf_append_of_heads hds.digits (hrest.mono fun _ h => h.1), hds.nonempty,
      if_false]

theorem spells_of_readFraction (h : readFraction cs = some (ds, r)) :
    ∃ fs, SpellsFraction ds fs ∧ cs = fs ++ r := by
  unfold readFraction at h
  split at h
  · rename_i rest
    rcases hdigits : digitsOf rest with ⟨ds', r'⟩
    simp only [hdigits] at h
    split at h
    · cases h
    · rename_i hne
      cases h
      obtain ⟨hds, rfl⟩ := digits_of_digitsOf hdigits hne
      exact ⟨_, .point _ hds, rfl⟩
  · cases h
    exact ⟨[], .absent, rfl⟩

/-! ### Exponents -/

theorem readExponentDigits_append (negative : Bool) (hds : Digits ds)
    (hrest : Heads NoDigit rest) :
    readExponentDigits negative (ds ++ rest) = some (some (negative, ds), rest) := by
  unfold readExponentDigits
  simp only [digitsOf_append_of_heads hds.digits hrest, hds.nonempty, if_false]

theorem SpellsExponent.read (h : SpellsExponent exponent es) (hrest : Heads NoExponent rest) :
    readExponent (es ++ rest) = some (exponent, rest) := by
  have hdigit : Heads NoDigit rest := hrest.mono fun _ h => h.1
  cases h with
  | absent =>
    cases rest with
    | nil => rfl
    | cons c rest =>
      have hc := hrest c rfl
      have hmark : ¬ (c = 'e' ∨ c = 'E') := not_or.2 hc.2
      show readExponent (c :: rest) = _
      unfold readExponent
      exact if_neg hmark
  | bare mark ds hmark hds =>
    rw [← readExponentDigits_append false hds hdigit]
    show readExponent (mark :: (ds ++ rest)) = _
    -- a digit is no sign
    have hsign : ∀ c : Char, c.isDigit = false → ∀ r, ds ++ rest ≠ c :: r := by
      intro c hc r heq
      cases ds with
      | nil => exact hds.nonempty rfl
      | cons d ds =>
        obtain rfl := (List.cons.inj heq).1
        rw [hds.digits d List.mem_cons_self] at hc
        cases hc
    rw [readExponent, if_pos hmark]
    · exact hsign '+' (by decide)
    · exact hsign '-' (by decide)
  | plus mark ds hmark hds =>
    show readExponent (mark :: '+' :: (ds ++ rest)) = _
    rw [readExponent, if_pos hmark]
    exact readExponentDigits_append false hds hdigit
  | minus mark ds hmark hds =>
    show readExponent (mark :: '-' :: (ds ++ rest)) = _
    rw [readExponent, if_pos hmark]
    exact readExponentDigits_append true hds hdigit

theorem spells_of_readExponentDigits {negative : Bool}
    (h : readExponentDigits negative cs = some (exponent, r)) :
    ∃ ds, Digits ds ∧ exponent = some (negative, ds) ∧ cs = ds ++ r := by
  unfold readExponentDigits at h
  rcases hdigits : digitsOf cs with ⟨ds, r'⟩
  simp only [hdigits] at h
  split at h
  · cases h
  · rename_i hne
    cases h
    obtain ⟨hds, rfl⟩ := digits_of_digitsOf hdigits hne
    exact ⟨ds, hds, rfl, rfl⟩

theorem spells_of_readExponent (h : readExponent cs = some (exponent, r)) :
    ∃ es, SpellsExponent exponent es ∧ cs = es ++ r := by
  unfold readExponent at h
  split at h
  · rename_i mark rest
    split at h
    · rename_i hmark
      split at h
      · obtain ⟨ds, hds, rfl, rfl⟩ := spells_of_readExponentDigits h
        exact ⟨_, .plus mark ds hmark hds, rfl⟩
      · obtain ⟨ds, hds, rfl, rfl⟩ := spells_of_readExponentDigits h
        exact ⟨_, .minus mark ds hmark hds, rfl⟩
      · obtain ⟨ds, hds, rfl, rfl⟩ := spells_of_readExponentDigits h
        exact ⟨_, .bare mark ds hmark hds, rfl⟩
    · cases h
      exact ⟨[], .absent, rfl⟩
  · cases h
    exact ⟨[], .absent, rfl⟩

/-! ### Whole numerals -/

theorem SpellsFraction.heads (h : SpellsFraction ds fs) (hrest : Heads NoDigit rest) :
    Heads NoDigit (fs ++ rest) := by
  cases h with
  | absent => exact hrest
  | point ds hds => exact .cons (show ('.' : Char).isDigit = false by decide)

theorem SpellsExponent.heads (h : SpellsExponent exponent es) (hrest : Heads NoNumeral rest) :
    Heads (fun c => NoDigit c ∧ c ≠ '.') (es ++ rest) := by
  have hletter : ∀ mark : Char, mark = 'e' ∨ mark = 'E' → NoDigit mark ∧ mark ≠ '.' := by
    intro mark hmark
    rcases hmark with rfl | rfl
    · exact ⟨show ('e' : Char).isDigit = false by decide, by decide⟩
    · exact ⟨show ('E' : Char).isDigit = false by decide, by decide⟩
  cases h with
  | absent => exact hrest.mono fun c hc => ⟨hc.1, hc.2.1⟩
  | bare mark ds hmark hds => exact .cons (hletter mark hmark)
  | plus mark ds hmark hds => exact .cons (hletter mark hmark)
  | minus mark ds hmark hds => exact .cons (hletter mark hmark)

theorem SpellsUnsigned.read (h : SpellsUnsigned n cs) (hrest : Heads NoNumeral rest) :
    readUnsigned n.negative (cs ++ rest) = some (n, rest) := by
  cases h with
  | parts negative whole fraction exponent fs es hwhole hzero hfraction hexponent =>
    have hheads := hexponent.heads hrest
    have hdigits := digitsOf_append_of_heads hwhole.digits
      (hfraction.heads (hheads.mono fun _ h => h.1))
    have hallowed : ¬ (whole = [] ∨ whole.head? = some '0' ∧ whole.length ≠ 1) := by
      intro hcase
      rcases hcase with hnil | ⟨hhead, hlength⟩
      · exact hwhole.nonempty hnil
      · exact hlength (hzero hhead)
    rw [List.append_assoc, List.append_assoc]
    unfold readUnsigned
    simp only [hdigits, if_neg hallowed, hfraction.read hheads,
      hexponent.read (hrest.mono fun _ h => ⟨h.1, h.2.2⟩)]

/-- A numeral without its sign begins with a digit. -/
theorem SpellsUnsigned.digit (h : SpellsUnsigned n cs) :
    ∃ d ds, cs = d :: ds ∧ d.isDigit = true := by
  cases h with
  | parts negative whole fraction exponent fs es hwhole =>
    cases whole with
    | nil => exact absurd rfl hwhole.nonempty
    | cons d ds => exact ⟨d, _, rfl, hwhole.digits d List.mem_cons_self⟩

/-- **A numeral is read**, if nothing follows that would go on with it. -/
theorem SpellsNumeral.read (h : SpellsNumeral n cs) (hrest : Heads NoNumeral rest) :
    readNumeral (cs ++ rest) = some (n, rest) := by
  cases h with
  | positive _ hsign hn =>
    have hread := hn.read hrest
    rw [hsign] at hread
    obtain ⟨d, ds, rfl, hd⟩ := hn.digit
    rw [List.cons_append] at hread ⊢
    rw [readNumeral]
    · exact hread
    · intro _ heq
      obtain rfl := (List.cons.inj heq).1
      exact absurd hd (by decide)
  | negative cs hsign hn =>
    have hread := hn.read hrest
    rw [hsign] at hread
    exact hread

theorem spells_of_readUnsigned {negative : Bool} (h : readUnsigned negative cs = some (n, r)) :
    ∃ ns, SpellsUnsigned n ns ∧ n.negative = negative ∧ cs = ns ++ r := by
  unfold readUnsigned at h
  rcases hdigits : digitsOf cs with ⟨whole, r₁⟩
  simp only [hdigits] at h
  split at h
  · cases h
  · rename_i hallowed
    obtain ⟨hne, hzero⟩ := not_or.1 hallowed
    obtain ⟨hwhole, rfl⟩ := digits_of_digitsOf hdigits hne
    split at h
    · cases h
    · rename_i fraction r₂ hfraction
      obtain ⟨fs, hfs, rfl⟩ := spells_of_readFraction hfraction
      split at h
      · cases h
      · rename_i exponent r₃ hexponent
        obtain ⟨es, hes, rfl⟩ := spells_of_readExponent hexponent
        cases h
        refine ⟨_, .parts negative whole fraction exponent fs es hwhole (fun hhead => ?_) hfs hes,
          rfl, by rw [List.append_assoc, List.append_assoc]⟩
        exact Classical.not_not.1 fun hlength => hzero ⟨hhead, hlength⟩

/-- **What was read begins with a spelling of the numeral.** -/
theorem spells_of_readNumeral (h : readNumeral cs = some (n, r)) :
    ∃ ns, SpellsNumeral n ns ∧ cs = ns ++ r := by
  unfold readNumeral at h
  split at h
  · obtain ⟨ns, hns, hsign, rfl⟩ := spells_of_readUnsigned h
    exact ⟨_, .negative n ns hsign hns, rfl⟩
  · obtain ⟨ns, hns, hsign, rfl⟩ := spells_of_readUnsigned h
    exact ⟨_, .positive n ns hsign hns, rfl⟩

end Numerals

end CardLink.Json
