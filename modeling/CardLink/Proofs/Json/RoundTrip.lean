import CardLink.Json.Writer
import CardLink.Proofs.Json.Recognition

/-!
# What is written as JSON reads back

The text of a value spells the outline of the value, so it is read to this outline. Numbers have to
be whole and of 64 bits, as they are in everything that nodes send.

* `spells_escapeChar`, `spells_toDigits`: characters, whatever they are, and whole numbers.
* `Exact`: values whose numbers are kept.
* `spells_write`: values, with items and members.
* **`ofText_toText`**: whole texts.
-/

namespace CardLink.Json

/-! ## 1. Strings -/

theorem hexDigit?_digitChar : ∀ d : Fin 16, hexDigit? (Nat.digitChar d) = some d.val := by decide

/-- A control character is named by its four digits. -/
theorem ofUnit_control (c : Char) (h : c.toNat < 0x20) :
    hexUnit? '0' '0' (Nat.digitChar (c.toNat / 16)) (Nat.digitChar (c.toNat % 16)) =
      some c.toNat ∧ Piece.ofUnit c.toNat = .char c := by
  have hhigh := hexDigit?_digitChar ⟨c.toNat / 16, by omega⟩
  have hlow := hexDigit?_digitChar ⟨c.toNat % 16, by omega⟩
  have hzero : hexDigit? '0' = some 0 := by decide
  simp only at hhigh hlow
  constructor
  · simp only [hexUnit?, hhigh, hlow, hzero]
    congr 1
    omega
  · rw [Piece.ofUnit, if_neg (by omega), Char.ofNat_toNat]

/-- What is written for a character spells it. -/
theorem spells_escapeChar (c : Char) : SpellsPiece (.char c) (escapeChar c) := by
  unfold escapeChar
  split
  · subst c
    exact .short _ _ rfl
  split
  · subst c
    exact .short _ _ rfl
  split
  · subst c
    exact .short _ _ rfl
  split
  · subst c
    exact .short _ _ rfl
  split
  · subst c
    exact .short _ _ rfl
  split
  · subst c
    exact .short _ _ rfl
  split
  · subst c
    exact .short _ _ rfl
  split
  · rename_i h
    obtain ⟨hunit, hpiece⟩ := ofUnit_control c h
    rw [← hpiece]
    exact .unit _ _ _ _ _ hunit
  · rename_i hquote hslash _ _ _ _ _ hlow
    exact .plain c hlow hquote hslash

theorem spells_pieces (cs : List Char) : SpellsPieces (cs.map .char) (cs.flatMap escapeChar) := by
  induction cs with
  | nil => exact .nil
  | cons c cs ih => exact .cons _ _ _ _ (spells_escapeChar c) ih

/-! ## 2. Numbers -/

theorem isDigit_of_mem_toDigits {n : Nat} {c : Char} (h : c ∈ Nat.toDigits 10 n) : c.isDigit :=
  Nat.isDigit_of_mem_toDigits (by decide) (by decide) h

/-- Only zero begins with a zero. -/
theorem head?_toDigits (n : Nat) (h : (Nat.toDigits 10 n).head? = some '0') :
    (Nat.toDigits 10 n).length = 1 := by
  induction n using Nat.strongRecOn with
  | ind n ih =>
    by_cases hn : n < 10
    · rw [Nat.toDigits_of_lt_base hn]
      rfl
    · rw [Nat.toDigits_of_base_le (by decide) (by omega)] at h ⊢
      have hhead : (Nat.toDigits 10 (n / 10)).head? = some '0' := by
        rw [List.head?_append, Option.or_of_isSome] at h
        · exact h
        · exact List.isSome_head?.2 Nat.toDigits_ne_nil
      have hone := ih (n / 10) (by omega) hhead
      have hsmall : n / 10 < 10 := by
        have hbound := (Nat.length_toDigits_le_iff (n := n / 10) (by decide) (by decide)).1
          (Nat.le_of_eq hone)
        omega
      rw [Nat.toDigits_of_lt_base hsmall] at hhead
      have hzero : n / 10 = 0 := by simpa using hhead
      omega

/-- The digits of a natural number spell it. -/
theorem spells_toDigits (n : Nat) :
    SpellsNumeral ⟨false, Nat.toDigits 10 n, [], none⟩ (Nat.toDigits 10 n) := by
  have hdigits : Digits (Nat.toDigits 10 n) :=
    ⟨Nat.toDigits_ne_nil, fun c hc => isDigit_of_mem_toDigits hc⟩
  have hparts := SpellsUnsigned.parts false _ [] none [] [] hdigits (head?_toDigits n) .absent .absent
  rw [List.append_nil, List.append_nil] at hparts
  exact .positive _ _ rfl hparts

/-! ## 3. Values -/

/-- A number that is kept exactly. -/
def Number.Exact : Number → Prop
  | .whole n => 0 ≤ n ∧ n ≤ greatestU64
  | .real _ _ => False

mutual

/-- All numbers in the value are natural numbers of 64 bits. -/
def Exact : Json → Prop
  | .number n => n.Exact
  | .list items => ExactItems items
  | .object members => ExactMembers members
  | _ => True

def ExactItems : List Json → Prop
  | [] => True
  | v :: vs => Exact v ∧ ExactItems vs

def ExactMembers : List (String × Json) → Prop
  | [] => True
  | (_, v) :: rest => Exact v ∧ ExactMembers rest

end

theorem exact_list {items : List Json} : Exact (.list items) ↔ ∀ v ∈ items, Exact v := by
  show ExactItems items ↔ _
  induction items with
  | nil => simp [ExactItems]
  | cons v vs ih => simp [ExactItems, ih]

theorem exact_object {members : List (String × Json)} :
    Exact (.object members) ↔ ∀ m ∈ members, Exact m.2 := by
  show ExactMembers members ↔ _
  induction members with
  | nil => simp [ExactMembers]
  | cons m ms ih => simp [ExactMembers, ih]

theorem exact_nat {n : Nat} (h : n ≤ greatestU64) : Exact (.nat n) :=
  ⟨Int.natCast_nonneg n, by exact_mod_cast h⟩

/-- The number of a natural numeral of 64 bits. -/
theorem number?_toDigits {n : Nat} (h : n ≤ greatestU64) :
    Numeral.number? ⟨false, Nat.toDigits 10 n, [], none⟩ = some (.whole n) := by
  simp [Numeral.number?, Nat.ofDigitChars_ten_toDigits, h]

theorem Number.Exact.eq_nat {n : Number} (h : n.Exact) :
    ∃ m : Nat, n = .whole m ∧ m ≤ greatestU64 := by
  cases n with
  | whole n =>
    obtain ⟨hpos, hbound⟩ := h
    refine ⟨n.toNat, ?_, ?_⟩
    · rw [Int.toNat_of_nonneg hpos]
    · omega
  | real negative x => exact h.elim

theorem describe_nat (n : Nat) : (Number.describe (.whole n)).toList = Nat.toDigits 10 n := by
  show (Nat.repr n).toList = _
  rw [Nat.toList_repr]

theorem spells_number {n : Number} (h : n.Exact) :
    Spells (Outline.ofValue (.number n)) (write (.number n)) := by
  obtain ⟨m, rfl, hm⟩ := h.eq_nat
  have hspells := Spells.number _ _ (spells_toDigits m)
  rw [number?_toDigits hm] at hspells
  show Spells _ (Number.describe (.whole m)).toList
  rw [describe_nat]
  exact hspells

mutual

/-- **What is written for a value spells its outline.** -/
theorem spells_write : ∀ v : Json, v.Exact → Spells (Outline.ofValue v) (write v)
  | .null, _ => .null
  | .bool true, _ => .yes
  | .bool false, _ => .no
  | .number _, h => spells_number h
  | .text s, _ => .text _ _ (spells_pieces s.toList)
  | .list [], _ => .emptyList [] blank_nil
  | .list (v :: vs), h => by
    obtain ⟨ds, hds, heq⟩ := spells_writeItems vs h.2 _ _ (spells_write v h.1)
    show Spells _ ('[' :: (write v ++ writeItems vs))
    rw [heq]
    exact .list _ ds hds
  | .object [], _ => .emptyObject [] blank_nil
  | .object ((k, v) :: ms), h => by
    obtain ⟨ds, hds, heq⟩ := spells_writeMembers ms h.2 k _ _ (spells_write v h.1)
    show Spells _ ('\x7b' :: (writeText k ++ ':' :: write v ++ writeMembers ms))
    rw [heq]
    exact .object _ ds hds

/-- An item, and what is written for the others. -/
theorem spells_writeItems : ∀ vs : List Json, ExactItems vs → ∀ o cs, Spells o cs →
    ∃ ds, SpellsItems (.cons o (Items.ofValues vs)) ds ∧ cs ++ writeItems vs = ds ++ [']']
  | [], _, o, cs, ho => ⟨cs, .last o cs ho, rfl⟩
  | v :: vs, h, o, cs, ho => by
    obtain ⟨ds, hds, heq⟩ := spells_writeItems vs h.2 _ _ (spells_write v h.1)
    refine ⟨cs ++ ',' :: ds, .cons o _ cs ds ho hds, ?_⟩
    show cs ++ ',' :: (write v ++ writeItems vs) = _
    rw [heq, List.append_assoc, List.cons_append]

/-- A member, and what is written for the others. -/
theorem spells_writeMembers : ∀ ms : List (String × Json), ExactMembers ms → ∀ k o cs,
    Spells o cs → ∃ ds, SpellsMembers (.cons (pieces k) o (Members.ofValues ms)) ds ∧
      writeText k ++ ':' :: cs ++ writeMembers ms = ds ++ ['\x7d']
  | [], _, k, o, cs, ho =>
    ⟨_, .last (pieces k) o [] _ [] cs blank_nil (spells_pieces k.toList) blank_nil ho,
      by simp [writeText, writeMembers]⟩
  | (k', v) :: ms, h, k, o, cs, ho => by
    obtain ⟨ds, hds, heq⟩ := spells_writeMembers ms h.2 k' _ _ (spells_write v h.1)
    refine ⟨_, .cons (pieces k) o _ [] _ [] cs ds blank_nil (spells_pieces k.toList) blank_nil ho
      hds, ?_⟩
    show writeText k ++ ':' :: cs ++ ',' :: (writeText k' ++ ':' :: write v ++ writeMembers ms) = _
    rw [heq]
    simp [writeText]

end

/-- **What is written reads back**, and nothing is left over. -/
theorem ofText_toText (v : Json) (hv : v.Exact) :
    Outline.ofText v.toText = (Outline.ofValue v, true) := by
  rw [ofText_iff, toText, String.toList_ofList]
  exact spells_write v hv

end CardLink.Json
