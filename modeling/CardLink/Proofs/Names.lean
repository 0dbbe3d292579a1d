import CardLink.ReaderName
import CardLink.Session

/-!
# Names and identifiers tell things apart

* `ReaderName.parse?_make`: the name of a reader and its slave reads back as the two.
* **`ReaderName.make_inj`**: no two pairs share a name.
* `ReaderName.spell_of_readPart`: what is read as a part of a name is how this part is written.
* **`ReaderName.names_are_pairs`**: exactly the names of pairs are read, each as its pair.
* **`Identifier.session_inj`**, **`Identifier.call_inj`**: the two sources of ids do not repeat
  themselves.
-/

namespace CardLink

/-! ## 1. Names of readers -/

namespace ReaderName

/-- A character that needs no escape stands for itself. -/
theorem readPart_plain {c : Char} (hslash : c ≠ '\\') (hdash : c ≠ '-') (rest : List Char) :
    readPart (c :: rest) = (readPart rest).map fun p => (c :: p.1, p.2) := by
  cases rest with
  | nil => simp [readPart, hslash, hdash]
  | cons d rest => simp [readPart, hslash, hdash]

/-- The dash and the backslash are read behind a backslash. -/
theorem readPart_escaped {c : Char} (h : c = '\\' ∨ c = '-') (rest : List Char) :
    readPart ('\\' :: c :: rest) = (readPart rest).map fun p => (c :: p.1, p.2) := by
  rw [readPart, if_pos h]

/-- An escaped text is read back, whatever part follows it. -/
theorem readPart_escape_append (s rest : List Char) :
    readPart (escape s ++ rest) = (readPart rest).map fun p => (s ++ p.1, p.2) := by
  induction s with
  | nil =>
    cases h : readPart rest with
    | none => exact h
    | some p => exact h
  | cons c s ih =>
    show readPart ((escapeChar c ++ escape s) ++ rest) = _
    have hnext : (readPart (escape s ++ rest)).map (fun p => (c :: p.1, p.2)) =
        (readPart rest).map fun p => (c :: s ++ p.1, p.2) := by
      rw [ih, Option.map_map]
      rfl
    unfold escapeChar
    split
    · rename_i h
      exact (readPart_escaped h _).trans hnext
    · rename_i h
      exact (readPart_plain (fun hc => h (.inl hc)) (fun hc => h (.inr hc)) _).trans hnext

/-- One part is read up to the dash behind it. -/
theorem readPart_escape_dash (s rest : List Char) :
    readPart (escape s ++ '-' :: rest) = some (s, some rest) := by
  rw [readPart_escape_append]
  simp [readPart]

/-- The last part is read to the end. -/
theorem readPart_escape (s : List Char) : readPart (escape s) = some (s, none) := by
  have h := readPart_escape_append s []
  rw [List.append_nil] at h
  rw [h]
  simp [readPart]

/-- A name reads back as the pair that it was made of. -/
theorem parse?_make (native slave : String) :
    parse? (make native slave) = some (native, slave) := by
  have hchars : (make native slave).toList =
      lead ++ (escape native.toList ++ '-' :: escape slave.toList) := by
    rw [make, String.toList_ofList, List.append_assoc]
  have hlead : lead.isPrefixOf (make native slave).toList := by
    rw [hchars]
    exact List.isPrefixOf_iff_prefix.2 (List.prefix_append _ _)
  rw [parse?, if_pos hlead, hchars, List.drop_left, readParts, readPart_escape_dash]
  simp only [readPart_escape, Option.map_some, String.ofList_toList]

/-- **No two pairs share a name.** -/
theorem make_inj {native slave native' slave' : String}
    (h : make native slave = make native' slave') : native = native' ∧ slave = slave' := by
  have hparts : some (native, slave) = some (native', slave') := by
    rw [← parse?_make, ← parse?_make, h]
  exact Prod.mk.inj (Option.some.inj hparts)

theorem escapeChar_of_special {c : Char} (h : c = '\\' ∨ c = '-') : escapeChar c = ['\\', c] :=
  if_pos h

theorem escapeChar_of_plain {c : Char} (hslash : c ≠ '\\') (hdash : c ≠ '-') :
    escapeChar c = [c] :=
  if_neg (not_or.2 ⟨hslash, hdash⟩)

/-- The text that a part was read from: the part, and a dash with what follows if it does not go on
to the end. -/
def spell (p : List Char × Option (List Char)) : List Char :=
  escape p.1 ++ (p.2.map ('-' :: ·)).getD []

/-- One more character of a part. -/
theorem spell_cons (c : Char) (p : List Char × Option (List Char)) :
    spell (c :: p.1, p.2) = escapeChar c ++ spell p := by
  simp [spell, escape]

/-- **A part is read from nothing but its own spelling.** -/
theorem spell_of_readPart {cs : List Char} {p : List Char × Option (List Char)}
    (h : readPart cs = some p) : spell p = cs := by
  fun_induction readPart cs generalizing p with
  | case1 =>
    obtain rfl := Option.some.inj h
    rfl
  | case2 c rest hspecial ih =>
    obtain ⟨q, hq, rfl⟩ := Option.map_eq_some_iff.1 h
    rw [spell_cons, escapeChar_of_special hspecial, ih hq]
    rfl
  | case3 => cases h
  | case4 => cases h
  | case5 rest hlone hslash =>
    obtain rfl := Option.some.inj h
    rfl
  | case6 c rest hlone hslash hdash ih =>
    obtain ⟨q, hq, rfl⟩ := Option.map_eq_some_iff.1 h
    rw [spell_cons, escapeChar_of_plain hslash hdash, ih hq]
    rfl

/-- The name that a text was read from. -/
theorem make_of_parse? {name native slave : String} (h : parse? name = some (native, slave)) :
    make native slave = name := by
  unfold parse? at h
  split at h
  · rename_i hlead
    obtain ⟨p, hparts, heq⟩ := Option.map_eq_some_iff.1 h
    obtain ⟨rfl, rfl⟩ := Prod.mk.inj heq
    unfold readParts at hparts
    split at hparts
    · rename_i ns rest hnative
      split at hparts
      · rename_i ss hslave
        obtain rfl := Option.some.inj hparts
        have hrest : escape ss ++ [] = rest := spell_of_readPart hslave
        have hboth : escape ns ++ '-' :: rest = name.toList.drop lead.length :=
          spell_of_readPart hnative
        have hname : lead ++ name.toList.drop lead.length = name.toList :=
          List.prefix_iff_eq_append.1 (List.isPrefixOf_iff_prefix.1 hlead)
        rw [List.append_nil] at hrest
        rw [make, String.toList_ofList, String.toList_ofList, hrest, List.append_assoc, hboth,
          hname, String.ofList_toList]
      · cases hparts
    · cases hparts
  · cases h

/-- **Names stand for pairs, one for one.** A pair reads back from its name, no two pairs share a
name, and a text that is read is the name of the pair that it is read as. -/
theorem names_are_pairs :
    (∀ native slave, parse? (make native slave) = some (native, slave)) ∧
    (∀ native slave native' slave',
      make native slave = make native' slave' ↔ (native, slave) = (native', slave')) ∧
    (∀ name native slave, parse? name = some (native, slave) ↔ make native slave = name) ∧
    (∀ name, (parse? name).isSome = true ↔ ∃ native slave, make native slave = name) := by
  have hread : ∀ name native slave,
      parse? name = some (native, slave) ↔ make native slave = name := by
    intro name native slave
    constructor
    · exact make_of_parse?
    · rintro rfl
      exact parse?_make native slave
  refine ⟨parse?_make, fun native slave native' slave' => ?_, hread, fun name => ?_⟩
  · constructor
    · intro h
      exact Prod.ext_iff.2 (make_inj h)
    · intro h
      obtain ⟨rfl, rfl⟩ := Prod.mk.inj h
      rfl
  · rw [Option.isSome_iff_exists, Prod.exists]
    exact exists_congr fun native => exists_congr fun slave => hread name native slave

end ReaderName

/-! ## 2. Identifiers -/

namespace Identifier

/-- The value of a hexadecimal digit. -/
def weight (c : Char) : Nat := if c.toNat < 58 then c.toNat - 48 else c.toNat - 87

/-- The number that a row of hexadecimal digits stands for. -/
def number (ds : List Char) : Nat := ds.foldl (fun v c => 16 * v + weight c) 0

theorem weight_digitChar : ∀ d : Fin 16, weight (Nat.digitChar d) = d := by decide

theorem number_concat (ds : List Char) (c : Char) :
    number (ds ++ [c]) = 16 * number ds + weight c := by
  rw [number, List.foldl_append]
  rfl

theorem number_toDigits (n : Nat) : number (Nat.toDigits 16 n) = n := by
  induction n using Nat.strongRecOn with
  | ind n ih =>
    have hlast : weight (Nat.digitChar (n % 16)) = n % 16 :=
      weight_digitChar ⟨n % 16, Nat.mod_lt n (by decide)⟩
    by_cases hn : n < 16
    · rw [Nat.mod_eq_of_lt hn] at hlast
      rw [Nat.toDigits_of_lt_base hn]
      show 16 * 0 + weight (Nat.digitChar n) = n
      omega
    · rw [Nat.toDigits_of_base_le (by decide) (by omega), number_concat, ih (n / 16) (by omega),
        hlast]
      omega

/-- Zeros in front do not count. -/
theorem number_replicate_append (k : Nat) (ds : List Char) :
    number (List.replicate k '0' ++ ds) = number ds := by
  induction k with
  | zero => rfl
  | succ k ih =>
    rw [List.replicate_succ, List.cons_append]
    exact ih

theorem number_group (n : Nat) : number (group n) = n := by
  rw [group, number_replicate_append, number_toDigits]

theorem group_inj {m n : Nat} (h : group m = group n) : m = n := by
  rw [← number_group m, ← number_group n, h]

/-- **No id of a session is drawn twice.** -/
theorem session_inj {m n : Nat} (h : session m = session n) : m = n :=
  group_inj (List.append_cancel_left (String.ofList_injective h))

/-- **No id of a call is drawn twice.** -/
theorem call_inj {m n : Nat} (h : call m = call n) : m = n :=
  group_inj (List.append_cancel_left (String.ofList_injective h))

end Identifier

end CardLink
