import CardLink.Number.Binary

/-!
# The shortest decimal text of a double precision number

`Decimal.shortest` finds the fewest digits that read back as the number: for each count of digits
it looks at the two neighbours on that decimal grid and takes the nearer one that rounds to the
number. `text` then writes plain places for exponents from -5 to 15 and an exponent otherwise.
-/

namespace CardLink.Number

/-- The number `digits * 10 ^ exponent`. -/
structure Decimal where
  digits : Nat
  exponent : Int
deriving DecidableEq, Repr

namespace Decimal

/-- The decimal as a ratio of natural numbers. -/
def ratio (d : Decimal) : Nat × Nat :=
  if 0 ≤ d.exponent then (d.digits * Number.tenTo d.exponent.toNat, 1)
  else (d.digits, Number.tenTo (-d.exponent).toNat)

/-- The decimal rounds to the number. -/
def ReadsAs (d : Decimal) (x : Binary) : Bool :=
  Binary.nearest? d.ratio.1 d.ratio.2 == some x

/-- Places before the point of `num / den`: the least `k` with `num / den < 10 ^ k`, negative for
small numbers. `rounds` bounds the search. -/
def leadingPlace : Nat → Nat → Nat → Int
  | 0, _, _ => 0
  | rounds + 1, num, den =>
    if den ≤ num then
      if num < 10 * den then 1 else leadingPlace rounds num (10 * den) + 1
    else if den ≤ 10 * num then 0
    else leadingPlace rounds (10 * num) den - 1

/-- The neighbours of `num / den` on the grid of decimals with this exponent. -/
def neighbours (num den : Nat) (exponent : Int) : Decimal × Decimal :=
  let q := if 0 ≤ exponent then num / (den * Number.tenTo exponent.toNat)
    else num * Number.tenTo (-exponent).toNat / den
  (⟨q, exponent⟩, ⟨q + 1, exponent⟩)

/-- Whether `num / den` lies closer to the lower neighbour than to the upper one. -/
def closerBelow (num den : Nat) (exponent : Int) : Bool :=
  let (n, d) := if 0 ≤ exponent then (num, den * Number.tenTo exponent.toNat)
    else (num * Number.tenTo (-exponent).toNat, den)
  decide (2 * (n % d) ≤ d)

/-- Tries grids from coarse to fine, `finer` of them, the current one having this exponent. -/
def search (x : Binary) (num den : Nat) : Nat → Int → Decimal
  | 0, exponent => (neighbours num den exponent).1
  | finer + 1, exponent =>
    let (lo, hi) := neighbours num den exponent
    match lo.ReadsAs x, hi.ReadsAs x with
    | true, true => if closerBelow num den exponent then lo else hi
    | true, false => lo
    | false, true => hi
    | false, false => search x num den finer (exponent - 1)

/-- Drops zeros at the end, `rounds` of them at most. -/
def trim : Nat → Decimal → Decimal
  | 0, d => d
  | rounds + 1, d =>
    if d.digits ≠ 0 ∧ d.digits % 10 = 0 then trim rounds ⟨d.digits / 10, d.exponent + 1⟩ else d

/-- The decimal with the fewest digits that rounds to the number. -/
def shortest (x : Binary) : Decimal :=
  let (num, den) := x.ratio
  let places := leadingPlace 400 num den
  trim 20 (search x num den 17 (places - 1))

/-- Plain places within 16 digits before and 5 zeros after the point, an exponent beyond. -/
def text (d : Decimal) : String :=
  let ds := Nat.toDigits 10 d.digits
  let count : Int := ds.length
  let point := count + d.exponent
  if 0 ≤ d.exponent ∧ point ≤ 16 then
    String.ofList (ds ++ List.replicate d.exponent.toNat '0' ++ ['.', '0'])
  else if 0 < point ∧ point ≤ 16 then
    String.ofList (ds.take point.toNat ++ ['.'] ++ ds.drop point.toNat)
  else if -5 < point ∧ point ≤ 0 then
    String.ofList (['0', '.'] ++ List.replicate (-point).toNat '0' ++ ds)
  else
    let mantissa := match ds with
      | first :: [] => [first]
      | first :: rest => first :: '.' :: rest
      | [] => []
    String.ofList mantissa ++ "e" ++ toString (point - 1)

end Decimal

/-- The text of a signed double precision number. -/
def Binary.text (negative : Bool) (x : Binary) : String :=
  let body := if x.mantissa = 0 then "0.0" else (Decimal.shortest x).text
  if negative then "-" ++ body else body

end CardLink.Number
