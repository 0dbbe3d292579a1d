import CardLink.Number.Power

/-!
# Double precision numbers

A non-negative number of double precision is a mantissa of at most 53 bits times a power of two.
`nearest?` rounds a ratio of natural numbers to the closest such number, a tie going to the even
mantissa, and answers nothing when the ratio lies beyond the greatest one. `scaled?` is the value a
decimal numeral with a 64 bit significand gets: the significand is rounded first, then multiplied
or divided by a rounded power of ten.
-/

namespace CardLink.Number

/-- The number `mantissa * 2 ^ exponent`. -/
structure Binary where
  mantissa : Nat
  exponent : Int
deriving DecidableEq, Repr

namespace Binary

def zero : Binary := ⟨0, 0⟩

/-- The least exponent a double precision number has. -/
def leastExponent : Int := -1074

/-- The greatest exponent a double precision number with 53 bits has. -/
def greatestExponent : Int := 971

/-- The number as a ratio of natural numbers. -/
def ratio (x : Binary) : Nat × Nat :=
  if 0 ≤ x.exponent then (x.mantissa * Number.twoTo x.exponent.toNat, 1)
  else (x.mantissa, Number.twoTo (-x.exponent).toNat)

/-- The ratio `num / den` counted in units of `2 ^ exponent`: numerator and denominator. -/
def inUnits (num den : Nat) (exponent : Int) : Nat × Nat :=
  if 0 ≤ exponent then (num, den * Number.twoTo exponent.toNat) else (num * Number.twoTo (-exponent).toNat, den)

/-- The exponent at which `num / den` takes 53 bits, or the least one there is. -/
def exponentFor (num den : Nat) : Int :=
  let guess := max ((Nat.log2 num : Int) - Nat.log2 den - 53) leastExponent
  let (n, d) := inUnits num den guess
  if Number.twoTo 53 ≤ n / d then guess + 1 else guess

/-- The quotient rounded to the nearest natural number, a tie going to the even one. -/
def roundDiv (n d : Nat) : Nat :=
  let q := n / d
  let r := n % d
  if d < 2 * r ∨ (2 * r = d ∧ q % 2 = 1) then q + 1 else q

/-- The double precision number nearest to `num / den`. -/
def nearest? (num den : Nat) : Option Binary :=
  if num = 0 then some zero
  else
    let e := exponentFor num den
    let (n, d) := inUnits num den e
    let m := roundDiv n d
    let x : Binary := if m = Number.twoTo 53 then ⟨Number.twoTo 52, e + 1⟩ else ⟨m, e⟩
    if x.mantissa = 0 then some zero
    else if greatestExponent < x.exponent then none
    else some x

def mul? (x y : Binary) : Option Binary :=
  nearest? (x.ratio.1 * y.ratio.1) (x.ratio.2 * y.ratio.2)

def div? (x y : Binary) : Option Binary :=
  nearest? (x.ratio.1 * y.ratio.2) (x.ratio.2 * y.ratio.1)

/-- The power of ten, rounded. Exponents up to 308 are within range. -/
def tenTo (n : Nat) : Binary := (nearest? (Number.tenTo n) 1).getD zero

/-- Steps of 308 decimal places, `rounds` of them at most; a significand of 64 bits has vanished
after the second one. -/
def scaleBy? : Nat → Binary → Int → Option Binary
  | 0, x, _ => some x
  | rounds + 1, x, exponent =>
    if exponent.natAbs ≤ 308 then
      if 0 ≤ exponent then mul? x (tenTo exponent.natAbs) else div? x (tenTo exponent.natAbs)
    else if x.mantissa = 0 then some zero
    else if 0 ≤ exponent then none
    else match div? x (tenTo 308) with
      | none => none
      | some y => scaleBy? rounds y (exponent + 308)

/-- The number for `significand * 10 ^ exponent`, if it is within range. -/
def scaled? (significand : Nat) (exponent : Int) : Option Binary :=
  match nearest? significand 1 with
  | none => none
  | some x => scaleBy? 4 x exponent

/-- One or more. -/
def atLeastOne (x : Binary) : Bool := decide (x.ratio.2 ≤ x.ratio.1)

example : scaled? 15 (-1) = some ⟨3 * Number.twoTo 51, -52⟩ := by decide +kernel
example : scaled? 1 309 = none := by decide +kernel

end Binary

end CardLink.Number
