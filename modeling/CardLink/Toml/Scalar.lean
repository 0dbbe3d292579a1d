import CardLink.Toml.Text

/-!
# TOML: numbers, dates and truth values

Whole numbers have 64 bits with sign and may be written in four bases; underscores stand between
digits only. Dates and times are checked against the calendar.
-/

namespace CardLink.Toml

open Json (digitValue)

/-- A value that is no list and no table. Numbers with a point, dates and truth values are only
told apart from the rest. -/
inductive Scalar where
  | text (s : String)
  | whole (n : Int)
  | other
deriving DecidableEq, Repr

/-! ## 1. Digits -/

/-- Digits with single underscores between them. -/
def readDigits (isDigit : Char → Bool) : Reader (List Char)
  | c :: '_' :: d :: rest =>
    if isDigit c then
      if isDigit d then (readDigits isDigit (d :: rest)).map fun p => (c :: p.1, p.2)
      else some ([c], '_' :: d :: rest)
    else none
  | c :: rest =>
    if isDigit c then
      match readDigits isDigit rest with
      | some (ds, r) => some (c :: ds, r)
      | none => some ([c], rest)
    else none
  | [] => none

/-- Digits that do not begin with a zero, or a single zero. -/
def readDecimal : Reader (List Char)
  | '0' :: rest => some (['0'], rest)
  | cs => readDigits Char.isDigit cs

/-- A sign, if there is one: whether it is a minus, and what follows. -/
def readSign : List Char → Bool × List Char
  | '-' :: r => (true, r)
  | '+' :: r => (false, r)
  | cs => (false, cs)

def within64 (n : Int) : Bool := -(Number.twoTo 63 : Int) ≤ n && n < Number.twoTo 63

/-- A whole number within its bounds. -/
def wholeOf? (n : Int) : Option Scalar := if within64 n then some (.whole n) else none

/-- Digits of a base that is a power of two. -/
def readBased (base : Nat) (isDigit : Char → Bool) (cs : List Char) : Option (Scalar × List Char) :=
  match readDigits isDigit cs with
  | none => none
  | some (ds, r) =>
    let n := ds.foldl (fun n c => n * base + (Json.hexDigit? c).getD 0) 0
    (wholeOf? n).map fun s => (s, r)

def readWhole : Reader Scalar
  | '0' :: 'x' :: r => readBased 16 (fun c => (Json.hexDigit? c).isSome) r
  | '0' :: 'o' :: r => readBased 8 (fun c => '0' ≤ c && c ≤ '7') r
  | '0' :: 'b' :: r => readBased 2 (fun c => c == '0' || c == '1') r
  | cs =>
    let (negative, r) := readSign cs
    match readDecimal r with
    | none => none
    | some (ds, r) =>
      let n : Int := Nat.ofDigitChars 10 ds 0
      (wholeOf? (if negative then -n else n)).map fun s => (s, r)

/-! ## 2. Numbers with a point or an exponent -/

/-- Whether a positive number is too great for double precision. -/
def overflows (digits : List Char) (exponent : Int) : Bool :=
  let n := Nat.ofDigitChars 10 digits 0
  if n = 0 then false
  else if exponent < 0 then false
  else if 400 < exponent then true
  else (Number.Binary.nearest? (n * Number.tenTo exponent.toNat) 1).isNone

/-- The digits after a point. -/
def readPoint : List Char → Option (Option (List Char) × List Char)
  | '.' :: r => (readDigits Char.isDigit r).map fun p => (some p.1, p.2)
  | cs => some (none, cs)

/-- An exponent. -/
def readPower : List Char → Option (Option Int × List Char)
  | c :: rest =>
    if c = 'e' ∨ c = 'E' then
      let (negative, r) := readSign rest
      (readDigits Char.isDigit r).map fun p =>
        let n : Int := Nat.ofDigitChars 10 p.1 0
        (some (if negative then -n else n), p.2)
    else some (none, c :: rest)
  | [] => some (none, [])

/-- A word for an infinite or undefined number. -/
def readSpecial : List Char → Option (List Char)
  | 'i' :: 'n' :: 'f' :: r => some r
  | 'n' :: 'a' :: 'n' :: r => some r
  | _ => none

def readReal (cs : List Char) : Option (Scalar × List Char) :=
  let (negative, r) := readSign cs
  match readSpecial r with
  | some r => some (.other, r)
  | none =>
    match readDecimal r with
    | none => none
    | some (ds, r) =>
      match readPoint r with
      | none => none
      | some (fraction, r) =>
        match readPower r with
        | none => none
        | some (power, r) =>
          if fraction = none ∧ power = none then none
          else
            let fs := fraction.getD []
            if negative = false ∧ overflows (ds ++ fs) (power.getD 0 - fs.length) then none
            else some (.other, r)

/-! ## 3. Dates and times -/

/-- A number of exactly so many digits, within bounds. -/
def readFixed (digits low high : Nat) (cs : List Char) : Option (Nat × List Char) :=
  let ds := cs.take digits
  if ds.length = digits ∧ ds.all Char.isDigit then
    let n := Nat.ofDigitChars 10 ds 0
    if low ≤ n ∧ n ≤ high then some (n, cs.drop digits) else none
  else none

/-- The character that has to stand here. -/
def expect (c : Char) : List Char → Option (List Char)
  | d :: r => if d = c then some r else none
  | [] => none

def isLeap (year : Nat) : Bool := year % 4 == 0 && (year % 100 != 0 || year % 400 == 0)

def daysIn (year month : Nat) : Nat :=
  if month = 2 then (if isLeap year then 29 else 28)
  else if month = 4 ∨ month = 6 ∨ month = 9 ∨ month = 11 then 30
  else 31

/-- What follows a date. -/
def skipDate (cs : List Char) : Option (List Char) := do
  let (year, r) ← readFixed 4 0 9999 cs
  let r ← expect '-' r
  let (month, r) ← readFixed 2 1 12 r
  let r ← expect '-' r
  let (_, r) ← readFixed 2 1 (daysIn year month) r
  some r

/-- What follows a time of day. -/
def skipTime (cs : List Char) : Option (List Char) := do
  let (_, r) ← readFixed 2 0 23 cs
  let r ← expect ':' r
  let (_, r) ← readFixed 2 0 59 r
  let r ← expect ':' r
  let (_, r) ← readFixed 2 0 60 r
  match r with
  | '.' :: r' => if (r'.takeWhile Char.isDigit) = [] then some r else some (r'.dropWhile Char.isDigit)
  | _ => some r

/-- What follows the offset of a time, if there is one. -/
def skipOffset (cs : List Char) : Option (List Char) :=
  match cs with
  | c :: r =>
    if c = 'Z' ∨ c = 'z' then some r
    else if c = '+' ∨ c = '-' then do
      let (_, r) ← readFixed 2 0 23 r
      let r ← expect ':' r
      let (_, r) ← readFixed 2 0 59 r
      some r
    else some cs
  | [] => some []

/-- A date, a time, or both. -/
def readMoment (cs : List Char) : Option (Scalar × List Char) :=
  match skipDate cs with
  | some r =>
    match r with
    | c :: r' =>
      if c = 'T' ∨ c = 't' ∨ c = ' ' then
        match skipTime r' with
        | some r'' => (skipOffset r'').map fun r => (.other, r)
        | none => some (.other, r)
      else some (.other, r)
    | [] => some (.other, [])
  | none => (skipTime cs).map fun r => (.other, r)

/-! ## 4. Any scalar -/

def readTruth : List Char → Option (Scalar × List Char)
  | 't' :: 'r' :: 'u' :: 'e' :: r => some (.other, r)
  | 'f' :: 'a' :: 'l' :: 's' :: 'e' :: r => some (.other, r)
  | _ => none

def readScalar (cs : List Char) : Option (Scalar × List Char) :=
  match cs with
  | [] => none
  | c :: _ =>
    if c = '"' ∨ c = '\'' then (readString cs).map fun p => (.text p.1, p.2)
    else if c = 't' ∨ c = 'f' then readTruth cs
    else (readMoment cs).or ((readReal cs).or (readWhole cs))

end CardLink.Toml
