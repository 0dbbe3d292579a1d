import CardLink.Json.Outline

/-!
# Reading JSON text

`Outline.ofText` cuts a text into its outline and says whether anything but white space follows;
`parse?` is the value of a text. White space is the four characters that JSON names. The reader
goes forward one character at a time; its fuel is twice the length of the text, which covers the
two calls that a character can cost.
-/

namespace CardLink.Json

/-! ## 1. Strings -/

/-- White space between the parts of a text. -/
def isSpace (c : Char) : Bool := c = ' ' || c = '\n' || c = '\t' || c = '\r'

def skipSpace (cs : List Char) : List Char := cs.dropWhile isSpace

/-- The value of a hexadecimal digit of either case. -/
def hexDigit? (c : Char) : Option Nat :=
  let n := c.toNat
  if 48 ≤ n ∧ n ≤ 57 then some (n - 48)
  else if 97 ≤ n ∧ n ≤ 102 then some (n - 87)
  else if 65 ≤ n ∧ n ≤ 70 then some (n - 55)
  else none

/-- The number that four hexadecimal digits name. -/
def hexUnit? (a b c d : Char) : Option Nat :=
  match hexDigit? a, hexDigit? b, hexDigit? c, hexDigit? d with
  | some a, some b, some c, some d => some (((a * 16 + b) * 16 + c) * 16 + d)
  | _, _, _, _ => none

/-- The piece for a code unit: a character, or half of a surrogate pair. -/
def Piece.ofUnit (n : Nat) : Piece :=
  if 0xD800 ≤ n ∧ n < 0xE000 then .surrogate n else .char (Char.ofNat n)

/-- The character a short escape stands for. -/
def unescape? : Char → Option Char
  | '"' => some '"'
  | '\\' => some '\\'
  | '/' => some '/'
  | 'b' => some '\x08'
  | 'f' => some '\x0c'
  | 'n' => some '\n'
  | 'r' => some '\r'
  | 't' => some '\t'
  | _ => none

/-- The pieces up to the closing quote, and what follows it. -/
def readPieces : List Char → Option (List Piece × List Char)
  | [] => none
  | '"' :: rest => some ([], rest)
  | '\\' :: 'u' :: a :: b :: c :: d :: rest =>
    match hexUnit? a b c d, readPieces rest with
    | some n, some (ps, r) => some (.ofUnit n :: ps, r)
    | _, _ => none
  | '\\' :: e :: rest =>
    match unescape? e, readPieces rest with
    | some c, some (ps, r) => some (.char c :: ps, r)
    | _, _ => none
  | c :: rest =>
    if c.toNat < 0x20 ∨ c = '\\' then none
    else match readPieces rest with
      | some (ps, r) => some (.char c :: ps, r)
      | none => none

/-! ## 2. Numerals -/

/-- A numeral in its parts. -/
structure Numeral where
  negative : Bool
  whole : List Char
  fraction : List Char
  /-- whether the exponent is negative, and its digits -/
  exponent : Option (Bool × List Char)

def digitsOf (cs : List Char) : List Char × List Char :=
  (cs.takeWhile Char.isDigit, cs.dropWhile Char.isDigit)

/-- The part after the point, empty when there is no point. -/
def readFraction : List Char → Option (List Char × List Char)
  | '.' :: rest =>
    let (ds, r) := digitsOf rest
    if ds = [] then none else some (ds, r)
  | cs => some ([], cs)

/-- The digits of an exponent, after its letter and sign. -/
def readExponentDigits (negative : Bool) (cs : List Char) :
    Option (Option (Bool × List Char) × List Char) :=
  let (ds, r) := digitsOf cs
  if ds = [] then none else some (some (negative, ds), r)

def readExponent : List Char → Option (Option (Bool × List Char) × List Char)
  | c :: rest =>
    if c = 'e' ∨ c = 'E' then
      match rest with
      | '+' :: r => readExponentDigits false r
      | '-' :: r => readExponentDigits true r
      | r => readExponentDigits false r
    else some (none, c :: rest)
  | [] => some (none, [])

/-- A numeral without its sign. Several digits do not begin with a zero. -/
def readUnsigned (negative : Bool) (cs : List Char) : Option (Numeral × List Char) :=
  let (ds, r) := digitsOf cs
  if ds = [] ∨ (ds.head? = some '0' ∧ ds.length ≠ 1) then none
  else
    match readFraction r with
    | none => none
    | some (fraction, r) =>
      match readExponent r with
      | none => none
      | some (exponent, r) => some (⟨negative, ds, fraction, exponent⟩, r)

def readNumeral : List Char → Option (Numeral × List Char)
  | '-' :: rest => readUnsigned true rest
  | cs => readUnsigned false cs

/-- The greatest natural number of 64 bits. -/
def greatestU64 : Nat := Number.word64 - 1

def digitValue (c : Char) : Nat := c.toNat - 48

/-- Takes digits into a significand as long as it stays within 64 bits; the second part counts the
digits that were left out. -/
def gather (significand : Nat) : List Char → Nat × Nat
  | [] => (significand, 0)
  | c :: cs =>
    let next := significand * 10 + digitValue c
    if greatestU64 < next then (significand, cs.length + 1) else gather next cs

/-- The power of ten that an exponent part names. -/
def exponentValue : Option (Bool × List Char) → Int
  | none => 0
  | some (negative, ds) =>
    let n : Int := Nat.ofDigitChars 10 ds 0
    if negative then -n else n

/-- The number of a numeral, unless it is out of range. Without point and exponent a number of 64
bits is whole, save the negative zero. -/
def Numeral.number? (n : Numeral) : Option Number :=
  let value := Nat.ofDigitChars 10 n.whole 0
  let plain := n.fraction = [] ∧ n.exponent = none
  if plain ∧ n.negative = false ∧ value ≤ greatestU64 then some (.whole value)
  else if plain ∧ n.negative = true ∧ 1 ≤ value ∧ value ≤ Number.twoTo 63 then some (.whole (-value))
  else
    let (whole, dropped) := gather 0 n.whole
    let (significand, left) := gather whole n.fraction
    let places : Int := n.fraction.length - left
    let power := dropped - places + exponentValue n.exponent
    if significand = 0 then some (.real n.negative .zero)
    else (Number.Binary.scaled? significand power).map (.real n.negative)

/-! ## 3. Values -/

/-- Reads the rest of a word whose first letter was seen. -/
def readWord (word : List Char) (o : Outline) (cs : List Char) : Outline × Option (List Char) :=
  if word.isPrefixOf cs then (o, some (cs.drop word.length)) else (.broken, none)

mutual

/-- One value, and what follows it unless a fault was met. -/
def readOutline : Nat → List Char → Outline × Option (List Char)
  | 0, _ => (.broken, none)
  | fuel + 1, cs =>
    match skipSpace cs with
    | [] => (.broken, none)
    | c :: rest =>
      if c = '"' then
        match readPieces rest with
        | some (ps, r) => (.text ps, some r)
        | none => (.broken, none)
      else if c = '[' then
        match skipSpace rest with
        | ']' :: r => (.list .closed, some r)
        | r =>
          match readItems fuel r with
          | (items, r) => (.list items, r)
      else if c = '\x7b' then
        match skipSpace rest with
        | '\x7d' :: r => (.map .closed, some r)
        | r =>
          match readMembers fuel r with
          | (members, r) => (.map members, r)
      else if c = 'n' then readWord ['u', 'l', 'l'] .null rest
      else if c = 't' then readWord ['r', 'u', 'e'] (.bool true) rest
      else if c = 'f' then readWord ['a', 'l', 's', 'e'] (.bool false) rest
      else
        match readNumeral (c :: rest) with
        | some (n, r) => (.number n.number?, some r)
        | none => (.broken, none)

/-- The items of a list that has some, up to its bracket. -/
def readItems : Nat → List Char → Items × Option (List Char)
  | 0, _ => (.broken, none)
  | fuel + 1, cs =>
    match readOutline fuel cs with
    | (o, none) => (.cons o .broken, none)
    | (o, some r) =>
      match skipSpace r with
      | ',' :: r =>
        match readItems fuel r with
        | (items, r) => (.cons o items, r)
      | ']' :: r => (.cons o .closed, some r)
      | _ => (.cons o .broken, none)

/-- The members of an object that has some, up to its brace. -/
def readMembers : Nat → List Char → Members × Option (List Char)
  | 0, _ => (.broken, none)
  | fuel + 1, cs =>
    match skipSpace cs with
    | '"' :: rest =>
      match readPieces rest with
      | none => (.broken, none)
      | some (key, r) =>
        match skipSpace r with
        | ':' :: r =>
          match readOutline fuel r with
          | (o, none) => (.cons key o .broken, none)
          | (o, some r) =>
            match skipSpace r with
            | ',' :: r =>
              match readMembers fuel r with
              | (members, r) => (.cons key o members, r)
            | '\x7d' :: r => (.cons key o .closed, some r)
            | _ => (.cons key o .broken, none)
        | _ => (.cons key .broken .broken, none)
    | _ => (.broken, none)

end

/-- The outline of a text, and whether the text ends with it. -/
def Outline.ofText (s : String) : Outline × Bool :=
  let cs := s.toList
  match readOutline (2 * cs.length + 2) cs with
  | (o, none) => (o, false)
  | (o, some r) => (o, (skipSpace r).isEmpty)

/-- The value of a text. -/
def parse? (s : String) : Option Json :=
  match Outline.ofText s with
  | (o, true) => o.value?
  | (_, false) => none

end CardLink.Json
