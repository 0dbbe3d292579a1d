import CardLink.Json.Reader

/-!
# TOML: spaces, comments, strings and keys

Each reader takes the characters that are left and answers with what it read and what is left then,
or with nothing if the text breaks a rule.
-/

namespace CardLink.Toml

open Json (hexDigit?)

/-- A reader of some type. -/
abbrev Reader (α : Type) := List Char → Option (α × List Char)

/-! ## 1. Spaces and comments -/

def isSpace (c : Char) : Bool := c = ' ' || c = '\t'

def skipSpace (cs : List Char) : List Char := cs.dropWhile isSpace

/-- The end of a line; what follows it, if a line ends here. -/
def newline? : List Char → Option (List Char)
  | '\n' :: rest => some rest
  | '\r' :: '\n' :: rest => some rest
  | _ => none

/-- Characters allowed in a comment or a literal string: no control but the tab. -/
def isPlain (c : Char) : Bool := c = '\t' || (0x20 ≤ c.toNat && c.toNat ≠ 0x7F)

/-- Skips a comment, if there is one. -/
def skipComment : List Char → List Char
  | '#' :: rest => rest.dropWhile isPlain
  | cs => cs

/-- Skips spaces, comments and line ends, as many rounds as given. -/
def skipLines : Nat → List Char → List Char
  | 0, cs => cs
  | rounds + 1, cs =>
    let r := skipComment (skipSpace cs)
    match newline? r with
    | some rest => skipLines rounds rest
    | none => r

/-! ## 2. Strings -/

/-- The character of a code point. -/
def scalar? (n : Nat) : Option Char := if h : n.isValidChar then some (Char.ofNatAux n h) else none

/-- The number of hexadecimal digits. -/
def hexNumber? (ds : List Char) : Option Nat :=
  ds.foldl (fun acc d => match acc, hexDigit? d with
    | some n, some v => some (n * 16 + v)
    | _, _ => none) (some 0)

/-- A code point of so many hexadecimal digits. -/
def readCodePoint (digits : Nat) (cs : List Char) : Option (Char × List Char) :=
  if (cs.take digits).length = digits then
    match (hexNumber? (cs.take digits)).bind scalar? with
    | some c => some (c, cs.drop digits)
    | none => none
  else none

/-- What follows the backslash of an escape. -/
def readEscape : Reader Char
  | 'b' :: r => some ('\x08', r)
  | 'f' :: r => some ('\x0c', r)
  | 'n' :: r => some ('\n', r)
  | 'r' :: r => some ('\r', r)
  | 't' :: r => some ('\t', r)
  | '"' :: r => some ('"', r)
  | '\\' :: r => some ('\\', r)
  | 'u' :: r => readCodePoint 4 r
  | 'U' :: r => readCodePoint 8 r
  | _ => none

/-- A string between double quotes, after the first of them. -/
def readBasic : Nat → Reader (List Char)
  | 0, _ => none
  | fuel + 1, cs =>
    match cs with
    | [] => none
    | '"' :: r => some ([], r)
    | '\\' :: r =>
      match readEscape r with
      | none => none
      | some (c, r) => (readBasic fuel r).map fun p => (c :: p.1, p.2)
    | c :: r => if isPlain c then (readBasic fuel r).map fun p => (c :: p.1, p.2) else none

/-- A string between single quotes, after the first of them. -/
def readLiteral : Reader (List Char)
  | [] => none
  | '\'' :: r => some ([], r)
  | c :: r => if isPlain c then (readLiteral r).map fun p => (c :: p.1, p.2) else none

/-- Three marks close a string of several lines, and up to two more before them belong to it. -/
def closing? (mark : Char) (cs : List Char) : Option (List Char × List Char) :=
  let run := (cs.takeWhile (· == mark)).length
  if 3 ≤ run ∧ run ≤ 5 then some (List.replicate (run - 3) mark, cs.drop run)
  else if 5 < run then some (List.replicate 2 mark, cs.drop 5)
  else none

/-- White space and line ends after a backslash at the end of a line. -/
def skipFolded : Nat → List Char → List Char
  | 0, cs => cs
  | rounds + 1, cs =>
    let r := skipSpace cs
    match newline? r with
    | some rest => skipFolded rounds rest
    | none => r

/-- A string of several lines. With `escapes` a backslash begins an escape or folds lines. -/
def readLong (escapes : Bool) (mark : Char) : Nat → Reader (List Char)
  | 0, _ => none
  | fuel + 1, cs =>
    match closing? mark cs with
    | some done => some done
    | none =>
      match newline? cs with
      | some r => (readLong escapes mark fuel r).map fun p => ('\n' :: p.1, p.2)
      | none =>
        match cs with
        | [] => none
        | c :: r =>
          if escapes && c == '\\' then
            match newline? (skipSpace r) with
            | some _ => readLong escapes mark fuel (skipFolded (r.length + 1) r)
            | none =>
              match readEscape r with
              | none => none
              | some (c, r) => (readLong escapes mark fuel r).map fun p => (c :: p.1, p.2)
          else if isPlain c then (readLong escapes mark fuel r).map fun p => (c :: p.1, p.2)
          else none

/-- A line end right after the opening marks does not count. -/
def dropFirstNewline (cs : List Char) : List Char := (newline? cs).getD cs

/-- A string of any of the four kinds. -/
def readString : Reader String
  | '"' :: '"' :: '"' :: r =>
    (readLong true '"' (r.length + 1) (dropFirstNewline r)).map fun p => (String.ofList p.1, p.2)
  | '\'' :: '\'' :: '\'' :: r =>
    (readLong false '\'' (r.length + 1) (dropFirstNewline r)).map fun p => (String.ofList p.1, p.2)
  | '"' :: r => (readBasic (r.length + 1) r).map fun p => (String.ofList p.1, p.2)
  | '\'' :: r => (readLiteral r).map fun p => (String.ofList p.1, p.2)
  | _ => none

/-! ## 3. Keys -/

def isBare (c : Char) : Bool := c.isAlphanum || c = '_' || c = '-'

/-- One part of a key. -/
def readSimpleKey : Reader String
  | '"' :: r => (readBasic (r.length + 1) r).map fun p => (String.ofList p.1, p.2)
  | '\'' :: r => (readLiteral r).map fun p => (String.ofList p.1, p.2)
  | cs =>
    match cs.takeWhile isBare with
    | [] => none
    | ds => some (String.ofList ds, cs.dropWhile isBare)

/-- The parts of a key, joined by points. -/
def readParts : Nat → Reader (List String)
  | 0, _ => none
  | fuel + 1, cs =>
    match readSimpleKey (skipSpace cs) with
    | none => none
    | some (k, r) =>
      match skipSpace r with
      | '.' :: r => (readParts fuel r).map fun p => (k :: p.1, p.2)
      | r => some ([k], r)

/-- How many parts a key may have. -/
def maxParts : Nat := 79

/-- A key of one part or several. -/
def readKey (cs : List Char) : Option (List String × List Char) :=
  match readParts (cs.length + 1) cs with
  | some (key, r) => if key.length ≤ maxParts then some (key, r) else none
  | none => none

end CardLink.Toml
