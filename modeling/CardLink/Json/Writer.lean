import CardLink.Json.Fault

/-!
# Writing JSON text

The compact form: no white space, members in the order of the value. In a string the quote, the
backslash and the control characters below the space are escaped, five of them by a letter and the
others by four hexadecimal digits; all else stands for itself.
-/

namespace CardLink.Json

/-- Four hexadecimal digits for a number below 256. -/
def controlEscape (n : Nat) : List Char :=
  ['\\', 'u', '0', '0', Nat.digitChar (n / 16), Nat.digitChar (n % 16)]

/-- One character of a string. -/
def escapeChar (c : Char) : List Char :=
  if c = '"' then ['\\', '"']
  else if c = '\\' then ['\\', '\\']
  else if c = '\n' then ['\\', 'n']
  else if c = '\r' then ['\\', 'r']
  else if c = '\t' then ['\\', 't']
  else if c = '\x08' then ['\\', 'b']
  else if c = '\x0c' then ['\\', 'f']
  else if c.toNat < 0x20 then controlEscape c.toNat
  else [c]

def writeText (s : String) : List Char := '"' :: s.toList.flatMap escapeChar ++ ['"']

mutual

/-- The characters of a value. -/
def write : Json → List Char
  | .null => ['n', 'u', 'l', 'l']
  | .bool true => ['t', 'r', 'u', 'e']
  | .bool false => ['f', 'a', 'l', 's', 'e']
  | .number n => n.describe.toList
  | .text s => writeText s
  | .list [] => ['[', ']']
  | .list (v :: vs) => '[' :: write v ++ writeItems vs
  | .object [] => ['\x7b', '\x7d']
  | .object ((k, v) :: rest) => '\x7b' :: writeText k ++ ':' :: write v ++ writeMembers rest

/-- Items after the first, and the closing bracket. -/
def writeItems : List Json → List Char
  | [] => [']']
  | v :: vs => ',' :: write v ++ writeItems vs

/-- Members after the first, and the closing brace. -/
def writeMembers : List (String × Json) → List Char
  | [] => ['\x7d']
  | (k, v) :: rest => ',' :: writeText k ++ ':' :: write v ++ writeMembers rest

end

/-- The text of a value. -/
def toText (v : Json) : String := String.ofList (write v)

example : toText (.object [("a", .list [.null, .bool true]), ("b", .text "\"")]) =
    "\x7b\"a\":[null,true],\"b\":\"\\\"\"\x7d" := by decide +kernel

end CardLink.Json
