import CardLink.Json.Value
import CardLink.Session

/-!
# Labels for identifiers

Made-up identifiers differ from run to run, so a report shows labels in their place. Every text in
the form of an identifier that has no label is shown as `<uuid>`. The way back fills in the
identifier where a text names a label as `$\{label\}`.
-/

namespace CardLink

/-- Identifiers with their labels. -/
abbrev Labels := List (String × String)

namespace Labels

/-- How many characters an identifier has. -/
def width : Nat := 36

def isHexDigit (c : Char) : Bool := c.isDigit || ('a' ≤ c && c ≤ 'f')

/-- Characters in the form of an identifier: five groups of hexadecimal digits with dashes between
them. -/
def isIdentifier (cs : List Char) : Bool :=
  (cs.drop 8).head? == some '-' && cs.length == width
    && cs.zipIdx.all fun (c, i) =>
      if i == 8 || i == 13 || i == 18 || i == 23 then c == '-' else isHexDigit c

/-- Puts labels in place of identifiers. The first argument is how many characters of an identifier
that was replaced are still to be passed over. -/
def hideChars (labels : Labels) : Nat → List Char → List Char
  | _, [] => []
  | skip + 1, _ :: cs => hideChars labels skip cs
  | 0, c :: cs =>
    let head := (c :: cs).take width
    if isIdentifier head then
      ((labels.lookup (String.ofList head)).getD "<uuid>").toList
        ++ hideChars labels (width - 1) cs
    else c :: hideChars labels 0 cs

def hide (labels : Labels) (s : String) : String :=
  if s.length < width then s else String.ofList (hideChars labels 0 s.toList)

/-- Fills in identifiers where labels are named. -/
def fill (labels : Labels) (s : String) : String :=
  if s.contains '$' then
    labels.foldl (fun s l => s.replace ("$\x7b" ++ l.2 ++ "\x7d") l.1) s
  else s

end Labels

namespace Json

mutual

/-- Changes every text in a value, keys included. -/
def mapText (f : String → String) : Json → Json
  | .text s => .text (f s)
  | .list items => .list (mapTextItems f items)
  | .object members => .object (mapTextMembers f members)
  | .null => .null
  | .bool b => .bool b
  | .number n => .number n

def mapTextItems (f : String → String) : List Json → List Json
  | [] => []
  | v :: rest => mapText f v :: mapTextItems f rest

def mapTextMembers (f : String → String) : List (String × Json) → List (String × Json)
  | [] => []
  | (key, v) :: rest => (f key, mapText f v) :: mapTextMembers f rest

end

end Json

end CardLink
