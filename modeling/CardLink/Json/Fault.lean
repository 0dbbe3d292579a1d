import CardLink.Json.Value
import CardLink.Text.Hex
import CardLink.Text.Quoted

/-!
# Why a JSON text does not decode

Either the text is not JSON (`malformed`), or it is JSON but not of the wanted shape. The wording
of each cause is in `Fault.message`. Two things are left out of it: what exactly is wrong with a text
that is not JSON, and the line and column at the end of every message.
-/

namespace CardLink.Json

/-- What stood in the text where something else was wanted. -/
inductive Found where
  | null
  | bool (b : Bool)
  | number (n : Number)
  | text (s : String)
  | list
  | map
deriving DecidableEq, Repr

/-- What a decoder wants to find. -/
inductive Wanted where
  | text | bool | list | map
  | u16 | u64 | usize | i64
  | unit
  | textOrMap
  | record (name : String)
deriving DecidableEq, Repr

/-- Why a text does not decode. -/
inductive Fault where
  /-- the text breaks the rules of JSON -/
  | malformed
  | missing (field : String)
  | duplicate (field : String)
  | wrongType (found : Found) (wanted : Wanted)
  | wrongValue (found : Found) (wanted : Wanted)
  /-- a name that is none of the listed ones -/
  | unknownVariant (given : String) (known : List String)
  /-- an object of several members in the place of a name -/
  | severalMembers
  /-- a list too short for a record with so many fields -/
  | tooShort (length : Nat) (record : String) (fields : Nat)
  /-- a list too long for a record -/
  | tooLong (length : Nat)
  | hex (fault : Text.Hex.Fault)
deriving DecidableEq, Repr

def Number.describe : Number → String
  | .whole n => toString n
  | .real negative x => x.text negative

def Found.describe : Found → String
  | .null => "null"
  | .bool b => "boolean `" ++ (if b then "true" else "false") ++ "`"
  | .number (.whole n) => "integer `" ++ toString n ++ "`"
  | .number (.real negative x) => "floating point `" ++ x.text negative ++ "`"
  | .text s => "string " ++ Text.quoted s
  | .list => "sequence"
  | .map => "map"

def Wanted.describe : Wanted → String
  | .text => "a string"
  | .bool => "a boolean"
  | .list => "a sequence"
  | .map => "a map"
  | .u16 => "u16"
  | .u64 => "u64"
  | .usize => "usize"
  | .i64 => "i64"
  | .unit => "unit"
  | .textOrMap => "string or map"
  | .record name => "struct " ++ name

/-- A name between backquotes. -/
def ticked (name : String) : String := "`" ++ name ++ "`"

/-- One name, two names joined by `or`, or a list. -/
def oneOf : List String → String
  | [] => "there are no variants"
  | [a] => "expected " ++ ticked a
  | [a, b] => "expected " ++ ticked a ++ " or " ++ ticked b
  | names => "expected one of " ++ ", ".intercalate (names.map ticked)

def hexMessage : Text.Hex.Fault → String
  | .oddLength => "Odd number of digits"
  | .badDigit c position =>
    "Invalid character " ++ Text.quotedChar c ++ " at position " ++ toString position

def elements (n : Nat) : String := toString n ++ (if n = 1 then " element" else " elements")

/-- The text of a fault, without the line and column that follow it. One text, made up here, stands
for all texts of faults of syntax. -/
def Fault.message : Fault → String
  | .malformed => "JSON syntax error"
  | .missing field => "missing field " ++ ticked field
  | .duplicate field => "duplicate field " ++ ticked field
  | .wrongType found wanted => "invalid type: " ++ found.describe ++ ", expected " ++ wanted.describe
  | .wrongValue found wanted => "invalid value: " ++ found.describe ++ ", expected " ++ wanted.describe
  | .unknownVariant given known => "unknown variant " ++ ticked given ++ ", " ++ oneOf known
  | .severalMembers => "invalid value: map, expected map with a single key"
  | .tooShort length record fields =>
    "invalid length " ++ toString length ++ ", expected struct " ++ record ++ " with " ++
      elements fields
  | .tooLong length =>
    "invalid length " ++ toString length ++ ", expected fewer elements in array"
  | .hex fault => hexMessage fault

end CardLink.Json
