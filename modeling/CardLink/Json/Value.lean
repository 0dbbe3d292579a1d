import CardLink.Number.Shortest
import CardLink.Table

/-!
# JSON values

A value is what a JSON text stands for. An object keeps its members in a list: a value that is
about to be written lists them in writing order, a value that was read lists them by key, each key
once. `get?` finds a member.
-/

namespace CardLink

/-- The number a JSON numeral stands for. Whole numbers of 64 bits are kept exactly, all others are
of double precision. -/
inductive Json.Number where
  | whole (n : Int)
  | real (negative : Bool) (x : Number.Binary)
deriving DecidableEq, Repr

/-- A JSON value. -/
inductive Json where
  | null
  | bool (b : Bool)
  | number (n : Json.Number)
  | text (s : String)
  | list (items : List Json)
  | object (members : List (String × Json))
deriving Repr, Inhabited

namespace Json

def nat (n : Nat) : Json := .number (.whole n)

def int (n : Int) : Json := .number (.whole n)

/-- `null` for an absent value. -/
def ofOption {α : Type} (f : α → Json) : Option α → Json
  | none => .null
  | some a => f a

/-- A member with this key, if the value is an object that has one. -/
def get? (key : String) : Json → Option Json
  | .object members => members.lookup key
  | _ => none

end Json

end CardLink
