import CardLink.Json.Value

/-!
# The outline of a JSON text

An outline is a JSON text cut into its parts, in the order of the text and with all its members,
also repeated ones. Where the text breaks the rules of JSON the outline ends in `broken`, so that
whoever walks it from left to right meets a fault of shape before a later fault of syntax. A string
is kept in pieces, because an escape may name half of a surrogate pair; `wording?` is the text such
pieces stand for, if they stand for one. Main definitions: `Outline.value?`, the value of a whole
and sound outline, and `Outline.ofValue`, the outline of a value.
-/

namespace CardLink.Json

/-- One piece of a string: a character, or a surrogate named by an escape. -/
inductive Piece where
  | char (c : Char)
  | surrogate (n : Nat)
deriving DecidableEq, Repr

mutual

/-- A JSON text cut into its parts. -/
inductive Outline where
  | null
  | bool (b : Bool)
  /-- a numeral, with its number unless that is out of range -/
  | number (n : Option Number)
  | text (pieces : List Piece)
  | list (items : Items)
  | map (members : Members)
  /-- here the text breaks the rules of JSON -/
  | broken

/-- The items of a list. -/
inductive Items where
  | closed
  | broken
  | cons (head : Outline) (tail : Items)

/-- The members of an object. -/
inductive Members where
  | closed
  | broken
  | cons (key : List Piece) (value : Outline) (tail : Members)

end

/-! ## Strings -/

/-- The character for a pair of surrogates. -/
def joinSurrogates (high low : Nat) : Char :=
  Char.ofNat ((high - 0xD800) * 0x400 + (low - 0xDC00) + 0x10000)

/-- The characters of a string; nothing if a surrogate stands alone. -/
def characters? : List Piece → Option (List Char)
  | [] => some []
  | .char c :: rest => (characters? rest).map (c :: ·)
  | .surrogate high :: .surrogate low :: rest =>
    if high < 0xDC00 ∧ 0xDC00 ≤ low then (characters? rest).map (joinSurrogates high low :: ·)
    else none
  | .surrogate _ :: _ => none

/-- The text that pieces stand for. -/
def wording? (pieces : List Piece) : Option String := (characters? pieces).map String.ofList

/-- The pieces of a text. -/
def pieces (s : String) : List Piece := s.toList.map .char

theorem characters?_map_char (cs : List Char) : characters? (cs.map .char) = some cs := by
  induction cs with
  | nil => rfl
  | cons c cs ih => simp [characters?, ih]

@[simp] theorem wording?_pieces (s : String) : wording? (pieces s) = some s := by
  simp [wording?, pieces, characters?_map_char]

/-! ## From outline to value -/

mutual

/-- Lists and objects around the innermost part. -/
def Outline.depth : Outline → Nat
  | .list items => items.depth + 1
  | .map members => members.depth + 1
  | _ => 0

def Items.depth : Items → Nat
  | .cons head tail => max head.depth tail.depth
  | _ => 0

def Members.depth : Members → Nat
  | .cons _ value tail => max value.depth tail.depth
  | _ => 0

end

mutual

/-- The value of an outline that is whole and sound, without regard to its depth. Of members with
one key the last one counts. -/
def Outline.content? : Outline → Option Json
  | .null => some .null
  | .bool b => some (.bool b)
  | .number n => n.map .number
  | .text pieces => (wording? pieces).map .text
  | .list items => items.contents?.map .list
  | .map members => (members.contents? []).map .object
  | .broken => none

def Items.contents? : Items → Option (List Json)
  | .closed => some []
  | .broken => none
  | .cons head tail =>
    match head.content? with
    | none => none
    | some v => tail.contents?.map (v :: ·)

/-- Members are gathered in `sofar`, by key. -/
def Members.contents? (sofar : List (String × Json)) : Members → Option (List (String × Json))
  | .closed => some sofar
  | .broken => none
  | .cons key value tail =>
    match wording? key, value.content? with
    | some k, some v => tail.contents? (insertEntry k v sofar)
    | _, _ => none

end

/-- The greatest depth of a value. -/
def depthLimit : Nat := 127

/-- The value of an outline. -/
def Outline.value? (o : Outline) : Option Json :=
  if o.depth ≤ depthLimit then o.content? else none

mutual

/-- Whether skipping over this part meets a fault of syntax. Numbers out of range, lone surrogates
and any depth are passed over. -/
def Outline.isBroken : Outline → Bool
  | .list items => items.isBroken
  | .map members => members.isBroken
  | .broken => true
  | _ => false

def Items.isBroken : Items → Bool
  | .closed => false
  | .broken => true
  | .cons head tail => head.isBroken || tail.isBroken

def Members.isBroken : Members → Bool
  | .closed => false
  | .broken => true
  | .cons _ value tail => value.isBroken || tail.isBroken

end

/-! ## From value to outline -/

mutual

/-- The outline of a value. -/
def Outline.ofValue : Json → Outline
  | .null => .null
  | .bool b => .bool b
  | .number n => .number (some n)
  | .text s => .text (pieces s)
  | .list items => .list (Items.ofValues items)
  | .object members => .map (Members.ofValues members)

def Items.ofValues : List Json → Items
  | [] => .closed
  | v :: vs => .cons (Outline.ofValue v) (Items.ofValues vs)

def Members.ofValues : List (String × Json) → Members
  | [] => .closed
  | (k, v) :: rest => .cons (pieces k) (Outline.ofValue v) (Members.ofValues rest)

end

/-- Items in a list. -/
def Items.length : Items → Nat
  | .cons _ tail => tail.length + 1
  | _ => 0

end CardLink.Json
