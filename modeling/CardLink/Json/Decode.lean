import CardLink.Json.Fault
import CardLink.Json.Reader

/-!
# Decoding values of a wanted shape

A decoder walks an outline from left to right and the first fault ends it. `Decoder.ofText` reads a
text: the shape is checked along the way, so a value of the wrong shape is reported even if the
text breaks later. `Decoder.ofValue` reads a value. The two sources differ in what they call an odd
token in the place of a name, and a list that is too long.
-/

namespace CardLink.Json

/-- Where an outline was taken from. -/
inductive Source where
  | text
  | value
deriving DecidableEq, Repr

/-- Reads a value of some type from an outline. -/
abbrev Decoder (α : Type) := Source → Outline → Except Fault α

/-- What stands here, or a fault of syntax. -/
def Outline.found : Outline → Except Fault Found
  | .null => .ok .null
  | .bool b => .ok (.bool b)
  | .number (some n) => .ok (.number n)
  | .number none => .error .malformed
  | .text ps =>
    match wording? ps with
    | some s => .ok (.text s)
    | none => .error .malformed
  | .list _ => .ok .list
  | .map _ => .ok .map
  | .broken => .error .malformed

/-- The fault of an outline that is not of the wanted type. -/
def Outline.mismatch {α : Type} (o : Outline) (wanted : Wanted) : Except Fault α :=
  match o.found with
  | .ok found => .error (.wrongType found wanted)
  | .error e => .error e

namespace Decoder

variable {α β : Type}

def bool : Decoder Bool
  | _, .bool b => .ok b
  | _, o => o.mismatch .bool

def text : Decoder String
  | _, .text ps =>
    match wording? ps with
    | some s => .ok s
    | none => .error .malformed
  | _, o => o.mismatch .text

/-- A whole number below `bound`. -/
def natBelow (bound : Nat) (wanted : Wanted) : Decoder Nat
  | _, .number (some (.whole n)) =>
    if 0 ≤ n ∧ n.toNat < bound then .ok n.toNat
    else .error (.wrongValue (.number (.whole n)) wanted)
  | _, o => o.mismatch wanted

def u16 : Decoder UInt16 := fun src o => (natBelow Number.word16 .u16 src o).map UInt16.ofNat

/-- Bytes written in hexadecimal. -/
def bytes : Decoder (List UInt8) := fun src o =>
  match text src o with
  | .error e => .error e
  | .ok s =>
    match Text.Hex.decode s with
    | .error e => .error (.hex e)
    | .ok bs => .ok bs

/-- Nothing for `null`. -/
def optional (item : Decoder α) : Decoder (Option α)
  | _, .null => .ok none
  | src, o =>
    match item src o with
    | .error e => .error e
    | .ok a => .ok (some a)

def items (item : Outline → Except Fault α) : Items → Except Fault (List α)
  | .closed => .ok []
  | .broken => .error .malformed
  | .cons o rest =>
    match item o with
    | .error e => .error e
    | .ok a =>
      match items item rest with
      | .error e => .error e
      | .ok as => .ok (a :: as)

def list (item : Decoder α) : Decoder (List α)
  | src, .list is => items (item src) is
  | _, o => o.mismatch .list

/-- Members into a map, gathered by key; the last one of a key counts. -/
def members (item : Outline → Except Fault α) (sofar : Table α) :
    Members → Except Fault (Table α)
  | .closed => .ok sofar
  | .broken => .error .malformed
  | .cons key o rest =>
    match wording? key with
    | none => .error .malformed
    | some k =>
      match item o with
      | .error e => .error e
      | .ok a => members item (sofar.insert k a) rest

/-- A map from text. -/
def map (item : Decoder α) : Decoder (Table α)
  | src, .map ms => members (item src) .empty ms
  | _, o => o.mismatch .map

/-! ## Names -/

/-- The thing with this name. -/
def named (known : List (String × α)) (name : String) : Except Fault α :=
  match known.lookup name with
  | some a => .ok a
  | none => .error (.unknownVariant name (known.map (·.1)))

/-- The value that goes with a name given as the only member of an object. -/
def unit : Outline → Except Fault Unit
  | .null => .ok ()
  | o => o.mismatch .unit

/-- A name as the only member of an object. -/
def namedMember (known : List (String × α)) (src : Source) : Members → Except Fault α
  | .cons key o rest =>
    match src, rest with
    | .value, .cons _ _ _ => .error .severalMembers
    | _, _ =>
      match wording? key with
      | none => .error .malformed
      | some name =>
        match named known name with
        | .error e => .error e
        | .ok a =>
          match unit o, rest with
          | .error e, _ => .error e
          | .ok (), .closed => .ok a
          | .ok (), _ => .error .malformed
  | _ =>
    match src with
    | .value => .error .severalMembers
    | .text => .error .malformed

/-- One of several things, given by its name. -/
def variant (known : List (String × α)) : Decoder α
  | _, .text ps =>
    match wording? ps with
    | some name => named known name
    | none => .error .malformed
  | src, .map ms => namedMember known src ms
  | .text, _ => .error .malformed
  | .value, o => o.mismatch .textOrMap

/-! ## Running a decoder -/

/-- Decodes a text. -/
def ofText (d : Decoder α) (s : String) : Except Fault α :=
  match Outline.ofText s with
  | (o, ended) =>
    match d .text o with
    | .error e => .error e
    | .ok a => if ended then .ok a else .error .malformed

/-- Decodes a value. -/
def ofValue (d : Decoder α) (v : Json) : Except Fault α := d .value (Outline.ofValue v)

end Decoder

end CardLink.Json
