import CardLink.Json.Decode

/-!
# Records

A record is written as an object with its fields in a fixed order, and may be read from an object or
from a list of the field values in that order. An object is walked as it stands: a repeated field is
a fault, a member that is no field is skipped, and only at its end the first missing field is
reported. A list may leave out fields at its end that may be missing. `Record.entries` yields the
fields that were given; `required`, `optional` and `withDefault` take one of them.
-/

namespace CardLink.Json

/-- One field of a record. -/
structure Field where
  name : String
  /-- whether it may be missing -/
  optional : Bool
  /-- the fault of a value given for the field -/
  check : Source → Outline → Except Fault Unit

/-- A field that has to be given. -/
def Field.needed {α : Type} (name : String) (d : Decoder α) : Field :=
  ⟨name, false, fun src o => (d src o).map fun _ => ()⟩

/-- A field that may be missing. -/
def Field.free {α : Type} (name : String) (d : Decoder α) : Field :=
  ⟨name, true, fun src o => (d src o).map fun _ => ()⟩

/-- Fields with the outlines given for them. -/
abbrev Entries := List (String × Outline)

namespace Record

/-- Walks the members of an object; `sofar` holds the fields met before. -/
def ofMembers (src : Source) (fields : List Field) (sofar : Entries) :
    Members → Except Fault Entries
  | .closed => .ok sofar
  | .broken => .error .malformed
  | .cons key o rest =>
    match wording? key with
    | none => .error .malformed
    | some name =>
      match fields.find? (·.name == name) with
      | none => if o.isBroken then .error .malformed else ofMembers src fields sofar rest
      | some field =>
        if (sofar.lookup name).isSome then .error (.duplicate name)
        else
          match field.check src o with
          | .error e => .error e
          | .ok () => ofMembers src fields (sofar ++ [(name, o)]) rest

/-- Walks a list of field values. `record` and `count` describe the record, `position` and `length`
the place in the list and its length. -/
def ofItems (src : Source) (record : String) (count length : Nat) :
    Nat → List Field → Items → Except Fault Entries
  | _, [], .closed => .ok []
  | _, [], _ => .error (if src = .text then .malformed else .tooLong length)
  | _, _ :: _, .broken => .error .malformed
  | position, field :: fields, .closed =>
    if field.optional then ofItems src record count length (position + 1) fields .closed
    else .error (.tooShort position record count)
  | position, field :: fields, .cons o rest =>
    match field.check src o with
    | .error e => .error e
    | .ok () =>
      match ofItems src record count length (position + 1) fields rest with
      | .error e => .error e
      | .ok es => .ok ((field.name, o) :: es)

/-- The fields given for a record. -/
def entries (record : String) (fields : List Field) : Source → Outline → Except Fault Entries
  | src, .map ms => ofMembers src fields [] ms
  | src, .list is => ofItems src record fields.length is.length 0 fields is
  | _, o => o.mismatch (.record record)

end Record

namespace Entries

variable {α : Type}

/-- A field that has to be given. -/
def required (es : Entries) (src : Source) (name : String) (d : Decoder α) : Except Fault α :=
  match es.lookup name with
  | none => .error (.missing name)
  | some o => d src o

/-- A field that is absent when missing or `null`. -/
def optional (es : Entries) (src : Source) (name : String) (d : Decoder α) :
    Except Fault (Option α) :=
  match es.lookup name with
  | none => .ok none
  | some o => d.optional src o

/-- A field with a value for when it is missing. -/
def withDefault (es : Entries) (src : Source) (name : String) (default : α) (d : Decoder α) :
    Except Fault α :=
  match es.lookup name with
  | none => .ok default
  | some o => d src o

end Entries

/-! ## Writing -/

/-- A member that is left out when its value is absent. -/
def member? {α : Type} (name : String) (f : α → Json) : Option α → List (String × Json)
  | none => []
  | some a => [(name, f a)]

/-- Bytes in hexadecimal. -/
def bytes (bs : List UInt8) : Json := .text (Text.Hex.encode bs)

end CardLink.Json
