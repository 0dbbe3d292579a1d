import CardLink.Json.Record
import CardLink.Json.Writer

/-!
# Commands to a card and their responses

A command is a row of bytes with a few hints for the node that runs it; a response is a row of bytes
that ends in a status word of two bytes.
-/

namespace CardLink

open Json

/-- A command. -/
structure ApduRequest where
  bytes : List UInt8
  /-- data goes in and comes out -/
  case4 : Bool
  /-- status words that count as success besides 9000 -/
  successfulStatusCodes : List UInt16
  /-- a label for logs -/
  name : Option String
deriving DecidableEq, Repr

/-- The response to a command. -/
structure ApduResponse where
  bytes : List UInt8
  successful : Bool
deriving DecidableEq, Repr

namespace ApduRequest

def ofBytes (bytes : List UInt8) : ApduRequest := ⟨bytes, false, [], none⟩

def toJson (r : ApduRequest) : Json :=
  .object ([("bytes", Json.bytes r.bytes), ("case4", .bool r.case4)]
    ++ (if r.successfulStatusCodes = [] then []
        else [("successfulStatusCodes", .list (r.successfulStatusCodes.map fun c => .nat c.toNat))])
    ++ member? "name" .text r.name)

def fields : List Field :=
  [.needed "bytes" Decoder.bytes, .free "case4" Decoder.bool,
   .free "successfulStatusCodes" Decoder.u16.list, .free "name" Decoder.text.optional]

def decoder : Decoder ApduRequest := fun src o => do
  let es ← Record.entries "ApduRequest" fields src o
  let bytes ← es.required src "bytes" Decoder.bytes
  let case4 ← es.withDefault src "case4" false Decoder.bool
  let codes ← es.withDefault src "successfulStatusCodes" [] Decoder.u16.list
  let name ← es.optional src "name" Decoder.text
  .ok ⟨bytes, case4, codes, name⟩

end ApduRequest

namespace ApduResponse

/-- The last two bytes, most significant first. -/
def statusWord? (r : ApduResponse) : Option Nat :=
  match r.bytes.reverse with
  | low :: high :: _ => some (high.toNat * 256 + low.toNat)
  | _ => none

/-- All but the last two bytes. -/
def data (r : ApduResponse) : List UInt8 := r.bytes.take (r.bytes.length - 2)

def toJson (r : ApduResponse) : Json :=
  .object [("bytes", Json.bytes r.bytes), ("successful", .bool r.successful)]

def fields : List Field :=
  [.needed "bytes" Decoder.bytes, .needed "successful" Decoder.bool]

def decoder : Decoder ApduResponse := fun src o => do
  let es ← Record.entries "ApduResponse" fields src o
  let bytes ← es.required src "bytes" Decoder.bytes
  let successful ← es.required src "successful" Decoder.bool
  .ok ⟨bytes, successful⟩

end ApduResponse

end CardLink
