import CardLink.Envelope.Basic

/-!
# Envelopes as wire text

On the wire an envelope is one JSON object. Writing leaves out an absent id and session id. Reading
takes the value of the text, insists on a member `action` before anything else, and then decodes the
members in the order of their keys.
-/

namespace CardLink

open Json

/-- Why a wire text is no envelope. -/
inductive EnvelopeError where
  | malformed (fault : Fault)
  | missingField (name : String)
deriving DecidableEq, Repr

namespace EnvelopeError

def message : EnvelopeError → String
  | .malformed fault => "malformed envelope: " ++ fault.message
  | .missingField name => "envelope is missing required field: " ++ name

/-- The texts of the causes, outermost first. -/
def causes : EnvelopeError → List String
  | .malformed fault => [fault.message]
  | .missingField _ => []

end EnvelopeError

namespace Envelope

def toJson (e : Envelope) : Json :=
  .object ([("action", .text e.action), ("body", .text e.body), ("isRequest", .bool e.isRequest)]
    ++ member? "sessionId" .text e.route.sessionId
    ++ [("nativeReaderName", .text e.route.nativeReader),
        ("virtualReaderName", .text e.route.virtualReader),
        ("requesterNodeId", .text e.route.requester),
        ("targetNodeId", .text e.route.target)]
    ++ member? "id" .text e.id)

/-- The wire text of an envelope. -/
def toWire (e : Envelope) : String := Json.toText e.toJson

def fields : List Field :=
  [.needed "action" Decoder.text, .free "body" Decoder.text, .needed "isRequest" Decoder.bool,
   .free "sessionId" Decoder.text.optional, .free "nativeReaderName" Decoder.text,
   .free "virtualReaderName" Decoder.text, .free "requesterNodeId" Decoder.text,
   .free "targetNodeId" Decoder.text, .free "id" Decoder.text.optional]

def decoder : Decoder Envelope := fun src o => do
  let es ← Record.entries "Envelope" fields src o
  let action ← es.required src "action" Decoder.text
  let body ← es.withDefault src "body" "" Decoder.text
  let isRequest ← es.required src "isRequest" Decoder.bool
  let sessionId ← es.optional src "sessionId" Decoder.text
  let native ← es.withDefault src "nativeReaderName" "" Decoder.text
  let virtual ← es.withDefault src "virtualReaderName" "" Decoder.text
  let requester ← es.withDefault src "requesterNodeId" "" Decoder.text
  let target ← es.withDefault src "targetNodeId" "" Decoder.text
  let id ← es.optional src "id" Decoder.text
  .ok ⟨action, body, isRequest, ⟨sessionId, native, virtual, requester, target⟩, id⟩

/-- Decodes the value of a wire text. -/
def ofValue (v : Json) : Except EnvelopeError Envelope :=
  match v.get? "action" with
  | none => .error (.missingField "action")
  | some _ => (decoder.ofValue v).mapError .malformed

/-- Reads a wire text. -/
def ofWire (s : String) : Except EnvelopeError Envelope :=
  match parse? s with
  | none => .error (.malformed .malformed)
  | some v => ofValue v

end Envelope

end CardLink
