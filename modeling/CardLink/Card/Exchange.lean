import CardLink.Card.Apdu

/-!
# Card requests and card responses

A card request selects an application and runs commands on it; a card response says how the
selection went and what the commands answered.
-/

namespace CardLink

open Json

/-- Which application to select. -/
structure CardSelector where
  aid : Option (List UInt8)
  atrRegex : Option String
deriving DecidableEq, Repr

/-- What becomes of the logical channel afterwards. -/
inductive ChannelState where
  | keepOpen
  | closeAfter
deriving DecidableEq, Repr

/-- A selection and the commands to run after it. -/
structure CardRequest where
  selector : Option CardSelector
  apduRequests : List ApduRequest
  channelState : ChannelState
deriving DecidableEq, Repr

/-- How a selection went. -/
structure SelectionStatus where
  atr : Option (List UInt8)
  fci : Option (List UInt8)
  hasMatched : Bool
deriving DecidableEq, Repr

/-- The outcome of a card request. -/
structure CardResponse where
  logicalChannelOpen : Bool
  channelPreviouslyOpen : Bool
  selectionStatus : Option SelectionStatus
  apduResponses : List ApduResponse
deriving DecidableEq, Repr

/-- The name that goes with a value, in a list of names. -/
def nameIn {α : Type} [BEq α] (known : List (String × α)) (a : α) : String :=
  match known.find? (·.2 == a) with
  | some (name, _) => name
  | none => ""

namespace CardSelector

def toJson (s : CardSelector) : Json :=
  .object (member? "aid" Json.bytes s.aid ++ member? "atrRegex" .text s.atrRegex)

def fields : List Field :=
  [.free "aid" Decoder.bytes.optional, .free "atrRegex" Decoder.text.optional]

def decoder : Decoder CardSelector := fun src o => do
  let es ← Record.entries "CardSelector" fields src o
  let aid ← es.optional src "aid" Decoder.bytes
  let atrRegex ← es.optional src "atrRegex" Decoder.text
  .ok ⟨aid, atrRegex⟩

end CardSelector

namespace ChannelState

def names : List (String × ChannelState) :=
  [("KEEP_OPEN", .keepOpen), ("CLOSE_AFTER", .closeAfter)]

def toJson (s : ChannelState) : Json := .text (nameIn names s)

def decoder : Decoder ChannelState := Decoder.variant names

end ChannelState

namespace CardRequest

/-- The request that selects nothing and runs nothing. -/
def empty : CardRequest := ⟨none, [], .keepOpen⟩

def toJson (r : CardRequest) : Json :=
  .object (member? "selector" CardSelector.toJson r.selector
    ++ [("apduRequests", .list (r.apduRequests.map ApduRequest.toJson)),
        ("channelState", r.channelState.toJson)])

def fields : List Field :=
  [.free "selector" CardSelector.decoder.optional, .free "apduRequests" ApduRequest.decoder.list,
   .free "channelState" ChannelState.decoder]

def decoder : Decoder CardRequest := fun src o => do
  let es ← Record.entries "CardRequest" fields src o
  let selector ← es.optional src "selector" CardSelector.decoder
  let apduRequests ← es.withDefault src "apduRequests" [] ApduRequest.decoder.list
  let channelState ← es.withDefault src "channelState" .keepOpen ChannelState.decoder
  .ok ⟨selector, apduRequests, channelState⟩

end CardRequest

namespace SelectionStatus

def toJson (s : SelectionStatus) : Json :=
  .object (member? "atr" Json.bytes s.atr ++ member? "fci" Json.bytes s.fci
    ++ [("hasMatched", .bool s.hasMatched)])

def fields : List Field :=
  [.free "atr" Decoder.bytes.optional, .free "fci" Decoder.bytes.optional,
   .needed "hasMatched" Decoder.bool]

def decoder : Decoder SelectionStatus := fun src o => do
  let es ← Record.entries "SelectionStatus" fields src o
  let atr ← es.optional src "atr" Decoder.bytes
  let fci ← es.optional src "fci" Decoder.bytes
  let hasMatched ← es.required src "hasMatched" Decoder.bool
  .ok ⟨atr, fci, hasMatched⟩

end SelectionStatus

namespace CardResponse

def toJson (r : CardResponse) : Json :=
  .object ([("logicalChannelOpen", .bool r.logicalChannelOpen),
      ("channelPreviouslyOpen", .bool r.channelPreviouslyOpen)]
    ++ member? "selectionStatus" SelectionStatus.toJson r.selectionStatus
    ++ [("apduResponses", .list (r.apduResponses.map ApduResponse.toJson))])

def fields : List Field :=
  [.needed "logicalChannelOpen" Decoder.bool, .free "channelPreviouslyOpen" Decoder.bool,
   .free "selectionStatus" SelectionStatus.decoder.optional,
   .free "apduResponses" ApduResponse.decoder.list]

def decoder : Decoder CardResponse := fun src o => do
  let es ← Record.entries "CardResponse" fields src o
  let logicalChannelOpen ← es.required src "logicalChannelOpen" Decoder.bool
  let channelPreviouslyOpen ← es.withDefault src "channelPreviouslyOpen" false Decoder.bool
  let selectionStatus ← es.optional src "selectionStatus" SelectionStatus.decoder
  let apduResponses ← es.withDefault src "apduResponses" [] ApduResponse.decoder.list
  .ok ⟨logicalChannelOpen, channelPreviouslyOpen, selectionStatus, apduResponses⟩

/-- One place for each request, empty where there is no response. -/
def listToJson (rs : List (Option CardResponse)) : Json := .list (rs.map (Json.ofOption toJson))

def listDecoder : Decoder (List (Option CardResponse)) := decoder.optional.list

end CardResponse

end CardLink
