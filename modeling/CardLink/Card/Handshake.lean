import CardLink.Card.Exchange
import CardLink.Text.Blank

/-!
# Bodies of the handshake and of the default selection
-/

namespace CardLink

open Json

/-- The physical interface to the card. -/
inductive TransmissionMode where
  | contacts
  | contactless
deriving DecidableEq, Repr

/-- When the outcome of a default selection is reported. -/
inductive NotificationMode where
  | always
  | matchedOnly
deriving DecidableEq, Repr

/-- A map from text to text. -/
abbrev Settings := Table String

namespace Settings

def toJson (s : Settings) : Json := .object (s.entries.map fun kv => (kv.1, .text kv.2))

end Settings

/-- The body that announces a reader. -/
structure ConnectRequest where
  transmissionMode : TransmissionMode
  options : Settings
deriving DecidableEq

/-- The body that answers an announcement. -/
structure ConnectResponse where
  sessionId : String
deriving DecidableEq, Repr

/-- The requests to run whenever a card is put in. -/
structure DefaultSelection where
  selectionRequests : List CardRequest
  notificationMode : NotificationMode
deriving DecidableEq, Repr

namespace TransmissionMode

def names : List (String × TransmissionMode) :=
  [("CONTACTS", .contacts), ("CONTACTLESS", .contactless)]

def toJson (m : TransmissionMode) : Json := .text (nameIn names m)

def decoder : Decoder TransmissionMode := Decoder.variant names

end TransmissionMode

namespace NotificationMode

def names : List (String × NotificationMode) :=
  [("ALWAYS", .always), ("MATCHED_ONLY", .matchedOnly)]

def toJson (m : NotificationMode) : Json := .text (nameIn names m)

def decoder : Decoder NotificationMode := Decoder.variant names

end NotificationMode

namespace ConnectRequest

/-- The announcement that an empty body stands for. -/
def plain : ConnectRequest := ⟨.contacts, .empty⟩

def toJson (r : ConnectRequest) : Json :=
  .object [("transmissionMode", r.transmissionMode.toJson), ("options", r.options.toJson)]

def fields : List Field :=
  [.free "transmissionMode" TransmissionMode.decoder, .free "options" Decoder.text.map]

def decoder : Decoder ConnectRequest := fun src o => do
  let es ← Record.entries "ConnectRequest" fields src o
  let mode ← es.withDefault src "transmissionMode" .contacts TransmissionMode.decoder
  let options ← es.withDefault src "options" .empty Decoder.text.map
  .ok ⟨mode, options⟩

/-- Reads the body of an announcement; a blank one stands for `plain`. -/
def ofBody (body : String) : Except Fault ConnectRequest :=
  if Text.AllBlank body then .ok plain else decoder.ofText body

end ConnectRequest

namespace ConnectResponse

def toJson (r : ConnectResponse) : Json := .object [("sessionId", .text r.sessionId)]

def fields : List Field := [.needed "sessionId" Decoder.text]

def decoder : Decoder ConnectResponse := fun src o => do
  let es ← Record.entries "ConnectResponse" fields src o
  let sessionId ← es.required src "sessionId" Decoder.text
  .ok ⟨sessionId⟩

end ConnectResponse

namespace DefaultSelection

def toJson (s : DefaultSelection) : Json :=
  .object [("selectionRequests", .list (s.selectionRequests.map CardRequest.toJson)),
    ("notificationMode", s.notificationMode.toJson)]

def fields : List Field :=
  [.needed "selectionRequests" CardRequest.decoder.list,
   .needed "notificationMode" NotificationMode.decoder]

def decoder : Decoder DefaultSelection := fun src o => do
  let es ← Record.entries "DefaultSelectionRequest" fields src o
  let selectionRequests ← es.required src "selectionRequests" CardRequest.decoder.list
  let notificationMode ← es.required src "notificationMode" NotificationMode.decoder
  .ok ⟨selectionRequests, notificationMode⟩

end DefaultSelection

end CardLink
