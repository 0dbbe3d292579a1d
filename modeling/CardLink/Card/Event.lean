import CardLink.Card.Exchange

/-!
# Events of readers and plugins
-/

namespace CardLink

open Json

/-- What happened to the card in a reader. -/
inductive ReaderEventType where
  | inserted
  | matched
  | removed
  | ioError
deriving DecidableEq, Repr

/-- A change in one reader. -/
structure ReaderEvent where
  pluginName : String
  readerName : String
  eventType : ReaderEventType
  /-- responses to the default selection, when one was set -/
  defaultSelectionResponses : Option (List (Option CardResponse))
deriving DecidableEq, Repr

/-- What happened to the set of readers. -/
inductive PluginEventType where
  | readerConnected
  | readerDisconnected
deriving DecidableEq, Repr

/-- A change in the set of readers. -/
structure PluginEvent where
  pluginName : String
  readerNames : List String
  eventType : PluginEventType
deriving DecidableEq, Repr

namespace ReaderEventType

def names : List (String × ReaderEventType) :=
  [("SE_INSERTED", .inserted), ("SE_MATCHED", .matched), ("SE_REMOVED", .removed),
   ("IO_ERROR", .ioError)]

def toJson (t : ReaderEventType) : Json := .text (nameIn names t)

def decoder : Decoder ReaderEventType := Decoder.variant names

end ReaderEventType

namespace ReaderEvent

/-- An event without responses. -/
def plain (plugin reader : String) (t : ReaderEventType) : ReaderEvent := ⟨plugin, reader, t, none⟩

def toJson (e : ReaderEvent) : Json :=
  .object ([("pluginName", .text e.pluginName), ("readerName", .text e.readerName),
      ("eventType", e.eventType.toJson)]
    ++ member? "defaultSelectionResponses" CardResponse.listToJson e.defaultSelectionResponses)

def fields : List Field :=
  [.needed "pluginName" Decoder.text, .needed "readerName" Decoder.text,
   .needed "eventType" ReaderEventType.decoder,
   .free "defaultSelectionResponses" CardResponse.listDecoder.optional]

def decoder : Decoder ReaderEvent := fun src o => do
  let es ← Record.entries "ReaderEvent" fields src o
  let pluginName ← es.required src "pluginName" Decoder.text
  let readerName ← es.required src "readerName" Decoder.text
  let eventType ← es.required src "eventType" ReaderEventType.decoder
  let responses ← es.optional src "defaultSelectionResponses" CardResponse.listDecoder
  .ok ⟨pluginName, readerName, eventType, responses⟩

end ReaderEvent

namespace PluginEventType

def names : List (String × PluginEventType) :=
  [("READER_CONNECTED", .readerConnected), ("READER_DISCONNECTED", .readerDisconnected)]

def toJson (t : PluginEventType) : Json := .text (nameIn names t)

def decoder : Decoder PluginEventType := Decoder.variant names

end PluginEventType

namespace PluginEvent

/-- An event about one reader. -/
def single (plugin reader : String) (t : PluginEventType) : PluginEvent := ⟨plugin, [reader], t⟩

def toJson (e : PluginEvent) : Json :=
  .object [("pluginName", .text e.pluginName), ("readerNames", .list (e.readerNames.map .text)),
    ("eventType", e.eventType.toJson)]

def fields : List Field :=
  [.needed "pluginName" Decoder.text, .needed "readerNames" Decoder.text.list,
   .needed "eventType" PluginEventType.decoder]

def decoder : Decoder PluginEvent := fun src o => do
  let es ← Record.entries "PluginEvent" fields src o
  let pluginName ← es.required src "pluginName" Decoder.text
  let readerNames ← es.required src "readerNames" Decoder.text.list
  let eventType ← es.required src "eventType" PluginEventType.decoder
  .ok ⟨pluginName, readerNames, eventType⟩

end PluginEvent

end CardLink
