/-!
# Remote methods

The actions that nodes understand, and their names on the wire. `ofName?_name` and
`name_of_ofName?` make the two one to one.
-/

namespace CardLink

/-- An action of a request. -/
inductive Method where
  /-- a slave announces a reader -/
  | readerConnect
  /-- a slave withdraws a reader -/
  | readerDisconnect
  /-- one card request -/
  | readerTransmit
  /-- several card requests -/
  | transmitSet
  | isSePresent
  /-- a card event, from the slave -/
  | readerEvent
  | defaultSelectionRequest
  | pluginEvent
deriving DecidableEq, Repr

namespace Method

def all : List Method :=
  [.readerConnect, .readerDisconnect, .readerTransmit, .transmitSet, .isSePresent, .readerEvent,
   .defaultSelectionRequest, .pluginEvent]

/-- The name of a method in an envelope. -/
def name : Method → String
  | .readerConnect => "readerConnect"
  | .readerDisconnect => "readerDisconnect"
  | .readerTransmit => "readerTransmit"
  | .transmitSet => "transmitSet"
  | .isSePresent => "isSePresent"
  | .readerEvent => "readerEvent"
  | .defaultSelectionRequest => "defaultSelectionRequest"
  | .pluginEvent => "pluginEvent"

/-- The method of this name. -/
def ofName? (s : String) : Option Method := all.find? fun m => m.name == s

/-- The text for a name that no method has. -/
def unknownText (s : String) : String := "unknown remote method: " ++ s

theorem ofName?_name (m : Method) : ofName? m.name = some m := by cases m <;> decide

theorem name_of_ofName? {s : String} {m : Method} (h : ofName? s = some m) : m.name = s := by
  simpa using List.find?_some h

end Method

end CardLink
