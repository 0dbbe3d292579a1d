import CardLink.Card.Exchange

/-!
# Simulated cards

A simulated card answers every command with success, and every request that does not select another
application.
-/

namespace CardLink

/-- A card in a simulated reader. -/
structure SimulatedCard where
  atr : List UInt8
  /-- the application on the card -/
  aid : List UInt8
deriving DecidableEq, Repr

namespace SimulatedCard

/-- The request selects nothing, or the application on this card. -/
def matches? (c : SimulatedCard) (r : CardRequest) : Bool :=
  match r.selector.bind (·.aid) with
  | some aid => aid == c.aid
  | none => true

/-- The response to a command. -/
def success : ApduResponse := ⟨[0x90, 0x00], true⟩

/-- The outcome of a request, absent if it does not match. -/
def process (c : SimulatedCard) (r : CardRequest) : Option CardResponse :=
  if c.matches? r then
    some ⟨true, false, r.selector.map fun _ => ⟨some c.atr, some c.aid, true⟩,
      r.apduRequests.map fun _ => success⟩
  else none

end SimulatedCard

end CardLink
