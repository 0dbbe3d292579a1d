/-!
# Sessions and fresh identifiers

A session ties a virtual reader to one reader of one slave. Ids of sessions and of calls are random
UUIDs. What is drawn is a parameter here: a source is the row of ids that are drawn from it, one after
the other. Where it matters that chance does not repeat itself, it is a hypothesis that no id stands
in the row twice.

`Identifier.session` and `Identifier.call` are two such rows. They have the form of UUIDs of 36
characters, with a number in the last group in place of chance.
-/

namespace CardLink

namespace Identifier

/-- The last group: the number in hexadecimal, of twelve digits or more. -/
def group (n : Nat) : List Char :=
  let ds := Nat.toDigits 16 n
  List.replicate (12 - ds.length) '0' ++ ds

/-- A source of ids for sessions. -/
def session (n : Nat) : String := String.ofList ("5e551011-0000-4000-8000-".toList ++ group n)

/-- A source of ids for calls. -/
def call (n : Nat) : String := String.ofList ("ca110000-0000-4000-8000-".toList ++ group n)

end Identifier

/-- A pairing of a reader and its slave with this node. -/
structure Session where
  id : String
  native : String
  slave : String
  master : String
deriving DecidableEq, Repr

/-- Issues sessions. -/
structure SessionFactory where
  /-- the source of the ids -/
  ids : Nat → String
  /-- number of sessions issued so far -/
  issued : Nat

namespace SessionFactory

/-- Draws ids from this source, none so far. -/
def drawing (ids : Nat → String) : SessionFactory := ⟨ids, 0⟩

def new : SessionFactory := .drawing Identifier.session

/-- A new session, also for a pair that had one before. -/
def create (f : SessionFactory) (native slave master : String) : Session × SessionFactory :=
  (⟨f.ids (f.issued + 1), native, slave, master⟩, { f with issued := f.issued + 1 })

/-- The count of sessions as a 64 bit word. -/
def issuedWord (f : SessionFactory) : UInt64 := UInt64.ofNat f.issued

end SessionFactory

end CardLink
