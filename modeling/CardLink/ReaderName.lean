/-!
# Names of virtual readers

The reader of a slave is known under one name made of its own name and the name of the slave:
`remote-<reader>-<slave>`. Inside the two parts the dash and the backslash are escaped by a
backslash, so that no two pairs share a name. `parse?` takes a name apart again and accepts nothing
else.
-/

namespace CardLink.ReaderName

/-- What every name begins with. -/
def lead : List Char := ['r', 'e', 'm', 'o', 't', 'e', '-']

def escapeChar (c : Char) : List Char := if c = '\\' ∨ c = '-' then ['\\', c] else [c]

/-- One part of a name. -/
def escape (s : List Char) : List Char := s.flatMap escapeChar

/-- The name of the reader `native` on the node `slave`. -/
def make (native slave : String) : String :=
  String.ofList (lead ++ escape native.toList ++ '-' :: escape slave.toList)

/-- Reads one part. The second component is what follows a dash that ends the part, and absent
when the part goes on to the end. -/
def readPart : List Char → Option (List Char × Option (List Char))
  | [] => some ([], none)
  | '\\' :: c :: rest =>
    if c = '\\' ∨ c = '-' then (readPart rest).map fun p => (c :: p.1, p.2) else none
  | c :: rest =>
    if c = '\\' then none
    else if c = '-' then some ([], some rest)
    else (readPart rest).map fun p => (c :: p.1, p.2)

/-- The two parts of what follows the lead. -/
def readParts (cs : List Char) : Option (List Char × List Char) :=
  match readPart cs with
  | some (native, some rest) =>
    match readPart rest with
    | some (slave, none) => some (native, slave)
    | _ => none
  | _ => none

/-- The reader and the slave that a name stands for. -/
def parse? (name : String) : Option (String × String) :=
  if lead.isPrefixOf name.toList then
    (readParts (name.toList.drop lead.length)).map fun p => (String.ofList p.1, String.ofList p.2)
  else none

example : make "a-b" "c" = "remote-a\\-b-c" := by decide
example : parse? "remote-a\\-b-c" = some ("a-b", "c") := by decide
example : parse? "remote-a-b-c" = none := by decide

end CardLink.ReaderName
