import CardLink.Toml.Scalar

/-!
# TOML documents

A document is a table whose entries are values, tables and lists of tables. Lines are taken one by
one: a header opens a table, a key with a value adds an entry to the open table. A table remembers
how it came about, because that decides who may add to it: a header may complete a table that only
headers below it have named, and a dotted key may go on with a table that dotted keys have begun.
-/

namespace CardLink.Toml

/-- How a table came about. -/
inductive Origin where
  /-- by its own header, or as the document itself -/
  | header
  /-- on the way to a header below it -/
  | path
  /-- by a dotted key -/
  | dotted
deriving DecidableEq, Repr

/-- What a name stands for in a table. -/
inductive Item where
  | scalar (s : Scalar)
  /-- a list of values or an inline table, to which nothing can be added -/
  | closed
  | table (origin : Origin) (entries : List (String × Item))
  /-- a list of tables; only the last one can still change -/
  | tables (last : List (String × Item))

abbrev Entries := List (String × Item)

/-- Puts an item in the place of the one with its name, or at the end. -/
def replace (name : String) (item : Item) : Entries → Entries
  | [] => [(name, item)]
  | (k, v) :: rest => if k = name then (k, item) :: rest else (k, v) :: replace name item rest

/-! ## 1. Adding to tables -/

/-- Adds an entry under a dotted key. The table that takes the entry is the one at hand or was
begun by a dotted key; on the way to it, tables named by headers below them may be passed. -/
def addDotted (item : Item) : List String → Entries → Option Entries
  | [], _ => none
  | [name], es =>
    match es.lookup name with
    | none => some (es ++ [(name, item)])
    | some _ => none
  | name :: next :: rest, es =>
    match es.lookup name with
    | none => (addDotted item (next :: rest) []).map fun sub => es ++ [(name, .table .dotted sub)]
    | some (.table .dotted sub) =>
      (addDotted item (next :: rest) sub).map fun sub => replace name (.table .dotted sub) es
    | some (.table .path sub) =>
      if rest = [] then none
      else (addDotted item (next :: rest) sub).map fun sub => replace name (.table .path sub) es
    | some (.tables last) =>
      if rest = [] then none
      else (addDotted item (next :: rest) last).map fun last => replace name (.tables last) es
    | some _ => none

/-- Changes the table at the end of a path of names, going into the last one of a list of tables. -/
def changeAt (change : Entries → Option Entries) : List String → Entries → Option Entries
  | [], es => change es
  | name :: rest, es =>
    match es.lookup name with
    | none => (changeAt change rest []).map fun sub => es ++ [(name, .table .path sub)]
    | some (.table origin sub) =>
      (changeAt change rest sub).map fun sub => replace name (.table origin sub) es
    | some (.tables last) =>
      (changeAt change rest last).map fun last => replace name (.tables last) es
    | some _ => none

/-- Opens a table by its header. -/
def openTable (name : String) (es : Entries) : Option Entries :=
  match es.lookup name with
  | none => some (es ++ [(name, .table .header [])])
  | some (.table .path sub) => some (replace name (.table .header sub) es)
  | some _ => none

/-- Opens the next table of a list of tables. -/
def openNext (name : String) (es : Entries) : Option Entries :=
  match es.lookup name with
  | none => some (es ++ [(name, .tables [])])
  | some (.tables _) => some (replace name (.tables []) es)
  | some _ => none

/-! ## 2. Values -/

/-- How many lists and inline tables a value may open inside each other. -/
def maxNesting : Nat := 79

mutual

/-- A value of any kind that opens at most `room` lists and inline tables inside each other. -/
def readValue : Nat → Nat → Reader Item
  | 0, _, _ => none
  | fuel + 1, room, cs =>
    match room, cs with
    | room + 1, '[' :: r => (readArray fuel room r).map fun r => (.closed, r)
    | room + 1, '\x7b' :: r =>
      match skipSpace r with
      | '\x7d' :: r => some (.closed, r)
      | r => (readInline fuel room [] r).map fun r => (.closed, r)
    | _, _ => (readScalar cs).map fun p => (.scalar p.1, p.2)

/-- What follows a list, after its opening bracket. -/
def readArray : Nat → Nat → List Char → Option (List Char)
  | 0, _, _ => none
  | fuel + 1, room, cs =>
    match skipLines (cs.length + 1) cs with
    | ']' :: r => some r
    | r =>
      match readValue fuel room r with
      | none => none
      | some (_, r) =>
        match skipLines (r.length + 1) r with
        | ',' :: r => readArray fuel room r
        | ']' :: r => some r
        | _ => none

/-- What follows an inline table that has entries, after its opening brace. -/
def readInline : Nat → Nat → Entries → List Char → Option (List Char)
  | 0, _, _, _ => none
  | fuel + 1, room, sofar, cs =>
    match readKey cs with
    | none => none
    | some (key, r) =>
      match skipSpace r with
      | '=' :: r =>
        match readValue fuel room (skipSpace r) with
        | none => none
        | some (item, r) =>
          match addDotted item key sofar with
          | none => none
          | some sofar =>
            match skipSpace r with
            | ',' :: r => readInline fuel room sofar r
            | c :: r => if c = '\x7d' then some r else none
            | [] => none
      | _ => none

end

/-! ## 3. Lines -/

/-- A document being read: its table, and the path of the open table. -/
structure Progress where
  root : Entries
  path : List String

/-- A line that opens a table. -/
def readHeader (p : Progress) : List Char → Option (Progress × List Char)
  | '[' :: '[' :: r =>
    match readKey r with
    | some (key, ']' :: ']' :: r) =>
      (changeAt (openNext (key.getLastD "")) key.dropLast p.root).map fun root => (⟨root, key⟩, r)
    | _ => none
  | '[' :: r =>
    match readKey r with
    | some (key, ']' :: r) =>
      (changeAt (openTable (key.getLastD "")) key.dropLast p.root).map fun root => (⟨root, key⟩, r)
    | _ => none
  | _ => none

/-- A line that adds an entry to the open table. -/
def readEntry (p : Progress) (cs : List Char) : Option (Progress × List Char) :=
  match readKey cs with
  | some (key, '=' :: r) =>
    match readValue (2 * r.length + 2) maxNesting (skipSpace r) with
    | none => none
    | some (item, r) =>
      (changeAt (addDotted item key) p.path p.root).map fun root => (⟨root, p.path⟩, r)
  | _ => none

/-- The content of a line, if it has any. -/
def readContent (p : Progress) (cs : List Char) : Option (Progress × List Char) :=
  match cs with
  | [] => some (p, [])
  | '[' :: _ => readHeader p cs
  | c :: _ =>
    if c = '#' ∨ c = '\n' ∨ c = '\r' then some (p, cs) else readEntry p cs

/-- All lines. -/
def readLines : Nat → Progress → List Char → Option Entries
  | 0, _, _ => none
  | fuel + 1, p, cs =>
    match readContent p (skipSpace cs) with
    | none => none
    | some (p, r) =>
      let r := skipComment (skipSpace r)
      match newline? r with
      | some r => readLines fuel p r
      | none => if r = [] then some p.root else none

/-- The table of a document. A byte order mark at its beginning is skipped. -/
def document? (s : String) : Option Entries :=
  let cs := match s.toList with
    | '\uFEFF' :: rest => rest
    | cs => cs
  readLines (cs.length + 1) ⟨[], []⟩ cs

end CardLink.Toml
