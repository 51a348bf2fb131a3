import TenantSearch.Document

/-! The tables of a TOML document while it is read. A table may be written in several places, within
limits: a header opens a table once, dotted keys extend only tables that dotted keys have made, and
a value is never extended. -/
namespace TenantSearch.Toml

/-- How a table came to be: opened by a header, passed over by a longer header, or made by a dotted
key. -/
inductive Origin where
  | opened
  | passed
  | dotted
  deriving DecidableEq, Repr

/-- What stands under a key: a value, a table, or the tables of one repeated header. -/
inductive Entry where
  | value (document : Document)
  | table (origin : Origin) (members : List (Text × Entry))
  | tables (elements : List (List (Text × Entry)))

abbrev Members := List (Text × Entry)

namespace Members

def entry? (members : Members) (key : Text) : Option Entry := members.lookup key

def put (members : Members) (key : Text) (entry : Entry) : Members :=
  if (members.lookup key).isSome then
    members.map fun (name, old) => if name == key then (name, entry) else (name, old)
  else members ++ [(key, entry)]

/-- Adds a value under a dotted key, unless something is in the way. `isDotted` tells whether the
members belong to a table that dotted keys have made. -/
def assign (value : Document) : Bool → List Text → Members → Option Members
  | _, [], _ => none
  | _, [key], members =>
    match members.entry? key with
    | none => some (members.put key (.value value))
    | some _ => none
  | _, key :: next :: path, members =>
    match members.entry? key with
    | none =>
      (assign value true (next :: path) []).map fun inner => members.put key (.table .dotted inner)
    | some (.table origin inner) =>
      if origin = .opened || (path.isEmpty && origin != .dotted) then none
      else (assign value (origin = .dotted) (next :: path) inner).map fun inner =>
        members.put key (.table origin inner)
    | some _ => none

def fill (members : Members) (values : List (List Text × Document)) : Option Members :=
  values.foldlM (fun members (path, value) => assign value false path members) members

/-- The entry that a header gives to its last key: a table that was only passed over is opened, and
a repeated header adds one more table. -/
def openEntry (repeated : Bool) (values : List (List Text × Document)) :
    Option Entry → Option Entry
  | none =>
    (fill [] values).map fun members =>
      if repeated then .tables [members] else .table .opened members
  | some (.table .passed members) =>
    if repeated then none else (fill members values).map (.table .opened)
  | some (.tables elements) =>
    if repeated then (fill [] values).map fun members => .tables (elements ++ [members]) else none
  | some _ => none

/-- Adds what stands under a header. On the way, tables that are not there yet are passed over, and
of repeated tables the last one counts. -/
def addSection (repeated : Bool) (values : List (List Text × Document)) :
    List Text → Members → Option Members
  | [], _ => none
  | [key], members =>
    (openEntry repeated values (members.entry? key)).map (members.put key)
  | key :: next :: path, members =>
    match members.entry? key with
    | none =>
      (addSection repeated values (next :: path) []).map fun inner =>
        members.put key (.table .passed inner)
    | some (.table origin inner) =>
      (addSection repeated values (next :: path) inner).map fun inner =>
        members.put key (.table origin inner)
    | some (.tables elements) =>
      match elements.getLast? with
      | some last =>
        (addSection repeated values (next :: path) last).map fun inner =>
          members.put key (.tables (elements.dropLast ++ [inner]))
      | none => none
    | some (.value _) => none

end Members

def Entry.toDocument : Nat → Entry → Document
  | _, .value document => document
  | 0, _ => .null
  | depth + 1, .table _ members =>
    .table (members.map fun (key, entry) => (key, toDocument depth entry))
  | depth + 1, .tables elements =>
    .array (elements.map fun members =>
      .table (members.map fun (key, entry) => (key, toDocument depth entry)))

end TenantSearch.Toml
