import TenantSearch.Text.Basic

/-! Documents as configuration files and requests hold them, and how typed values are read from
them. -/
namespace TenantSearch

/-- A document. A number is kept as the integer or the binary64 number that was written. -/
inductive Document where
  | null
  | bool (value : Bool)
  | integer (value : Int)
  | decimal (value : Float)
  | text (value : Text)
  /-- A date or a time of day; no setting is one. -/
  | moment
  | array (items : List Document)
  | table (members : List (Text × Document))

namespace Document

instance : Inhabited Document := ⟨null⟩

def text? : Document → Option Text
  | text value => some value
  | _ => none

def wordBound : Nat := 0x100000000

def longBound : Nat := 0x10000000000000000

def signedBound : Nat := 0x8000000000000000

def natural? (bound : Nat) : Document → Option Nat
  | integer value => if 0 ≤ value ∧ value < bound then some value.toNat else none
  | _ => none

def signed? : Document → Option Int
  | integer value => if -(signedBound : Int) ≤ value ∧ value < signedBound then some value else none
  | _ => none

def optional? {α : Type} (read : Document → Option α) : Option Document → Option (Option α)
  | none | some null => some none
  | some document => (read document).map some

def required? {α : Type} (read : Document → Option α) (document : Option Document) : Option α :=
  document.bind read

def defaulted? {α : Type} (default : α) (read : Document → Option α) :
    Option Document → Option α
  | none => some default
  | some document => read document

/-- The members of a structure by their names, missing ones as none. A table has them under their
names, an array in their order; unknown names are ignored. -/
def members? (names : List String) : Document → Option (List (Option Document))
  | table members => some (names.map fun name => members.lookup name.toList)
  | array items => some ((List.range names.length).map fun index => items[index]?)
  | _ => none

end Document

end TenantSearch
