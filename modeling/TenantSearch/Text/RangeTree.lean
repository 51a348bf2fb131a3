/-! Tables of character ranges, looked up by halving. A table is written as a list of rows in
ascending order; the tree built from it finds the row of a code point. -/
namespace TenantSearch.Text

structure CodeRange (α : Type) where
  first : Nat
  last : Nat
  value : α

inductive RangeTree (α : Type) where
  | leaf
  | node (left : RangeTree α) (row : CodeRange α) (right : RangeTree α)

namespace RangeTree
variable {α : Type}

def find? (code : Nat) : RangeTree α → Option (CodeRange α)
  | leaf => none
  | node left row right =>
    if code < row.first then left.find? code
    else if code ≤ row.last then some row
    else right.find? code

/-- A tree of at most the given height over the first rows, and the rows that did not fit. -/
def fill : Nat → List (CodeRange α) → RangeTree α × List (CodeRange α)
  | 0, rows => (leaf, rows)
  | height + 1, rows =>
    match fill height rows with
    | (left, []) => (left, [])
    | (left, row :: rest) =>
      let (right, rest) := fill height rest
      (node left row right, rest)

def ofRows (rows : List (CodeRange α)) : RangeTree α :=
  (fill (rows.length.log2 + 1) rows).1

def ofRanges (ranges : List (Nat × Nat)) : RangeTree Unit :=
  ofRows (ranges.map fun (first, last) => ⟨first, last, ()⟩)

def covers (tree : RangeTree α) (code : Nat) : Bool := (tree.find? code).isSome

end RangeTree

end TenantSearch.Text
