import TenantSearch.Text.RangeTree

/-! How a row of the table of decompositions gives those of the characters it covers. -/
namespace TenantSearch.Text

/-- The decompositions of the characters of one row, in the order of the row: one character each,
which follow one another; one character each; or some characters for each. -/
inductive Decomposition where
  | moved (base : Nat)
  | each (codes : List Nat)
  | listed (forms : List (List Nat))

end TenantSearch.Text
