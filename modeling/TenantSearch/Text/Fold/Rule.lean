import TenantSearch.Text.RangeTree

/-! How a row of the folding table gives the folded form of the characters it covers. -/
namespace TenantSearch.Text

/-- The folded form of the characters of one row: either the same characters for all of them, or
one character each, in the order of the row. -/
inductive Folding where
  | spelled (codes : List Nat)
  | moved (base : Nat)

end TenantSearch.Text
