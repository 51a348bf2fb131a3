import TenantSearch.Text.Decomposition.EastAsian
import TenantSearch.Text.Decomposition.Ideographs
import TenantSearch.Text.Decomposition.Letters
import TenantSearch.Text.Decomposition.Presentation
import TenantSearch.Text.Decomposition.Supplementary
import TenantSearch.Text.Decomposition.Symbols

/-! The full compatibility decompositions of characters: no character of one is decomposed further.
The syllables of Hangul are decomposed by their number. -/
namespace TenantSearch.Text
namespace Decomposition

def rows : List (CodeRange Decomposition) :=
  letters ++ symbols ++ eastAsian ++ ideographs ++ presentation ++ supplementary ++
    supplementaryIdeographs

def tree : RangeTree Decomposition := .ofRows rows

def apply (row : CodeRange Decomposition) (code : Nat) : List Nat :=
  let index := code - row.first
  match row.value with
  | moved base => [base + index]
  | each codes => codes[index]?.toList
  | listed forms => forms[index]?.getD []

def ofCode (code : Nat) : List Nat :=
  match tree.find? code with
  | some row => apply row code
  | none => [code]

end Decomposition
end TenantSearch.Text
