import TenantSearch.Text.CombiningClass
import TenantSearch.Text.Decomposition
import TenantSearch.Text.Fold
import TenantSearch.Text.Lowercase
import TenantSearch.Text.Mark

/-! Folding in its three stages: the text is decomposed as a whole, with its marks put in order; the
marks are dropped; and what is left is put in lower case, character by character. -/
namespace TenantSearch.Text

def decompose (c : Char) : List Char :=
  if 0xAC00 ≤ c.toNat ∧ c.toNat ≤ 0xD7A3 then Folding.hangul (c.toNat - 0xAC00)
  else (Decomposition.ofCode c.toNat).map Char.ofNat

/-- Puts a character before a text that is in order, behind the characters that it has to follow. -/
def settle (c : Char) : Text → Text
  | [] => [c]
  | d :: rest =>
    if 0 < combiningClass d ∧ combiningClass d < combiningClass c then d :: settle c rest
    else c :: d :: rest

/-- The canonical order: characters of a class above zero that stand side by side are sorted by it,
those of one class in the order in which they stand. -/
def reorder (text : Text) : Text := text.foldr settle []

/-- Compatibility decomposition (NFKD). -/
def nfkd (text : Text) : Text := reorder (text.flatMap decompose)

def foldByStages (text : Text) : Text := ((nfkd text).filter (!isMark ·)).flatMap lowerChar

end TenantSearch.Text
