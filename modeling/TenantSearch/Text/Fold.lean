import TenantSearch.Text.Basic
import TenantSearch.Text.Fold.Alphabets
import TenantSearch.Text.Fold.Brahmic
import TenantSearch.Text.Fold.EastAsian
import TenantSearch.Text.Fold.Extended
import TenantSearch.Text.Fold.Ideographs
import TenantSearch.Text.Fold.Latin
import TenantSearch.Text.Fold.Presentation
import TenantSearch.Text.Fold.Rare
import TenantSearch.Text.Fold.Supplementary
import TenantSearch.Text.Fold.Symbols

/-! Folding makes texts comparable: compatibility decomposition, then the marks (general category
M) dropped, then each character in lower case. Every character with a combining class is a mark,
so no reordering survives and a text folds character by character. -/
namespace TenantSearch.Text
namespace Folding

/-- The characters whose folded form is not the character itself, Hangul syllables apart. -/
def rows : List (CodeRange Folding) :=
  latin ++ alphabets ++ brahmic ++ extended ++ symbols ++ eastAsian ++ ideographs ++
    presentation ++ supplementary ++ rare

def tree : RangeTree Folding := .ofRows rows

def apply (row : CodeRange Folding) (code : Nat) : List Char :=
  match row.value with
  | .spelled codes => codes.map Char.ofNat
  | .moved base => [Char.ofNat (base + (code - row.first))]

/-- A Hangul syllable is its leading consonant, its vowel and, if it has one, its trailing
consonant; the syllables are numbered in that order, with 21 vowels and 28 endings. -/
def hangul (index : Nat) : List Char :=
  let lead := Char.ofNat (0x1100 + index / 588)
  let vowel := Char.ofNat (0x1161 + index % 588 / 28)
  if index % 28 = 0 then [lead, vowel] else [lead, vowel, Char.ofNat (0x11A7 + index % 28)]

end Folding

def foldChar (c : Char) : List Char :=
  if 0xAC00 ≤ c.toNat ∧ c.toNat ≤ 0xD7A3 then Folding.hangul (c.toNat - 0xAC00)
  else match Folding.tree.find? c.toNat with
    | some row => Folding.apply row c.toNat
    | none => [c]

def fold (text : Text) : Text := text.flatMap foldChar

theorem fold_append (a b : Text) : fold (a ++ b) = fold a ++ fold b := List.flatMap_append

end TenantSearch.Text
