import TenantSearch.Text.Basic

/-! White space by Unicode 17.0, and the cuts that are made at it. -/
namespace TenantSearch.Text

/-- Whether a character has the property White_Space. -/
def isBlank (c : Char) : Bool :=
  let code := c.toNat
  (9 ≤ code && code ≤ 13) || code == 0x20 || code == 0x85 || code == 0xA0 || code == 0x1680 ||
    (0x2000 ≤ code && code ≤ 0x200A) || code == 0x2028 || code == 0x2029 || code == 0x202F ||
    code == 0x205F || code == 0x3000

def trimStart (text : Text) : Text := text.dropWhile isBlank

def trimEnd (text : Text) : Text := (text.reverse.dropWhile isBlank).reverse

def trim (text : Text) : Text := trimEnd (trimStart text)

def allBlank (text : Text) : Bool := text.all isBlank

/-- The maximal runs of characters that satisfy a test, in order. -/
def runs (test : Char → Bool) (text : Text) : List Text :=
  (text.splitOnP (!test ·)).filter (!·.isEmpty)

def fields (text : Text) : List Text := runs (!isBlank ·) text

/-- A text with one space for each run of white space, and none around it. -/
def collapse (text : Text) : Text := [' '].intercalate (fields text)

end TenantSearch.Text
