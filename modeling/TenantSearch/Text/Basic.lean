/-! Texts. Every text of the library is a sequence of characters; strings only stand for constants
and at the edge of the program. What a character is, is told by tables of Unicode 17.0. -/
namespace TenantSearch

abbrev Text := List Char

def Text.occursIn (part : Text) : Text → Bool
  | [] => part.isEmpty
  | c :: rest => part.isPrefixOf (c :: rest) || Text.occursIn part rest

end TenantSearch
