import TenantSearch.Stemming.Dutch
import TenantSearch.Stemming.English
import TenantSearch.Stemming.French
import TenantSearch.Stemming.German
import TenantSearch.Stemming.Italian
import TenantSearch.Stemming.Portuguese
import TenantSearch.Stemming.Spanish
import TenantSearch.Stemming.Swedish
import TenantSearch.Text.Blank

/-! The languages that texts can be searched in. -/
namespace TenantSearch

inductive Language where
  | dutch
  | english
  | french
  | german
  | italian
  | portuguese
  | spanish
  | swedish
  deriving DecidableEq, Repr

namespace Language

def all : List Language :=
  [dutch, english, french, german, italian, portuguese, spanish, swedish]

def name : Language → String
  | dutch => "dutch"
  | english => "english"
  | french => "french"
  | german => "german"
  | italian => "italian"
  | portuguese => "portuguese"
  | spanish => "spanish"
  | swedish => "swedish"

/-- The language of a name, which may be in any case and stand between white space. The names are
plain ASCII, so only ASCII letters have their case ignored. -/
def parse? (raw : Text) : Option Language :=
  all.find? fun language => (Text.trim raw).map Char.toLower == language.name.toList

def stopWords : Language → List String
  | dutch => [
    "aan", "al", "als", "bij", "dat", "de", "den", "der", "die", "dit", "een", "en", "er", "had",
    "heb", "het", "hij", "hoe", "ik", "in", "is", "je", "kan", "maar", "me", "met", "mij", "na",
    "naar", "niet", "nog", "of", "om", "ook", "op", "over", "te", "tot", "u", "uit", "van", "voor",
    "was", "wat", "we", "wel", "wij", "wordt", "zal", "ze", "zich", "zij", "zijn", "zo"]
  | english => [
    "a", "an", "and", "are", "as", "at", "be", "but", "by", "for", "from", "has", "have", "he",
    "her", "his", "i", "in", "is", "it", "its", "of", "on", "or", "our", "she", "so", "that",
    "the", "their", "them", "there", "they", "this", "to", "was", "we", "were", "will", "with",
    "you", "your"]
  | _ => []

def stem : Language → Text → Text
  | dutch => Stemming.Dutch.stem
  | english => Stemming.English.stem
  | french => Stemming.French.stem
  | german => Stemming.German.stem
  | italian => Stemming.Italian.stem
  | portuguese => Stemming.Portuguese.stem
  | spanish => Stemming.Spanish.stem
  | swedish => Stemming.Swedish.stem

end Language

end TenantSearch
