/-! Regions of a word. A region is given by the number of characters before it; a region that does
not exist starts at the end of the word. -/
namespace TenantSearch.Stemming

def past? (test : Char → Bool) : List Char → Option (List Char)
  | [] => none
  | c :: rest => if test c then some rest else past? test rest

def pastSyllable? (vowel : Char → Bool) (word : List Char) : Option (List Char) :=
  (past? vowel word).bind (past? (!vowel ·))

def startOf (word : List Char) (region : Option (List Char)) : Nat :=
  match region with
  | some region => word.length - region.length
  | none => word.length

/-- The start of the first region: behind the first non-vowel that follows a vowel. -/
def firstRegion (vowel : Char → Bool) (word : List Char) : Nat :=
  startOf word (pastSyllable? vowel word)

def secondRegion (vowel : Char → Bool) (word : List Char) : Nat :=
  startOf word ((pastSyllable? vowel word).bind (pastSyllable? vowel))

/-- The verb region of the Romance languages. With a consonant second it starts behind the next
vowel, with two vowels first behind the next consonant, and otherwise behind the third letter. -/
def verbRegion (vowel : Char → Bool) (word : List Char) : Nat :=
  match word with
  | a :: b :: rest =>
    let behind :=
      if vowel a then
        if vowel b then past? (!vowel ·) rest else past? vowel rest
      else if vowel b then (match rest with | [] => none | _ :: tail => some tail)
      else past? vowel rest
    startOf word behind
  | _ => word.length

end TenantSearch.Stemming
