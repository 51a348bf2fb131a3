/-! Suffix rules, shared by the stemmers. A rule table lists groups of suffixes with what to do for
each group; the longest suffix that a word ends in decides which group applies. -/
namespace TenantSearch.Stemming

def oneOf (characters : String) (c : Char) : Bool := characters.toList.contains c

def before? (suffix : String) (word : List Char) : Option (List Char) :=
  let kept := word.length - suffix.length
  if word.drop kept == suffix.toList then some (word.take kept) else none

def endsIn (suffix : String) (word : List Char) : Bool := (before? suffix word).isSome

/-- The longest suffix of a table that a word ends in and that starts at or after `start`: the
group it belongs to, and what stands before it. -/
def longest? {α : Type} (start : Nat) (table : List (List String × α)) (word : List Char) :
    Option (α × List Char) :=
  let found := table.flatMap fun (suffixes, group) =>
    (suffixes.filterMap (before? · word)).map fun stem => (group, stem)
  (found.filter fun (_, stem) => start ≤ stem.length).foldl (fun best (group, stem) =>
    match best with
    | some (_, shortest) => if stem.length < shortest.length then some (group, stem) else best
    | none => some (group, stem)) none

/-- A stem is accepted if it reaches the start of a region, that is, if what follows it lies in
that region. -/
def inRegion (start : Nat) (stem : List Char) : Option (List Char) :=
  if start ≤ stem.length then some stem else none

def without (suffix : String) (start : Nat) (word : List Char) : List Char :=
  ((before? suffix word).bind (inRegion start)).getD word

def withoutLongest (suffixes : List String) (start : Nat) (word : List Char) : List Char :=
  match longest? 0 [(suffixes, ())] word with
  | some (_, stem) => (inRegion start stem).getD word
  | none => word

def ending (stem : List Char) (replacement : String) : List Char := stem ++ replacement.toList

def replacing (start : Nat) (replacement : String) (stem : List Char) : Option (List Char) :=
  (inRegion start stem).map (ending · replacement)

/-- A table of rules: what each group of suffixes makes of the stem before it, unless it refuses. -/
abbrev Rules := List (List String × (List Char → Option (List Char)))

def applyRules? (rules : Rules) (word : List Char) : Option (List Char) :=
  match longest? 0 rules word with
  | some (rule, stem) => rule stem
  | none => none

def applyRules (rules : Rules) (word : List Char) : List Char :=
  (applyRules? rules word).getD word

end TenantSearch.Stemming
