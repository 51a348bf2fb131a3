import TenantSearch.Toml.Quoted
import TenantSearch.Toml.Table

/-! Reading TOML documents: keys, values and headers, and the whole text line by line. Every reader
gives what it has read and the rest of the text, or nothing where the text is not TOML. -/
namespace TenantSearch.Toml

def isBareKey (c : Char) : Bool := c.isAlphanum || c == '-' || c == '_'

def simpleKey? (text : Text) : Option (Text × Text) :=
  match text with
  | '"' :: rest => basic? (rest.length + 1) rest
  | '\'' :: rest => literal? rest
  | _ =>
    let key := text.takeWhile isBareKey
    if key.isEmpty then none else some (key, text.dropWhile isBareKey)

def key? : Nat → Text → Option (List Text × Text)
  | 0, _ => none
  | steps + 1, text => do
    let (part, rest) ← simpleKey? (skipBlanks text)
    match skipBlanks rest with
    | '.' :: rest =>
      let (parts, rest) ← key? steps rest
      return (part :: parts, rest)
    | rest => return ([part], rest)

def skipComment? (text : Text) : Option Text :=
  match text with
  | '#' :: rest =>
    let rest := rest.dropWhile isPlain
    if rest.isEmpty || (newline? rest).isSome then some rest else none
  | _ => some text

def skipTrivia? : Nat → Text → Option Text
  | 0, text => some text
  | steps + 1, text => do
    let rest ← skipComment? (skipBlanks text)
    match newline? rest with
    | some rest => skipTrivia? steps rest
    | none => return rest

def endsScalar (c : Char) : Bool :=
  c == ' ' || c == '\t' || c == '\n' || c == '\r' || c == ',' || c == ']' || c == '\x7d' || c == '#'

/-- Reads an unquoted value. A blank belongs to it where it stands between a date and a time. -/
def unquoted? (text : Text) : Option (Document × Text) :=
  let word := text.takeWhile (!endsScalar ·)
  let rest := text.dropWhile (!endsScalar ·)
  match rest with
  | ' ' :: behind =>
    let time := behind.takeWhile (!endsScalar ·)
    if date? word == some [] && time.head?.any Char.isDigit then
      (scalar? (word ++ ' ' :: time)).map (·, behind.dropWhile (!endsScalar ·))
    else (scalar? word).map (·, rest)
  | _ => (scalar? word).map (·, rest)

def inlineTable? (values : List (List Text × Document)) : Option Document :=
  (Members.fill [] values).map fun members =>
    Entry.toDocument (values.foldl (fun depth (path, _) => max depth path.length) 0 + 1)
      (.table .opened members)

mutual

/-- Reads a value; `steps` bounds the nesting and the number of its parts. -/
def value? : Nat → Text → Option (Document × Text)
  | 0, _ => none
  | steps + 1, text =>
    match text with
    | '[' :: rest => do
      let (items, rest) ← items? steps rest
      return (.array items, rest)
    | '\x7b' :: rest => do
      let (values, rest) ← pairs? steps rest
      return (← inlineTable? values, rest)
    | '"' :: _ | '\'' :: _ => (quoted? text).map fun (found, rest) => (.text found, rest)
    | _ => unquoted? text

def items? : Nat → Text → Option (List Document × Text)
  | 0, _ => none
  | steps + 1, text => do
    match ← skipTrivia? text.length text with
    | ']' :: rest => return ([], rest)
    | start =>
      let (item, rest) ← value? steps start
      match ← skipTrivia? rest.length rest with
      | ',' :: rest =>
        let (items, rest) ← items? steps rest
        return (item :: items, rest)
      | ']' :: rest => return ([item], rest)
      | _ => none

def pairs? : Nat → Text → Option (List (List Text × Document) × Text)
  | 0, _ => none
  | steps + 1, text => do
    match ← skipTrivia? text.length text with
    | '\x7d' :: rest => return ([], rest)
    | start =>
      let (path, rest) ← key? start.length start
      let rest ← Text.literal? '=' rest
      let (value, rest) ← value? steps (skipBlanks rest)
      match ← skipTrivia? rest.length rest with
      | ',' :: rest =>
        let (pairs, rest) ← pairs? steps rest
        return ((path, value) :: pairs, rest)
      | '\x7d' :: rest => return ([(path, value)], rest)
      | _ => none

end

/-- A line that says something: a header, or a value under a dotted key. -/
inductive Statement where
  | header (repeated : Bool) (path : List Text)
  | assignment (path : List Text) (value : Document)

def statement? (text : Text) : Option (Statement × Text) :=
  match text with
  | '[' :: '[' :: rest => do
    let (path, rest) ← key? rest.length rest
    let rest ← Text.literal? ']' (← Text.literal? ']' rest)
    return (.header true path, rest)
  | '[' :: rest => do
    let (path, rest) ← key? rest.length rest
    return (.header false path, ← Text.literal? ']' rest)
  | _ => do
    let (path, rest) ← key? text.length text
    let rest ← Text.literal? '=' rest
    let (value, rest) ← value? (rest.length + 1) (skipBlanks rest)
    return (.assignment path value, rest)

def statements? : Nat → Text → Option (List Statement)
  | 0, _ => none
  | steps + 1, text => do
    let endOfLine (text : Text) : Option (List Statement) := do
      let rest ← skipComment? (skipBlanks text)
      if rest.isEmpty then return []
      else statements? steps (← newline? rest)
    let start := skipBlanks text
    if start.isEmpty || start.head? == some '#' || (newline? start).isSome then endOfLine start
    else
      let (statement, rest) ← statement? start
      return statement :: (← endOfLine rest)

def untilHeader : List Statement → List (List Text × Document) × List Statement
  | .assignment path value :: rest =>
    let (values, rest) := untilHeader rest
    ((path, value) :: values, rest)
  | rest => ([], rest)

def addSections : Nat → List Statement → Members → Option Members
  | steps + 1, .header repeated path :: rest, members => do
    let (values, rest) := untilHeader rest
    addSections steps rest (← members.addSection repeated values path)
  | _, [], members => some members
  | _, _, _ => none

/-- Reads a document. A byte order mark may stand before it. -/
def parse? (text : Text) : Option Document := do
  let text := if text.head? == some '\uFEFF' then text.drop 1 else text
  let statements ← statements? (text.length + 1) text
  let (values, sections) := untilHeader statements
  let members ← addSections sections.length sections (← Members.fill [] values)
  return Entry.toDocument (text.length + 1) (.table .opened members)

end TenantSearch.Toml
