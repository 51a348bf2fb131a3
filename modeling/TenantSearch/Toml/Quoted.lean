import TenantSearch.Document
import TenantSearch.Toml.Scalar

/-! The quoted texts of TOML: basic ones, in which a backslash starts an escape, and literal ones,
each on one line or over several. -/
namespace TenantSearch.Toml

def isPlain (c : Char) : Bool := c == '\t' || (0x20 ≤ c.toNat && c.toNat != 0x7F)

def codePoint? (count : Nat) (text : Text) : Option (Char × Text) :=
  let digits := text.take count
  if digits.length = count && digits.all (fun c => (digit? 16 c).isSome) then
    let code := number 16 digits
    if code.isValidChar then some (Char.ofNat code, text.drop count) else none
  else none

def escape? : Text → Option (Char × Text)
  | 'b' :: rest => some ('\x08', rest)
  | 't' :: rest => some ('\t', rest)
  | 'n' :: rest => some ('\n', rest)
  | 'f' :: rest => some ('\x0c', rest)
  | 'r' :: rest => some ('\r', rest)
  | 'e' :: rest => some ('\x1b', rest)
  | '"' :: rest => some ('"', rest)
  | '\\' :: rest => some ('\\', rest)
  | 'x' :: rest => codePoint? 2 rest
  | 'u' :: rest => codePoint? 4 rest
  | 'U' :: rest => codePoint? 8 rest
  | _ => none

def skipBlanks (text : Text) : Text := text.dropWhile fun c => c == ' ' || c == '\t'

def newline? : Text → Option Text
  | '\n' :: rest => some rest
  | '\r' :: '\n' :: rest => some rest
  | _ => none

def skipSpace : Nat → Text → Text
  | 0, text => text
  | steps + 1, text =>
    match newline? text with
    | some rest => skipSpace steps rest
    | none =>
      match text with
      | ' ' :: rest | '\t' :: rest => skipSpace steps rest
      | _ => text

def push (found : Text) (read : Option (Text × Text)) : Option (Text × Text) :=
  read.map fun (more, rest) => (found ++ more, rest)

def basic? : Nat → Text → Option (Text × Text)
  | 0, _ | _ + 1, [] => none
  | steps + 1, c :: rest =>
    if c = '"' then some ([], rest)
    else if c = '\\' then (escape? rest).bind fun (found, rest) => push [found] (basic? steps rest)
    else if isPlain c then push [c] (basic? steps rest)
    else none

def literal? : Text → Option (Text × Text)
  | [] => none
  | c :: rest =>
    if c = '\'' then some ([], rest)
    else if isPlain c then push [c] (literal? rest)
    else none

/-- The quotes that end a text over several lines: three close it, and up to two more before them
belong to it. Fewer than three quotes do not end it. -/
def closing? (quote : Char) (text : Text) : Option (Text × Text) :=
  let quotes := (text.take 5).takeWhile (· == quote)
  if 3 ≤ quotes.length then some (quotes.drop 3, text.drop quotes.length) else none

/-- Reads a text over several lines up to the quotes that close it. In a basic one, escapes are
read, and a backslash at the end of a line takes the white space behind it away. `steps` bounds the
length of the text. -/
def lines? (quote : Char) : Nat → Text → Option (Text × Text)
  | 0, _ => none
  | steps + 1, text =>
    (closing? quote text).orElse fun _ =>
      match text with
      | [] => none
      | '\n' :: rest => push ['\n'] (lines? quote steps rest)
      | '\r' :: '\n' :: rest => push ['\r', '\n'] (lines? quote steps rest)
      | c :: rest =>
        if c = '\\' && quote == '"' then
          match escape? rest with
          | some (found, rest) => push [found] (lines? quote steps rest)
          | none => (newline? (skipBlanks rest)).bind fun rest =>
            lines? quote steps (skipSpace rest.length rest)
        else if isPlain c then push [c] (lines? quote steps rest)
        else none

def quoted? (text : Text) : Option (Text × Text) :=
  match text with
  | '"' :: '"' :: '"' :: rest => lines? '"' (rest.length + 1) ((newline? rest).getD rest)
  | '\'' :: '\'' :: '\'' :: rest => lines? '\'' (rest.length + 1) ((newline? rest).getD rest)
  | '"' :: rest => basic? (rest.length + 1) rest
  | '\'' :: rest => literal? rest
  | _ => none

end TenantSearch.Toml
