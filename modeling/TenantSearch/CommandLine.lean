import TenantSearch.Text.Basic

/-! The command line: one option, which names the configuration file, and the two flags that every
program has. -/
namespace TenantSearch.CommandLine

/-- What ends the reading of a command line without a configuration file. -/
inductive Refusal where
  | missingArgument
  | invalidValue
  | unknownArgument
  | argumentConflict
  | tooManyValues
  | displayHelp
  | displayVersion
  deriving DecidableEq, Repr

namespace Refusal

def name : Refusal → String
  | missingArgument => "MissingRequiredArgument"
  | invalidValue => "InvalidValue"
  | unknownArgument => "UnknownArgument"
  | argumentConflict => "ArgumentConflict"
  | tooManyValues => "TooManyValues"
  | displayHelp => "DisplayHelp"
  | displayVersion => "DisplayVersion"

def exitCode : Refusal → Nat
  | displayHelp | displayVersion => 0
  | _ => 2

end Refusal

/-- Where the reading stands: the value that the option has got, and what is known of the option
that was named last. Its value is due, or has been read and is still to be taken. -/
structure State where
  config : Option Text := none
  due : Option (Option Text) := none
  deriving DecidableEq, Repr

namespace State

def take (state : State) (value : Text) : Except Refusal State :=
  if state.config.isSome then .error .argumentConflict
  else if value.isEmpty then .error .invalidValue
  else .ok { config := some value }

def settle (state : State) : Except Refusal State :=
  match state.due with
  | none => .ok state
  | some none => .error .invalidValue
  | some (some value) => state.take value

def option (state : State) (value : Option Text) : Except Refusal State := do
  let state ← state.settle
  match value with
  | some value => state.take value
  | none => return { state with due := some none }

def flag (state : State) (refusal : Refusal) : Except Refusal State := do
  let _ ← state.settle
  throw refusal

def long (state : State) (argument : Text) : Except Refusal State :=
  let name := argument.takeWhile (· != '=')
  let value := if argument.contains '=' then some ((argument.dropWhile (· != '=')).drop 1) else none
  if name = "config".toList then state.option value
  else if name = "help".toList then
    if value.isSome then .error .tooManyValues else state.flag .displayHelp
  else if name = "version".toList then
    if value.isSome then .error .tooManyValues else state.flag .displayVersion
  else .error .unknownArgument

def short (state : State) : Text → Except Refusal State
  | 'c' :: '=' :: value => state.option (some value)
  | ['c'] => state.option none
  | 'c' :: value => state.option (some value)
  | 'h' :: _ => state.flag .displayHelp
  | 'V' :: _ => state.flag .displayVersion
  | _ => .error .unknownArgument

end State

/-- Reads the arguments behind the name of the program. After two hyphens alone no option is read,
and an argument that belongs to no option is not known. -/
def read (state : State) : List Text → Except Refusal State
  | [] => state.settle
  | ['-', '-'] :: rest => if rest.isEmpty then state.settle else .error .unknownArgument
  | ('-' :: '-' :: argument) :: rest => do read (← state.long argument) rest
  | ('-' :: letter :: argument) :: rest => do read (← state.short (letter :: argument)) rest
  | value :: rest =>
    if state.due = some none then read { state with due := some (some value) } rest
    else .error .unknownArgument

/-- The configuration file that a command line names; its first argument is the program. -/
def parse (arguments : List Text) : Except Refusal Text := do
  match (← read {} (arguments.drop 1)).config with
  | some config => return config
  | none => throw .missingArgument

end TenantSearch.CommandLine
