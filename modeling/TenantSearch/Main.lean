import TenantSearch.CommandLine
import TenantSearch.Settings.Load

/-! The command line program. It loads the configuration file that it is given and tells whether the
service can be started with it. -/

open TenantSearch

def readText? (path : String) : IO (Option Text) := do
  match ← (IO.FS.readFile path).toBaseIO with
  | .ok contents => return some contents.toList
  | .error _ => return none

def usage : String := "Usage: crm-api --config <FILE>"

def main (arguments : List String) : IO UInt32 := do
  match CommandLine.parse ([] :: arguments.map String.toList) with
  | .error refusal =>
    if refusal.exitCode = 0 then IO.println usage
    else
      IO.eprintln refusal.name
      IO.eprintln usage
    return UInt32.ofNat refusal.exitCode
  | .ok path =>
    let path := String.ofList path
    match Settings.load (← readText? path) with
    | .ok settings =>
      IO.println ("The service can listen on " ++ String.ofList settings.service.httpBind ++ ".")
      return 0
    | .error error =>
      IO.eprintln (error.message path)
      return 1
