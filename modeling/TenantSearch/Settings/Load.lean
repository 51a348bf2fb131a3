import TenantSearch.Settings.Read
import TenantSearch.Settings.Validate
import TenantSearch.Toml.Parser

/-! Loading settings from the text of a configuration file. -/
namespace TenantSearch

inductive SettingsError where
  | unreadable
  | malformed
  | invalid (rule : SettingsRule)
  deriving DecidableEq, Repr

def SettingsError.message (path : String) : SettingsError → String
  | unreadable => "Failed to read config file at \"" ++ path ++ "\"."
  | malformed => "Failed to parse config file at \"" ++ path ++ "\"."
  | invalid rule => rule.message

namespace Settings

def parse (text : Text) : Except SettingsError Settings :=
  match (Toml.parse? text).bind ofDocument? with
  | some settings => .ok settings
  | none => .error .malformed

def check (settings : Settings) : Except SettingsError Settings :=
  match settings.broken? with
  | some rule => .error (.invalid rule)
  | none => .ok settings

/-- Loads the contents of a file; there are none if it cannot be read as text. -/
def load (contents : Option Text) : Except SettingsError Settings :=
  match contents with
  | none => .error .unreadable
  | some text => (parse text).bind fun settings => settings.normalize.check

end Settings

end TenantSearch
