import NamespaceBootstrap.Json.Error

/-!
Failures of the shared configuration values: a value that breaks a rule of its own (an empty
command, an environment entry without `=`, a process id that is not positive), or a payload
that is not the JSON of an init configuration.
-/

namespace NamespaceBootstrap

/-- A configuration value that cannot be used. -/
inductive ConfigError where
  | invalid (reason : String)
  | json (err : Json.ReadError)
  deriving DecidableEq, Repr

def ConfigError.message : ConfigError → String
  | .invalid reason => "Invalid configuration: " ++ reason
  | .json err => "JSON error: " ++ err.message

/-- The failure with its cause: a JSON failure is the cause of the failure that names it. -/
def ConfigError.chain (e : ConfigError) : String :=
  match e with
  | .invalid _ => e.message
  | .json err => e.message ++ ": " ++ err.message

end NamespaceBootstrap
