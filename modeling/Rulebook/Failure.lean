/-!
# Failures

What can go wrong apart from a value that breaks its rules: a rule string that does not compile,
settings that do not load, a record store that cannot be asked.

* `isConfiguration_iff`: the failures that compiling a rule string can have.
-/

namespace Rulebook

inductive Failure where
  | parse (text : String)
  | unknownRule (name : String)
  | missingArgument (rule text : String)
  | invalidArgument (rule text : String)
  | settings (text : String)
  | storeInitialization (text : String)
  | storeQuery (text : String)
  | storeUnavailable (text : String)
  | lock (text : String)
  deriving DecidableEq

namespace Failure

def message : Failure → String
  | parse text => "Parse error: " ++ text
  | unknownRule name => "Unknown validation rule: " ++ name
  | missingArgument rule text => "Missing argument for '" ++ rule ++ "': " ++ text
  | invalidArgument rule text => "Invalid argument for '" ++ rule ++ "': " ++ text
  | settings text => "Config error: " ++ text
  | storeInitialization text => "Store initialization failed: " ++ text
  | storeQuery text => "Store query failed: " ++ text
  | storeUnavailable text => "Store unavailable: " ++ text
  | lock text => "Lock poisoned: " ++ text

/-- Whether the failure lies in a rule string, so that trying again cannot help. -/
def isConfiguration : Failure → Bool
  | parse _ | unknownRule _ | missingArgument _ _ | invalidArgument _ _ => true
  | _ => false

theorem isConfiguration_iff (f : Failure) :
    f.isConfiguration = true ↔
      (∃ text, f = parse text) ∨ (∃ name, f = unknownRule name) ∨
        (∃ rule text, f = missingArgument rule text) ∨
          ∃ rule text, f = invalidArgument rule text := by
  cases f <;> simp [isConfiguration]

end Failure

end Rulebook
