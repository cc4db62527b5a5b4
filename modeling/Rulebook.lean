import Rulebook.Main
import Rulebook.Store.Memory
import Rulebook.Proofs.Store.Interleaving
import Rulebook.Proofs.Store.SingleFlight
import Rulebook.Proofs.Validation.Composition
import Rulebook.Proofs.Validation.Documents
import Rulebook.Proofs.Store.Sessions
import Rulebook.Proofs.Field.Coercion
import Rulebook.Proofs.Store.Lookups
import Rulebook.Proofs.Field.Presence
import Rulebook.Proofs.Validation.Acceptance
import Rulebook.Proofs.Rule.Tokenwise
import Rulebook.Proofs.Validation.Relocation
import Rulebook.Proofs.Validation.Questions
import Rulebook.Proofs.Store.Attempts
import Rulebook.Proofs.Store.Freshness
import Rulebook.Proofs.Validation.DatePlaces
import Rulebook.Proofs.Validation.Direct
import Rulebook.Proofs.Store.Retries
import Rulebook.Proofs.Validation.ViolationPlaces
import Rulebook.Proofs.Store.Inserted
import Rulebook.Proofs.Field.Milliseconds
import Rulebook.Proofs.Validation.Messages
import Rulebook.Proofs.Store.Integers
import Rulebook.Proofs.CommandLine.Checks
import Rulebook.Proofs.Rule.Grammar
import Rulebook.Proofs.Rule.Splitting
import Rulebook.Proofs.Calendar.Layouts
import Rulebook.Proofs.Field.Instants
import Rulebook.Proofs.Rule.Compilation
import Rulebook.Proofs.Validation.Neutral
import Rulebook.Proofs.Validation.Turns
import Rulebook.Proofs.Validation.Elements
import Rulebook.Proofs.Field.Overlays
import Rulebook.Proofs.Field.Declarations
import Rulebook.Proofs.Rule.Lengths
import Rulebook.Proofs.Field.Formats
import Rulebook.Proofs.Store.Names
import Rulebook.Proofs.Settings.Overrides
import Rulebook.Proofs.Rule.Positions
import Rulebook.Proofs.Validation.Journals
