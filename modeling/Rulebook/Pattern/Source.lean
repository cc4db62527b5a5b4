import Rulebook.Pattern.Matching
import Rulebook.Pattern.Reader
import Rulebook.Pattern.Size

/-!
# Patterns and their source text

A pattern keeps the text it was read from, which names it in messages and metadata. A pattern that
would take too much space is refused.
-/

namespace Rulebook

namespace Pattern

/-- Why a text is no pattern. -/
inductive Fault where
  | malformed
  | tooLarge
  deriving DecidableEq

/-- The first line of the report. -/
def Fault.message : Fault → String
  | malformed => "regex parse error:"
  | tooLarge => "Compiled regex exceeds size limit of 10485760 bytes."

end Pattern

structure Pattern where
  source : String
  expr : Pattern.Expr

namespace Pattern

def ofString (source : String) : Except Fault Pattern :=
  match Expr.read? source.toList with
  | none => .error .malformed
  | some expr => if expr.fits then .ok ⟨source, expr⟩ else .error .tooLarge

/-- Whether the pattern matches some part of a text. -/
def isMatch (p : Pattern) (text : String) : Bool := p.expr.isMatch text.toList.toArray

end Pattern

end Rulebook
