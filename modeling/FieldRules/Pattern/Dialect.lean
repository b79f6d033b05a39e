import FieldRules.Pattern.Delimited
import FieldRules.Pattern.Parser
import FieldRules.Pattern.Search
/-!
# The dialect of the expressions

The expressions that are read here, as one dialect for the patterns of rules. Other dialects have more classes of
characters; what is said of patterns in rules is said of every dialect.
-/

namespace FieldRules.Pattern

/-- An expression is read without flags, and may set them itself. -/
def Expr.dialect : Dialect := fun source => ((parse {} source.toList).map matchesIn).mapError Flaw.message

end FieldRules.Pattern
