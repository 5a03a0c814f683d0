import TableBrowser.Expression.Syntax
import TableBrowser.Json.Tagged
/-!
# Outlines of expressions

The tree of an expression as a document: every node is a list that starts with
the kind of the node.
-/

namespace TableBrowser.Expression

def node (kind : String) (parts : List Datum) : Datum := .list (.text kind :: parts)

/-- The tree of an expression; literals are written as cells. -/
def outline : Expression → Datum
  | .literal value => node "lit" [Json.Tagged.encode value]
  | .column name position => node "col" [.text name, .integer position]
  | .and left right => node "and" [left.outline, right.outline]
  | .or left right => node "or" [left.outline, right.outline]
  | .not operand => node "not" [operand.outline]
  | .negation operand => node "neg" [operand.outline]
  | .arithmetic operator left right =>
      node "bin" [.text operator.symbol, left.outline, right.outline]
  | .comparison operator left right =>
      node "cmp" [.text operator.symbol, left.outline, right.outline]
  | .textTest operator left right =>
      node "str" [.text operator.word, left.outline, right.outline]

end TableBrowser.Expression
