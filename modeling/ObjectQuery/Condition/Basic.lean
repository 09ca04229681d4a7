import ObjectQuery.Criteria.Basic

/-!
# Conditions

What a statement's conditions say, as a tree: criteria whose values have given way to the names of
parameters. The text of a condition puts more than one member of a group into parentheses. A group
without members is a constant, the one that changes nothing in its own kind of group.
-/

namespace ObjectQuery

/-- The call of a function with one argument. -/
def callText (function argument : String) : String :=
  function ++ "(" ++ argument ++ ")"

/-- One side of a predicate. -/
inductive Operand where
  /-- A field, upper-cased if `folded`. -/
  | field (subject : Field) (folded : Bool)
  | placeholder (name : String)
deriving DecidableEq, Repr

/-- The text that stands for the value of a parameter. -/
def placeholderText (name : String) : String :=
  ":" ++ name

def Operand.text : Operand → String
  | .field subject folded => if folded then callText "UPPER" subject.path else subject.path
  | .placeholder name => placeholderText name

/-- A condition on one field. -/
inductive Predicate where
  /-- Two sides with an operator between them. -/
  | binary (left : Operand) (operator : ConditionalOperator) (right : Operand)
  | between (subject : Operand) (low high : String)
  /-- The subject is in the list that a parameter stands for. -/
  | amongListed (subject : Operand) (list : String)
  /-- The subject is in no list at all, which no store will accept. -/
  | amongNothing (subject : Operand)
  /-- A test without another side. -/
  | unary (subject : Operand) (operator : ConditionalOperator)
  | never
deriving DecidableEq, Repr

def alwaysTrue : String := "1 = 1"

def alwaysFalse : String := "1 = 0"

def Predicate.text : Predicate → String
  | .binary left operator right => left.text ++ " " ++ operator.keyword ++ " " ++ right.text
  | .between subject low high =>
      subject.text ++ " BETWEEN " ++ placeholderText low ++ " AND " ++ placeholderText high
  | .amongListed subject list => subject.text ++ " IN (" ++ placeholderText list ++ ")"
  | .amongNothing subject => subject.text ++ " IN "
  | .unary subject operator => subject.text ++ " " ++ operator.keyword
  | .never => alwaysFalse

inductive Condition where
  | predicate (leaf : Predicate)
  | not (condition : Condition)
  | group (operator : LogicalOperator) (members : List Condition)
  /-- Text written by hand. -/
  | fragment (content : String)

/-- Members of a group in one text, given their own texts. -/
def groupText (operator : LogicalOperator) (members : List String) : String :=
  match members with
  | [] =>
      match operator with
      | .and => alwaysTrue
      | .or => alwaysFalse
  | [member] => member
  | members => "(" ++ (" " ++ operator.keyword ++ " ").intercalate members ++ ")"

namespace Condition

mutual

def text : Condition → String
  | .predicate leaf => leaf.text
  | .not condition => "NOT (" ++ condition.text ++ ")"
  | .group operator members => groupText operator (memberTexts members)
  | .fragment content => content

/-- The texts of the members of a group. -/
def memberTexts : List Condition → List String
  | [] => []
  | condition :: rest => condition.text :: memberTexts rest

end

/-- Conditions that all have to hold, after the keyword. Without conditions there is no text. -/
def whereText (conditions : List Condition) : String :=
  if conditions.isEmpty then "" else " WHERE " ++ " AND ".intercalate (memberTexts conditions)

end Condition

end ObjectQuery
