import ObjectQuery.Entity.Basic
import ObjectQuery.Value.Basic

/-!
# Criteria

What a search asks of the entities it looks for, as a tree. A leaf asks one question about one
field, or is a fragment of query text written by hand. Equality of criteria is that of the values
in them, so criteria that hold no number in a float are not equal to themselves.
-/

namespace ObjectQuery

/-- A property of an owner. -/
structure Field where
  name : String
  owner : Owner := .root
deriving DecidableEq, Repr

/-- The text of a field in a statement: its name, qualified by the alias of its owner. -/
def Field.path (field : Field) : String :=
  field.owner.aliasName ++ "." ++ field.name

/-- The relations between a field and one operand. -/
inductive ComparisonOperator where
  | eq
  | ne
  | le
  | ge
  | gt
  | lt
  | memberOf
deriving DecidableEq, Repr

def ComparisonOperator.keyword : ComparisonOperator → String
  | .eq => "="
  | .ne => "<>"
  | .le => "<="
  | .ge => ">="
  | .gt => ">"
  | .lt => "<"
  | .memberOf => "MEMBER OF"

/-- Everything that can be asked of a field. -/
inductive ConditionalOperator where
  | comparison (operator : ComparisonOperator)
  | between
  | among
  | like
  | isNull
  | isNotNull
  | isEmpty
  | isNotEmpty
deriving DecidableEq, Repr

def ConditionalOperator.keyword : ConditionalOperator → String
  | .comparison operator => operator.keyword
  | .between => "BETWEEN"
  | .among => "IN"
  | .like => "LIKE"
  | .isNull => "IS NULL"
  | .isNotNull => "IS NOT NULL"
  | .isEmpty => "IS EMPTY"
  | .isNotEmpty => "IS NOT EMPTY"

/-- The text that a field has to contain, or to start with, end with or be, by the sides on which
anything may stand. -/
structure LikePattern where
  text : String
  leftWildcard : Bool := true
  rightWildcard : Bool := true
deriving DecidableEq, Repr

/-- A text, with the wildcard on the sides of the pattern that have one. -/
def LikePattern.wrap (pattern : LikePattern) (text : String) : String :=
  (if pattern.leftWildcard then "%" else "") ++ text ++ if pattern.rightWildcard then "%" else ""

/-- A question about a field, with its operands. -/
inductive FieldTest where
  | compare (operator : ComparisonOperator) (value : Value) (caseSensitive : Bool := true)
  | compareField (operator : ComparisonOperator) (other : Field) (caseSensitive : Bool := true)
  /-- Both ends are included. -/
  | between (low high : Value)
  | among (values : List Value) (caseSensitive : Bool := true)
  | like (pattern : LikePattern) (caseSensitive : Bool := false)
  | null (negated : Bool := false)
  /-- The question is about a collection. -/
  | empty (negated : Bool := false)
deriving BEq

namespace FieldTest

def operator : FieldTest → ConditionalOperator
  | .compare operator _ _ => .comparison operator
  | .compareField operator _ _ => .comparison operator
  | .between _ _ => .between
  | .among _ _ => .among
  | .like _ _ => .like
  | .null negated => if negated then .isNotNull else .isNull
  | .empty negated => if negated then .isNotEmpty else .isEmpty

/-- Whether both sides are upper-cased before they are compared. A single value is compared as it is
unless it is a text. -/
def isCaseInsensitive : FieldTest → Bool
  | .compare _ value caseSensitive => !caseSensitive && value.isText
  | .compareField _ _ caseSensitive => !caseSensitive
  | .among _ caseSensitive => !caseSensitive
  | .like _ caseSensitive => !caseSensitive
  | .between _ _ | .null _ | .empty _ => false

end FieldTest

structure Conditional where
  field : Field
  test : FieldTest
deriving BEq

inductive LogicalOperator where
  | and
  | or
deriving DecidableEq, Repr

def LogicalOperator.keyword : LogicalOperator → String
  | .and => "AND"
  | .or => "OR"

/-- A fragment of query text. Its placeholders stand for fields. The values of its parameters count
only if the text refers to them. -/
structure PersonalCriteria where
  query : String
  placeholders : List (String × Field) := []
  parameters : List (String × Value) := []
  /-- Whether the fragment narrows down what a count counts. -/
  appliesInCount : Bool := true
deriving BEq

inductive Criteria where
  | conditional (leaf : Conditional)
  | not (criteria : Criteria)
  | group (operator : LogicalOperator) (members : List Criteria)
  | personal (leaf : PersonalCriteria)

namespace Criteria

/-- Whether the criteria narrow down what a count counts. Only a fragment can opt out. -/
def appliesInCount : Criteria → Bool
  | .personal leaf => leaf.appliesInCount
  | .conditional _ | .not _ | .group _ _ => true

mutual

def equal : Criteria → Criteria → Bool
  | .conditional leaf, .conditional leaf' => leaf == leaf'
  | .not criteria, .not criteria' => criteria.equal criteria'
  | .group operator members, .group operator' members' =>
      operator == operator' && equalMembers members members'
  | .personal leaf, .personal leaf' => leaf == leaf'
  | _, _ => false

def equalMembers : List Criteria → List Criteria → Bool
  | [], [] => true
  | criteria :: rest, criteria' :: rest' => criteria.equal criteria' && equalMembers rest rest'
  | _, _ => false

end

instance : BEq Criteria where
  beq := equal

end Criteria

end ObjectQuery
