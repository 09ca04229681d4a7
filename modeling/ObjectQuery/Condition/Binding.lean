import ObjectQuery.Compilation
import ObjectQuery.Condition.Basic
import ObjectQuery.Condition.Fragment
import ObjectQuery.Parameters
import ObjectQuery.Search.Basic

/-!
# From criteria to conditions

Criteria become conditions when their values are bound to parameters. Values are bound from left to
right, in the order in which the text names them. A leaf that asks about a field always finds names
for its values; the parameters of a fragment bring their own names, which can be in conflict with
what is bound already.
-/

namespace ObjectQuery

/-- A value as it is compared: upper-cased unless case matters. -/
def Value.foldUnless (value : Value) (caseSensitive : Bool) : Value :=
  if caseSensitive then value else value.toUpper

namespace LikePattern

/-- The text that a field is matched against. -/
def boundText (pattern : LikePattern) (caseSensitive : Bool) : String :=
  pattern.wrap (if caseSensitive then pattern.text else Uppercase.ofText pattern.text)

end LikePattern

namespace Conditional

/-- The field that a leaf asks about, as one side of a predicate. -/
def subject (conditional : Conditional) : Operand :=
  .field conditional.field conditional.test.isCaseInsensitive

/-- The predicate of a leaf, and the parameters once its values are bound. A list of one value is
that value, but its name is made from the list. -/
def bind (conditional : Conditional) (emptyList : EmptyList) (parameters : Parameters) :
    Predicate × Parameters :=
  let name := conditional.field.name
  let subject := conditional.subject
  match conditional.test with
  | .compare operator value _ =>
      let stored := value.foldUnless (!conditional.test.isCaseInsensitive)
      let (token, parameters) := parameters.bind name value stored
      match operator with
      | .memberOf => (.binary (.placeholder token) (.comparison .memberOf) subject, parameters)
      | operator => (.binary subject (.comparison operator) (.placeholder token), parameters)
  | .compareField operator other caseSensitive =>
      (.binary subject (.comparison operator) (.field other (!caseSensitive)), parameters)
  | .between low high =>
      let (lowToken, parameters) := parameters.bind name low low
      let (highToken, parameters) := parameters.bind name high high
      (.between subject lowToken highToken, parameters)
  | .among [] _ =>
      match emptyList with
      | .alwaysFalse => (.never, parameters)
      | .nothing => (.amongNothing subject, parameters)
  | .among [value] caseSensitive =>
      let stored := value.foldUnless caseSensitive
      let (token, parameters) := parameters.bind name (.list [value]) stored
      (.binary subject (.comparison .eq) (.placeholder token), parameters)
  | .among values caseSensitive =>
      let stored := Value.list (values.map fun value => value.foldUnless caseSensitive)
      let (token, parameters) := parameters.bind name (.list values) stored
      (.amongListed subject token, parameters)
  | .like pattern caseSensitive =>
      let stored := Value.text (pattern.boundText caseSensitive)
      let (token, parameters) := parameters.bind name (.text pattern.text) stored
      (.binary subject .like (.placeholder token), parameters)
  | .null negated => (.unary subject (if negated then .isNotNull else .isNull), parameters)
  | .empty negated => (.unary subject (if negated then .isNotEmpty else .isEmpty), parameters)

/-- What a leaf leaves to be noted. -/
def events (conditional : Conditional) (emptyList : EmptyList) : List LogEvent :=
  match conditional.test, emptyList with
  | .among [] _, .nothing => [.emptyList conditional.field.name]
  | _, _ => []

end Conditional

namespace PersonalCriteria

/-- Binds one parameter of a fragment under its own name, if the text refers to it. A name that is
bound already is shared, provided that its value is equal. -/
def bindParameter (personal : PersonalCriteria) (parameters : Parameters) :
    String × Value → Compilation Parameters
  | (name, value) =>
      if personal.mentions name then
        match parameters.get? name with
        | none => pure (parameters.add name value)
        | some bound =>
            if bound == value then pure parameters
            else .fail (.conflictingParameter name bound value)
      else do
        .emit [.unusedParameter name]
        return parameters

/-- Binds the parameters of a fragment in the order in which they are declared. -/
def bind (personal : PersonalCriteria) (parameters : Parameters) : Compilation Parameters :=
  personal.parameters.foldlM personal.bindParameter parameters

end PersonalCriteria

namespace Criteria

mutual

/-- The condition that criteria say, and the parameters once all values are bound. -/
def bind (emptyList : EmptyList) (parameters : Parameters) :
    Criteria → Compilation (Condition × Parameters)
  | .conditional leaf => do
      .emit (leaf.events emptyList)
      let (predicate, parameters) := leaf.bind emptyList parameters
      return (.predicate predicate, parameters)
  | .not criteria => do
      let (condition, parameters) ← criteria.bind emptyList parameters
      return (.not condition, parameters)
  | .group operator members => do
      let (conditions, parameters) ← bindAll emptyList parameters members
      return (.group operator conditions, parameters)
  | .personal leaf => do
      let parameters ← leaf.bind parameters
      return (.fragment leaf.text, parameters)

/-- The conditions that several criteria say, bound one after the other. -/
def bindAll (emptyList : EmptyList) (parameters : Parameters) :
    List Criteria → Compilation (List Condition × Parameters)
  | [] => pure ([], parameters)
  | criteria :: rest => do
      let (condition, parameters) ← criteria.bind emptyList parameters
      let (conditions, parameters) ← bindAll emptyList parameters rest
      return (condition :: conditions, parameters)

end

end Criteria

end ObjectQuery
