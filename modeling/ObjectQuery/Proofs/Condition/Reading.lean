import Mathlib.Logic.Function.Iterate
import ObjectQuery.Condition.Basic

/-!
# Reading conditions

The usual grammar of conditions, as a reader. NOT binds tighter than AND and AND tighter than OR,
parentheses group, and a comparison is one atom, also if it is a range with an AND of its own. A
text is divided into words, the words of an atom are put together, and what remains is read from
left to right, with one level for each parenthesis that is open.
-/

namespace ObjectQuery

/-- What a text says about its atoms. -/
inductive Reading where
  | atom (text : String)
  | not (reading : Reading)
  | both (left right : Reading)
  | either (left right : Reading)
deriving DecidableEq, Repr

namespace Reading

/-- The value of a reading. Two atoms are constants, all others are as true as they are said to
be. -/
def eval (truth : String → Bool) : Reading → Bool
  | .atom text =>
      if text = "1 = 1" then true else if text = "1 = 0" then false else truth text
  | .not reading => !reading.eval truth
  | .both left right => left.eval truth && right.eval truth
  | .either left right => left.eval truth || right.eval truth

inductive Word where
  | opening
  | closing
  | and
  | or
  | not
  | between
  | among
  | is
  | null
  | empty
  | member
  | of
  | upper
  /-- An operator between two operands. -/
  | relation (symbol : String)
  | operand (text : String)
deriving DecidableEq, Repr

def Word.keywords : List (String × Word) :=
  [("AND", .and), ("OR", .or), ("NOT", .not), ("BETWEEN", .between), ("IN", .among), ("IS", .is),
    ("NULL", .null), ("EMPTY", .empty), ("MEMBER", .member), ("OF", .of), ("UPPER", .upper),
    ("=", .relation "="), ("<>", .relation "<>"), ("<=", .relation "<="), (">=", .relation ">="),
    (">", .relation ">"), ("<", .relation "<"), ("LIKE", .relation "LIKE")]

/-- What is no keyword is an operand. -/
def Word.ofText (text : String) : Word :=
  (Word.keywords.lookup text).getD (.operand text)

/-- Some words with the characters before them, which are a word if there are any. -/
def endWord (characters : List Char) (words : List Word) : List Word :=
  if characters.isEmpty then words else .ofText (String.ofList characters) :: words

/-- The characters that a text starts with, up to the end of a word, and the words behind them. -/
def scan : List Char → List Char × List Word
  | [] => ([], [])
  | c :: rest =>
      let (characters, words) := scan rest
      if c = ' ' then ([], endWord characters words)
      else if c = '(' then ([], .opening :: endWord characters words)
      else if c = ')' then ([], .closing :: endWord characters words)
      else (c :: characters, words)

/-- Words in which each call is one operand. -/
def foldCalls : List Word → List Word
  | [] => []
  | .upper :: .opening :: .operand argument :: .closing :: rest =>
      .operand ("UPPER(" ++ argument ++ ")") :: foldCalls rest
  | word :: rest => word :: foldCalls rest

def divide (text : List Char) : List Word :=
  endWord (scan text).1 (scan text).2

def words (text : List Char) : List Word :=
  foldCalls (divide text)

inductive Item where
  | opening
  | closing
  | and
  | or
  | not
  | atom (text : String)
deriving DecidableEq, Repr

/-- Words put together to atoms. -/
def items : List Word → Option (List Item)
  | [] => some []
  | .opening :: rest => (items rest).map (.opening :: ·)
  | .closing :: rest => (items rest).map (.closing :: ·)
  | .and :: rest => (items rest).map (.and :: ·)
  | .or :: rest => (items rest).map (.or :: ·)
  | .not :: rest => (items rest).map (.not :: ·)
  | .operand left :: .relation symbol :: .operand right :: rest =>
      (items rest).map (.atom (left ++ " " ++ symbol ++ " " ++ right) :: ·)
  | .operand element :: .member :: .of :: .operand collection :: rest =>
      (items rest).map (.atom (element ++ " MEMBER OF " ++ collection) :: ·)
  | .operand subject :: .between :: .operand low :: .and :: .operand high :: rest =>
      (items rest).map (.atom (subject ++ " BETWEEN " ++ low ++ " AND " ++ high) :: ·)
  | .operand subject :: .among :: .opening :: .operand list :: .closing :: rest =>
      (items rest).map (.atom (subject ++ " IN (" ++ list ++ ")") :: ·)
  | .operand subject :: .is :: .null :: rest =>
      (items rest).map (.atom (subject ++ " IS NULL") :: ·)
  | .operand subject :: .is :: .not :: .null :: rest =>
      (items rest).map (.atom (subject ++ " IS NOT NULL") :: ·)
  | .operand subject :: .is :: .empty :: rest =>
      (items rest).map (.atom (subject ++ " IS EMPTY") :: ·)
  | .operand subject :: .is :: .not :: .empty :: rest =>
      (items rest).map (.atom (subject ++ " IS NOT EMPTY") :: ·)
  | _ => none

/-- What stands within one parenthesis before the next factor. -/
structure Level where
  /-- What stands before the last OR. -/
  disjunction : Option Reading := none
  /-- What stands behind the last OR and before the last AND. -/
  conjunction : Option Reading := none
  /-- How many NOTs stand behind the last operator. -/
  negations : ℕ := 0

inductive State where
  /-- A factor has to follow. -/
  | awaiting (level : Level) (outer : List Level)
  /-- A factor has been read, as the last part of a conjunction. -/
  | complete (disjunction : Option Reading) (conjunction : Reading) (outer : List Level)

/-- A reading with what stands before it, if there is anything. -/
def join (operator : LogicalOperator) (before : Option Reading) (reading : Reading) : Reading :=
  match operator, before with
  | _, none => reading
  | .and, some left => .both left reading
  | .or, some left => .either left reading

/-- A level once a factor has been read. -/
def Level.complete (level : Level) (factor : Reading) (outer : List Level) : State :=
  .complete level.disjunction (join .and level.conjunction (Reading.not^[level.negations] factor))
    outer

def step : State → Item → Option State
  | .awaiting level outer, .not =>
      some (.awaiting { level with negations := level.negations + 1 } outer)
  | .awaiting level outer, .opening => some (.awaiting {} (level :: outer))
  | .awaiting level outer, .atom text => some (level.complete (.atom text) outer)
  | .complete disjunction conjunction outer, .and =>
      some (.awaiting { disjunction, conjunction := some conjunction } outer)
  | .complete disjunction conjunction outer, .or =>
      some (.awaiting { disjunction := some (join .or disjunction conjunction) } outer)
  | .complete disjunction conjunction (level :: outer), .closing =>
      some (level.complete (join .or disjunction conjunction) outer)
  | _, _ => none

def run (state : State) (items : List Item) : Option State :=
  items.foldlM step state

/-- The reading of a whole text, if all parentheses are closed. -/
def State.result? : State → Option Reading
  | .complete disjunction conjunction [] => some (join .or disjunction conjunction)
  | _ => none

/-- What a text says, if it is a condition. -/
def ofText? (text : String) : Option Reading := do
  let state ← run (.awaiting {} []) (← items (words text.toList))
  state.result?

example : (ofText? "NOT (e.a = :x OR UPPER(e.b) IS NULL) AND e.c BETWEEN :y AND :z OR 1 = 0").map
    (eval fun text => text = "e.c BETWEEN :y AND :z") = some true := by
  decide

/-- Items that are read as one factor, wherever a factor is awaited. -/
def IsFactor (items : List Item) (factor : Reading) : Prop :=
  ∀ level outer, run (.awaiting level outer) items = some (level.complete factor outer)

variable {items : List Item} {reading : Reading}

theorem run_append (state : State) (first second : List Item) :
    run state (first ++ second) = (run state first).bind fun between => run between second :=
  List.foldlM_append

theorem run_cons (state : State) (item : Item) (rest : List Item) :
    run state (item :: rest) = (step state item).bind fun between => run between rest :=
  List.foldlM_cons

theorem isFactor_atom (text : String) : IsFactor [.atom text] (.atom text) := by
  intro level outer
  rfl

theorem IsFactor.not (factor : IsFactor items reading) : IsFactor (.not :: items) reading.not := by
  intro level outer
  exact factor { level with negations := level.negations + 1 } outer

end Reading

namespace LogicalOperator

/-- The value of a group, given those of its members. -/
def holds : LogicalOperator → List Bool → Bool
  | .and, values => values.all id
  | .or, values => values.any id

theorem holds_cons_holds (operator : LogicalOperator) (values more : List Bool) :
    operator.holds (operator.holds values :: more) = operator.holds (values ++ more) := by
  cases operator <;> simp [holds]

theorem holds_append_holds (operator : LogicalOperator) (values more : List Bool) :
    operator.holds (values ++ [operator.holds more]) = operator.holds (values ++ more) := by
  cases operator <;> simp [holds]

@[simp]
theorem holds_singleton (operator : LogicalOperator) (value : Bool) :
    operator.holds [value] = value := by
  cases operator <;> simp [holds]

def item : LogicalOperator → Reading.Item
  | .and => .and
  | .or => .or

end LogicalOperator

namespace Reading

variable {operator : LogicalOperator} {before : Option Reading} {outer : List Level}
  {items : List Item} {member : Reading}

theorem eval_join (operator : LogicalOperator) (before : Option Reading) (reading : Reading)
    (truth : String → Bool) : (join operator before reading).eval truth =
      operator.holds ((before.toList ++ [reading]).map (eval truth)) := by
  cases before with
  | none => cases operator <;> simp [join, LogicalOperator.holds]
  | some left => cases operator <;> simp [join, eval, LogicalOperator.holds]

/-- Within a group of one kind, the next member has to follow. -/
def awaitingMember (operator : LogicalOperator) (before : Option Reading) (outer : List Level) :
    State :=
  match operator with
  | .and => .awaiting { conjunction := before } outer
  | .or => .awaiting { disjunction := before } outer

/-- Within a group of one kind, a member has been read. -/
def memberComplete (operator : LogicalOperator) (before : Option Reading) (member : Reading)
    (outer : List Level) : State :=
  match operator with
  | .and => .complete none (join .and before member) outer
  | .or => .complete before member outer

theorem IsFactor.run_awaitingMember (factor : IsFactor items member) :
    run (awaitingMember operator before outer) items =
      some (memberComplete operator before member outer) := by
  cases operator <;> exact factor _ outer

theorem step_memberComplete_item :
    step (memberComplete operator before member outer) operator.item =
      some (awaitingMember operator (some (join operator before member)) outer) := by
  cases operator <;> rfl

theorem step_memberComplete_closing {level : Level} :
    step (memberComplete operator before member (level :: outer)) .closing =
      some (level.complete (join operator before member) outer) := by
  cases operator <;> cases before <;> rfl

theorem result?_memberComplete :
    (memberComplete operator before member []).result? = some (join operator before member) := by
  cases operator <;> cases before <;> rfl

end Reading

end ObjectQuery
