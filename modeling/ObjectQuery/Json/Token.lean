import ObjectQuery.Decimal.Literal
import ObjectQuery.Json.Basic

/-!
# JSON tokens

The words of a JSON text: six marks, texts, and the values that hold no others. `Token.scan?` splits
a text into its tokens and drops the blanks between them.
-/

namespace ObjectQuery.Json

inductive Token where
  | openList
  | closeList
  | openObject
  | closeObject
  | colon
  | comma
  | text (s : String)
  | null
  | bool (b : Bool)
  | integer (i : Int)
  | decimal (x : Float)

namespace Token

def isBlank (c : Char) : Bool :=
  c == ' ' || c == '\t' || c == '\n' || c == '\r'

/-- The value of a hexadecimal digit of either case. -/
def hexValue? (c : Char) : Option Nat :=
  if '0' ≤ c ∧ c ≤ '9' then some (c.toNat - '0'.toNat)
  else if 'a' ≤ c ∧ c ≤ 'f' then some (c.toNat - 'a'.toNat + 10)
  else if 'A' ≤ c ∧ c ≤ 'F' then some (c.toNat - 'A'.toNat + 10)
  else none

/-- The 16-bit unit of four hexadecimal digits. -/
def unit? (a b c d : Char) : Option Nat := do
  return 4096 * (← hexValue? a) + 256 * (← hexValue? b) + 16 * (← hexValue? c) + (← hexValue? d)

/-- The character that a letter after a backslash stands for. -/
def unescape? (c : Char) : Option Char :=
  match c with
  | '"' => some '"'
  | '\\' => some '\\'
  | '/' => some '/'
  | 'b' => some '\x08'
  | 'f' => some '\x0c'
  | 'n' => some '\n'
  | 'r' => some '\r'
  | 't' => some '\t'
  | _ => none

/-- A part of a quoted text: a character, or a 16-bit unit given by its number. -/
inductive Part where
  | char (c : Char)
  | unit (n : Nat)

/-- The parts of a quoted text up to its closing quote, and what follows it. -/
def scanParts? : List Char → Option (List Part × List Char)
  | [] => none
  | '"' :: rest => some ([], rest)
  | '\\' :: 'u' :: a :: b :: c :: d :: rest => do
      let n ← unit? a b c d
      let (parts, following) ← scanParts? rest
      some (.unit n :: parts, following)
  | '\\' :: letter :: rest => do
      let c ← unescape? letter
      let (parts, following) ← scanParts? rest
      some (.char c :: parts, following)
  | c :: rest =>
      if c = '\\' ∨ c.toNat < 0x20 then none
      else do
        let (parts, following) ← scanParts? rest
        some (.char c :: parts, following)

/-- The character of one unit, which must not be half of a pair. -/
def charOfUnit? (n : Nat) : Option Char :=
  if 0xD800 ≤ n ∧ n < 0xE000 then none else some (Char.ofNat n)

/-- The characters of a quoted text. Two units that form a pair are one character. -/
def joinParts? : List Part → Option (List Char)
  | [] => some []
  | .char c :: rest => (c :: ·) <$> joinParts? rest
  | .unit high :: .unit low :: rest =>
      if 0xD800 ≤ high ∧ high < 0xDC00 ∧ 0xDC00 ≤ low ∧ low < 0xE000 then
        (Char.ofNat (0x10000 + 1024 * (high - 0xD800) + (low - 0xDC00)) :: ·) <$> joinParts? rest
      else do
        let c ← charOfUnit? high
        (c :: ·) <$> joinParts? (.unit low :: rest)
  | .unit n :: rest => do
      let c ← charOfUnit? n
      (c :: ·) <$> joinParts? rest

/-- The number at the head of a text. A leading zero stands alone. -/
def scanNumber? (text : List Char) : Option (Token × List Char) := do
  let digits := (if text.head? = some '-' then text.tail else text).takeWhile Char.isDigit
  if digits.head? = some '0' ∧ 1 < digits.length then none
  let (literal, following) ← Decimal.Literal.scan? text
  match literal.toInt? with
  | some i => some (.integer i, following)
  | none => some (.decimal literal.toFloat, following)

/-- The token at the head of a text that starts with no blank, and what follows it. -/
def next? (text : List Char) : Option (Token × List Char) :=
  match text with
  | '[' :: rest => some (.openList, rest)
  | ']' :: rest => some (.closeList, rest)
  | '{' :: rest => some (.openObject, rest)
  | '}' :: rest => some (.closeObject, rest)
  | ':' :: rest => some (.colon, rest)
  | ',' :: rest => some (.comma, rest)
  | '"' :: rest => do
      let (parts, following) ← scanParts? rest
      let chars ← joinParts? parts
      some (.text (String.ofList chars), following)
  | 'n' :: 'u' :: 'l' :: 'l' :: rest => some (.null, rest)
  | 't' :: 'r' :: 'u' :: 'e' :: rest => some (.bool true, rest)
  | 'f' :: 'a' :: 'l' :: 's' :: 'e' :: rest => some (.bool false, rest)
  | _ => scanNumber? text

/-- At most `limit` blanks and tokens, which have to make up the text. -/
def scanUpTo? : Nat → List Char → Option (List Token)
  | _, [] => some []
  | 0, _ :: _ => none
  | limit + 1, c :: rest =>
      if isBlank c then scanUpTo? limit rest
      else do
        let (token, following) ← next? (c :: rest)
        (token :: ·) <$> scanUpTo? limit following

/-- The tokens of a text. Each takes a character at least, so the text's length bounds their
number. -/
def scan? (text : List Char) : Option (List Token) :=
  scanUpTo? text.length text

end Token

end ObjectQuery.Json
