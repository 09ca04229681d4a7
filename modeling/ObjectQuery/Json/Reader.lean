import ObjectQuery.Json.Token

/-!
# Reading JSON documents

A reader takes the tokens of a text one after the other. Its state is what it expects next and the
lists and objects that are still open, innermost first. Each token leads to one next state or is
refused, so reading is a fold over the tokens.
-/

namespace ObjectQuery.Json

/-- A list or an object that is still open, with its finished parts, latest first. -/
inductive Frame where
  | list (items : List Json)
  | member (members : List (String × Json)) (name : String)

/-- What a reader expects next. -/
inductive Reader where
  | expectValue (frames : List Frame)
  /-- A value, or the end of a list just opened. -/
  | expectItem (frames : List Frame)
  /-- A key, or the end of an object just opened. -/
  | expectMember (frames : List Frame)
  | expectKey (members : List (String × Json)) (frames : List Frame)
  | expectColon (members : List (String × Json)) (name : String) (frames : List Frame)
  /-- What may follow a value that is finished. -/
  | after (value : Json) (frames : List Frame)

namespace Reader

/-- The reader after a token that starts a value. -/
def start? (frames : List Frame) : Token → Option Reader
  | .openList => some (.expectItem frames)
  | .openObject => some (.expectMember frames)
  | .text s => some (.after (.text s) frames)
  | .null => some (.after .null frames)
  | .bool b => some (.after (.bool b) frames)
  | .integer i => some (.after (.integer i) frames)
  | .decimal x => some (.after (.decimal x) frames)
  | _ => none

/-- The reader after one more token. -/
def step? : Reader → Token → Option Reader
  | .expectValue frames, token => start? frames token
  | .expectItem frames, .closeList => some (.after (.list []) frames)
  | .expectItem frames, token => start? (.list [] :: frames) token
  | .expectMember frames, .closeObject => some (.after (.object []) frames)
  | .expectMember frames, .text name => some (.expectColon [] name frames)
  | .expectKey members frames, .text name => some (.expectColon members name frames)
  | .expectColon members name frames, .colon =>
      some (.expectValue (.member members name :: frames))
  | .after value (.list items :: frames), .comma =>
      some (.expectValue (.list (value :: items) :: frames))
  | .after value (.list items :: frames), .closeList =>
      some (.after (.list (value :: items).reverse) frames)
  | .after value (.member members name :: frames), .comma =>
      some (.expectKey ((name, value) :: members) frames)
  | .after value (.member members name :: frames), .closeObject =>
      some (.after (.object ((name, value) :: members).reverse) frames)
  | _, _ => none

end Reader

/-- The document of a run of tokens. -/
def ofTokens? (tokens : List Token) : Option Json :=
  match tokens.foldlM Reader.step? (.expectValue []) with
  | some (.after document []) => some document
  | _ => none

/-- The document that a text is. -/
def read? (text : String) : Option Json :=
  Token.scan? text.toList >>= ofTokens?

end ObjectQuery.Json
