/-!
# JSON documents

A document as a tree. Whole numbers and decimal numbers are kept apart, since `1` and `1.0` are
different values; the members of an object keep their order. `Json.member?` looks a member up and
says that it is smaller than the document, which is what decoders recurse on.
-/

namespace ObjectQuery

inductive Json where
  | null
  | bool (b : Bool)
  | integer (i : Int)
  | decimal (x : Float)
  | text (s : String)
  | list (items : List Json)
  | object (members : List (String × Json))

namespace Json

/-- The first member of a name. -/
def lookup? (name : String) :
    (members : List (String × Json)) → Option { value : Json // sizeOf value < sizeOf members }
  | [] => none
  | (key, value) :: rest =>
      if key = name then some ⟨value, by simp; omega⟩
      else (lookup? name rest).map fun found => ⟨found.1, by have := found.2; simp; omega⟩

/-- The member of a name, if the document is an object that has one. -/
def member? (document : Json) (name : String) :
    Option { value : Json // sizeOf value < sizeOf document } :=
  match document with
  | .object members =>
      (lookup? name members).map fun found => ⟨found.1, by have := found.2; simp; omega⟩
  | _ => none

end Json

end ObjectQuery
