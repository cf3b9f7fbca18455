import RuleExpr.Json
import RuleExpr.Json.Number
import RuleExpr.Json.Quoted
/-!
Reading JSON. The grammar is taken strictly: no comments, no commas too many, nothing after the
value but white space.
-/
namespace RuleExpr.Json

def isSpace (c : Char) : Bool :=
  c == ' ' || c == '\n' || c == '\t' || c == '\r'

def skipSpace (cs : List Char) : List Char :=
  cs.dropWhile isSpace

/-- A number from the start of a text, and the rest. -/
def readNumber? (cs : List Char) : Option (Json × List Char) := do
  let (numeral, rest) ← Numeral.scan? cs
  let value :=
    if !numeral.inRange then unusable
    else if numeral.plain then natural (Numeral.ofDigits numeral.whole)
    else number (String.ofList (cs.take (cs.length - rest.length)))
  return (value, rest)

/-- A text from after its opening quote, and the rest; the text is absent if it has half of a
surrogate pair. -/
def readText? (cs : List Char) : Option (Option String × List Char) := do
  let (pieces, rest) ← pieces? cs
  return ((Piece.join? pieces).map String.ofList, rest)

/-- The object of members whose names may be absent. -/
def ofMembers (members : List (Option String × Json)) : Json :=
  match members.mapM fun (name, value) => name.map (·, value) with
  | some members => object members
  | none => unusable

mutual

/-- A value from the start of a text, and the rest. -/
def readValue? : Nat → List Char → Option (Json × List Char)
  | 0, _ => none
  | fuel + 1, cs =>
      match skipSpace cs with
      | 'n' :: 'u' :: 'l' :: 'l' :: rest => some (null, rest)
      | 't' :: 'r' :: 'u' :: 'e' :: rest => some (bool true, rest)
      | 'f' :: 'a' :: 'l' :: 's' :: 'e' :: rest => some (bool false, rest)
      | '"' :: rest => do
          let (value, rest) ← readText? rest
          return ((value.map text).getD unusable, rest)
      | '[' :: rest =>
          match skipSpace rest with
          | ']' :: rest => some (list [], rest)
          | rest => do
              let (items, rest) ← readItems? fuel rest
              return (list items, rest)
      | '{' :: rest =>
          match skipSpace rest with
          | '}' :: rest => some (object [], rest)
          | rest => do
              let (members, rest) ← readMembers? fuel rest
              return (ofMembers members, rest)
      | rest => readNumber? rest

/-- The items of a list up to its closing bracket, and the rest. -/
def readItems? : Nat → List Char → Option (List Json × List Char)
  | 0, _ => none
  | fuel + 1, cs => do
      let (value, rest) ← readValue? fuel cs
      match skipSpace rest with
      | ',' :: rest => do
          let (values, rest) ← readItems? fuel rest
          return (value :: values, rest)
      | ']' :: rest => some ([value], rest)
      | _ => none

/-- The members of an object up to its closing brace, and the rest. -/
def readMembers? : Nat → List Char → Option (List (Option String × Json) × List Char)
  | 0, _ => none
  | fuel + 1, cs =>
      match skipSpace cs with
      | '"' :: rest => do
          let (name, rest) ← readText? rest
          match skipSpace rest with
          | ':' :: rest => do
              let (value, rest) ← readValue? fuel rest
              match skipSpace rest with
              | ',' :: rest => do
                  let (members, rest) ← readMembers? fuel rest
                  return ((name, value) :: members, rest)
              | '}' :: rest => some ([(name, value)], rest)
              | _ => none
          | _ => none
      | _ => none

end

/-- The value that a text writes. Each step of the reading takes a character or goes from a list or
object into its first part, so twice the length of the text is enough of them. -/
def read? (source : String) : Option Json :=
  let cs := source.toList
  match readValue? (2 * cs.length + 2) cs with
  | some (value, rest) => if (skipSpace rest).isEmpty then some value else none
  | none => none

end RuleExpr.Json
