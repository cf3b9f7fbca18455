/-!
Paths: identifiers joined by single dots. An entity's name has the same form.
-/
namespace RuleExpr.Path

def isIdentifierStart (c : Char) : Bool :=
  c.isAlpha || c == '_'

def isIdentifierRest (c : Char) : Bool :=
  c.isAlphanum || c == '_'

/-- A letter or an underscore, then letters, digits and underscores, all of them ASCII. -/
def isIdentifier : List Char → Bool
  | [] => false
  | c :: cs => isIdentifierStart c && cs.all isIdentifierRest

/-- The parts between the dots; a text without a dot is one part. -/
def parts : List Char → List (List Char)
  | [] => [[]]
  | c :: cs =>
      if c = '.' then [] :: parts cs
      else match parts cs with
        | [] => [[c]]
        | part :: rest => (c :: part) :: rest

/-- The identifiers of a path, or `none` if some part is not an identifier. -/
def segments? (text : List Char) : Option (List (List Char)) :=
  if (parts text).all isIdentifier then some (parts text) else none

def isPath (text : String) : Bool :=
  (segments? text.toList).isSome

end RuleExpr.Path
