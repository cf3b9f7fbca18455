/-!
JSON values. Members of an object keep their order and may repeat a name. A number without sign,
fraction and exponent is kept as a number, every other one as it was written.
-/
namespace RuleExpr

/-- A JSON value. `unusable` stands for one that is written by the grammar and yet cannot be held:
a number beyond the range of a double, a text with half of a surrogate pair, or an object with such
a text for a name. -/
inductive Json where
  | null
  | bool (value : Bool)
  | natural (value : Nat)
  | number (literal : String)
  | text (value : String)
  | list (items : List Json)
  | object (members : List (String × Json))
  | unusable

namespace Json

mutual

/-- Whether the value, with all that is in it, can be held. -/
def isUsable : Json → Bool
  | unusable => false
  | list items => areUsable items
  | object members => areMembersUsable members
  | _ => true

def areUsable : List Json → Bool
  | [] => true
  | value :: values => value.isUsable && areUsable values

def areMembersUsable : List (String × Json) → Bool
  | [] => true
  | (_, value) :: members => value.isUsable && areMembersUsable members

end

mutual

/-- How many lists and objects are inside one another. -/
def depth : Json → Nat
  | list items => depthOfItems items + 1
  | object members => depthOfMembers members + 1
  | _ => 0

def depthOfItems : List Json → Nat
  | [] => 0
  | value :: values => max value.depth (depthOfItems values)

def depthOfMembers : List (String × Json) → Nat
  | [] => 0
  | (_, value) :: members => max value.depth (depthOfMembers members)

end

/-- The values of all members of one name. -/
def valuesOf (name : String) (members : List (String × Json)) : List Json :=
  (members.filter (·.1 == name)).map Prod.snd

/-- A part of a record: its name, and whether an object may leave it out. -/
structure Part where
  name : String
  optional : Bool := false

/-- The value of a part among the members of an object: the only one of its name, or null for one
that is left out and may be. -/
def part? (members : List (String × Json)) (part : Part) : Option Json :=
  match valuesOf part.name members with
  | [value] => some value
  | [] => if part.optional then some null else none
  | _ => none

/-- The parts of a record, by name from an object or by place from a list. A list has all of them. -/
def parts? (parts : List Part) : Json → Option (List Json)
  | object members => parts.mapM (part? members)
  | list items => if items.length = parts.length then some items else none
  | _ => none

def text? : Json → Option String
  | text value => some value
  | _ => none

/-- A name out of a vocabulary: a text, or an object whose only member has that name and nothing for
a value, which is null and, where `lenient`, may also be an empty object. -/
def name? (lenient : Bool) : Json → Option String
  | text name => some name
  | object [(name, null)] => some name
  | object [(name, object [])] => if lenient then some name else none
  | _ => none

end Json

end RuleExpr
