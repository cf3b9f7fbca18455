/-!
Numbers as JSON writes them: an optional minus sign, a whole part without leading zeros, and
optionally a fraction and an exponent.
-/
namespace RuleExpr.Json

/-- A number taken apart, without its sign: the digits of its two parts and its exponent. -/
structure Numeral where
  whole : List Char
  fraction : List Char
  exponent : Int
  /-- Only whole digits are written, and no sign. -/
  plain : Bool

namespace Numeral

/-- The number that digits spell. -/
def ofDigits (digits : List Char) : Nat :=
  digits.foldl (fun n c => 10 * n + (c.toNat - '0'.toNat)) 0

/-- Digits from the start, as long as there are any, and the rest. -/
def digits (cs : List Char) : List Char × List Char :=
  (cs.takeWhile Char.isDigit, cs.dropWhile Char.isDigit)

/-- A whole part: a zero by itself, or digits that start with another one. -/
def whole? : List Char → Option (List Char × List Char)
  | '0' :: rest => some (['0'], rest)
  | c :: rest => if c.isDigit then some (digits (c :: rest)) else none
  | [] => none

/-- A fraction, if a point follows. A point needs a digit after it. -/
def fraction? : List Char → Option (List Char × List Char)
  | '.' :: rest =>
      match digits rest with
      | ([], _) => none
      | found => some found
  | rest => some ([], rest)

/-- The digits of an exponent, with its sign. -/
def signedExponent? (negative : Bool) (cs : List Char) : Option (Int × List Char) :=
  match digits cs with
  | ([], _) => none
  | (found, rest) =>
      let n : Int := ofDigits found
      some (if negative then -n else n, rest)

/-- An exponent, if an `e` follows. -/
def exponent? : List Char → Option (Int × List Char)
  | 'e' :: rest | 'E' :: rest =>
      match rest with
      | '-' :: rest => signedExponent? true rest
      | '+' :: rest => signedExponent? false rest
      | rest => signedExponent? false rest
  | rest => some (0, rest)

/-- A number from after its sign, and the rest. -/
def scanUnsigned? (negative : Bool) (cs : List Char) : Option (Numeral × List Char) := do
  let (whole, afterWhole) ← whole? cs
  let (fraction, afterFraction) ← fraction? afterWhole
  let (exponent, rest) ← exponent? afterFraction
  let plain := !negative && rest.length == afterWhole.length
  return (⟨whole, fraction, exponent, plain⟩, rest)

/-- A number from the start of a text, and the rest. -/
def scan? : List Char → Option (Numeral × List Char)
  | '-' :: rest => scanUnsigned? true rest
  | rest => scanUnsigned? false rest

/-- The least number that is rounded beyond all doubles: halfway from the greatest double to the
next power of two. -/
def doubleLimit : Nat := Nat.pow 2 1024 - Nat.pow 2 970

/-- The number has a double next to it. The count of digits decides unless the number is near the
limit, which has 309 digits, so no power is taken that the text does not have room for. -/
def inRange (numeral : Numeral) : Bool :=
  let significand := (numeral.whole ++ numeral.fraction).dropWhile (· == '0')
  let scale := numeral.exponent - numeral.fraction.length
  let places : Int := significand.length + scale
  if significand.isEmpty || places < 309 then true
  else if 309 < places then false
  else if 0 ≤ scale then ofDigits significand * Nat.pow 10 scale.toNat < doubleLimit
  else ofDigits significand < doubleLimit * Nat.pow 10 (-scale).toNat

end Numeral

end RuleExpr.Json
