/-!
Dates as an operand may write them: year, month and day, and optionally a time of day. Month, day
and the parts of the time are checked one by one, each against the numbers it can have at all.
-/
namespace RuleExpr.Literal

/-- Two digits that spell a number from `low` to `high`. -/
def isTwoDigits (low high : Nat) (tens ones : Char) : Bool :=
  tens.isDigit && ones.isDigit &&
    let n := 10 * (tens.toNat - '0'.toNat) + (ones.toNat - '0'.toNat)
    low ≤ n && n ≤ high

/-- Nothing, or a colon and the seconds. -/
def isSeconds : List Char → Bool
  | [] => true
  | [':', s, s'] => isTwoDigits 0 59 s s'
  | _ => false

/-- Nothing, or a `T` or a space, hours and minutes, and optionally seconds. -/
def isTimeOfDay : List Char → Bool
  | [] => true
  | separator :: h :: h' :: ':' :: m :: m' :: rest =>
      (separator == 'T' || separator == ' ') &&
        isTwoDigits 0 23 h h' && isTwoDigits 0 59 m m' && isSeconds rest
  | _ => false

def isDate : List Char → Bool
  | y :: y' :: y'' :: y''' :: '-' :: m :: m' :: '-' :: d :: d' :: rest =>
      [y, y', y'', y'''].all Char.isDigit &&
        isTwoDigits 1 12 m m' && isTwoDigits 1 31 d d' && isTimeOfDay rest
  | _ => false

end RuleExpr.Literal
