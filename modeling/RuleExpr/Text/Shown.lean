import RuleExpr.Text.Extending
import RuleExpr.Text.Unprintable
/-!
Shown text, as a reader is shown a value: between double quotes, with every character visible. What
has no picture of its own, or would attach to its neighbour, is hidden, and its code point is shown
instead.
-/
namespace RuleExpr.Text

/-- The code point in lower-case hexadecimal between braces, after a backslash and a `u`. -/
def codePoint (c : Char) : List Char :=
  ['\\', 'u', '{'] ++ Nat.toDigits 16 c.toNat ++ ['}']

/-- One character inside the quotes, given which characters are hidden. -/
def shownChar (hidden : Char → Bool) (c : Char) : List Char :=
  match c with
  | '\x00' => ['\\', '0']
  | '\t' => ['\\', 't']
  | '\r' => ['\\', 'r']
  | '\n' => ['\\', 'n']
  | '"' => ['\\', '"']
  | '\\' => ['\\', '\\']
  | c => if hidden c then codePoint c else [c]

def shownChars (hidden : Char → Bool) (cs : List Char) : List Char :=
  '"' :: (cs.flatMap (shownChar hidden) ++ ['"'])

def isHidden (c : Char) : Bool :=
  isExtending c || isUnprintable c

def shown (text : String) : String :=
  String.ofList (shownChars isHidden text.toList)

end RuleExpr.Text
