/-!
Quoted text, as an expression writes a string: between double quotes, with a backslash before what
would end or break the quotation.
-/
namespace RuleExpr.Text

/-- One character inside the quotes. -/
def quotedChar (c : Char) : List Char :=
  match c with
  | '"' => ['\\', '"']
  | '\\' => ['\\', '\\']
  | '\n' => ['\\', 'n']
  | '\r' => ['\\', 'r']
  | '\t' => ['\\', 't']
  | c => [c]

def quotedChars (cs : List Char) : List Char :=
  '"' :: (cs.flatMap quotedChar ++ ['"'])

def quoted (text : String) : String :=
  String.ofList (quotedChars text.toList)

end RuleExpr.Text
