/-!
Text between braces, as the members of a record are written.
-/
namespace RuleExpr.Text

def braced (text : String) : String :=
  String.singleton '{' ++ text ++ String.singleton '}'

theorem toList_braced (text : String) : (braced text).toList = '{' :: (text.toList ++ ['}']) := by
  simp [braced]

end RuleExpr.Text
