/-!
# How texts begin
-/

namespace MathLint.Text

/-- Whether the text `s` begins with `start`. -/
def beginsWith (start s : String) : Bool := start.toList.isPrefixOf s.toList

end MathLint.Text
