/-!
# Joined texts
-/

namespace RecordQuery.Text

/-- The texts in order with the separator between neighbours. -/
def joined (separator : String) : List String → String
  | [] => ""
  | [s] => s
  | s :: rest => s ++ separator ++ joined separator rest

end RecordQuery.Text
