/-
**Warnings.**

What a run reports and goes on from: a function that no section lists, a section that lists a
function the class does not have, a file whose class is not the one its name promises.
-/

import ReferencePages.Text.Basic

namespace ReferencePages

/-- Something worth reporting that does not stop a run. -/
inductive Warning where
  /-- A function of a class with sections stands in none of them. -/
  | uncategorized (className function : Text)
  /-- A section lists a function that the class does not have. -/
  | unknownFunction (className function : Text)
  /-- The class that a file's name promises is not declared in it; `found` is the first that is. -/
  | nameLookup (file expected : Text) (found : Option Text)
  deriving DecidableEq

/-- The text of a warning. -/
def Warning.message : Warning → Text
  | .uncategorized className function =>
    "uncategorized function ".toList ++ className ++ ['.'] ++ function ++ ['(', ')']
  | .unknownFunction className function =>
    "metadata lists unknown function ".toList ++ className ++ ['.'] ++ function ++ ['(', ')']
  | .nameLookup file expected (some found) =>
    file ++ ": expected class ".toList ++ expected ++ " but found ".toList ++ found ++
      "; add an override".toList
  | .nameLookup file expected none =>
    file ++ ": class ".toList ++ expected ++ " not found; add an override".toList

end ReferencePages
