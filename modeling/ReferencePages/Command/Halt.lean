/-
**Why a run stops.**

A run fails with a message, or it breaks off where a range of lines ends before it starts.
-/

import ReferencePages.Text.Basic

namespace ReferencePages

/-- Why a run stops before its end. -/
inductive Halt where
  | fail (message : Text)
  | breakOff
  deriving DecidableEq

end ReferencePages
