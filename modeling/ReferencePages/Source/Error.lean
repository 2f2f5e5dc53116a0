/-
**Why a source is refused.**

Each error carries the number of the line it stems from, counted from zero; messages count from one.
A fault is an error, or a range of lines whose end comes before its start.
-/

import ReferencePages.Text.Basic

namespace ReferencePages

/-- The members whose documentation names the line that follows it. -/
inductive MemberKind where
  | field
  | classVariable
  deriving DecidableEq

/-- The word for a member in messages. -/
def MemberKind.label : MemberKind → Text
  | .field => "field".toList
  | .classVariable => "class variable".toList

/-- Why a source cannot be read. -/
inductive ScanError where
  /-- A block of documentation is never closed. -/
  | unterminatedBlock (line : Nat)
  /-- The declaration of a function is never closed. -/
  | unterminatedSignature (line : Nat) (name : Text)
  /-- A documented member is not followed by its declaration. -/
  | malformedMember (line : Nat) (kind : MemberKind)
  /-- A second class stands in a file that may hold one only. -/
  | secondClass (line : Nat) (name : Text)
  deriving DecidableEq

/-- What is wrong, and where. -/
def ScanError.description : ScanError → Nat × Text
  | .unterminatedBlock line => (line, "doc-comment block is never closed".toList)
  | .unterminatedSignature line name =>
    (line, "declaration of `".toList ++ name ++ "` never closes its signature".toList)
  | .malformedMember line kind =>
    (line, "malformed ".toList ++ kind.label ++ " declaration".toList)
  | .secondClass line name =>
    (line, "second class `".toList ++ name ++ "` in one file (strict mode)".toList)

/-- The message for an error in the file of the given name. -/
def ScanError.message (file : Text) (error : ScanError) : Text :=
  let (line, what) := error.description
  file ++ [':'] ++ Text.ofNat (line + 1) ++ [':', ' '] ++ what

/-- Why there is no result for a source. -/
inductive Fault where
  /-- The source cannot be read. -/
  | refused (error : ScanError)
  /-- A range of lines ends before it starts. -/
  | reversedRange
  deriving DecidableEq

/-- A result of reading, with the error as a fault. -/
def orFault {α : Type} : Except ScanError α → Except Fault α
  | .ok value => .ok value
  | .error error => .error (.refused error)

end ReferencePages
