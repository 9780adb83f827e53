import Eligibility.Dynamic.Session

/-!
# Exceptions of a dynamically typed host

A call that fails raises an exception.  An error about a rule keeps its wording;
an exception that the host itself has a wording for is left to it.
-/

namespace Eligibility.Dynamic

/-- The types of the exceptions that are raised. -/
inductive ExceptionType
  | typeError
  | valueError
  | overflowError
  | unicodeEncodeError
  /-- A type that a value of the host chooses. -/
  | chosen (typeName : String)
deriving DecidableEq, Repr

/-- The name of a type of exceptions. -/
def ExceptionType.name : ExceptionType → String
  | typeError => "TypeError"
  | valueError => "ValueError"
  | overflowError => "OverflowError"
  | unicodeEncodeError => "UnicodeEncodeError"
  | chosen typeName => typeName

/-- An exception. -/
structure Raised where
  type : ExceptionType
  /-- The wording, unless it is left to the host. -/
  message? : Option String
deriving DecidableEq, Repr

/-- The exception that is raised for a value without JSON form. -/
def ConversionFault.raised (fault : ConversionFault) : Raised where
  type := match fault with
    | unsupportedType _ | keyNotText => .typeError
    | nonFinite _ => .valueError
    | noFloat .tooLarge => .overflowError
    | noFloat (.raised typeName) => .chosen typeName
    | notUnicode => .unicodeEncodeError
  message? := fault.message?

/-- The exception that a call raises; a name without a rule means that nothing
could be called. -/
def Failure.raised? : Failure → Option Raised
  | noRule _ => none
  | wrongType => some ⟨.typeError, none⟩
  | notUnicode => some ⟨.unicodeEncodeError, none⟩
  | conversion fault => some fault.raised
  | rule error => some ⟨.valueError, some error.message⟩

end Eligibility.Dynamic
