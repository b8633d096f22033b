/-! Errors of building and resolving options. -/

namespace ChatOptions

/-- A reason for which options cannot be built or resolved. -/
inductive OptionsError where
  | invalidArgument (reason : String)
  | unknownFunction (name : String)
  | unknownModel (name : String)
  | unsupportedParameter (provider parameter : String)
deriving DecidableEq, Repr

namespace OptionsError

/-- The error in words. -/
def message : OptionsError → String
  | .invalidArgument reason => "Invalid argument: " ++ reason
  | .unknownFunction name => "No function callback found for name: " ++ name
  | .unknownModel name => "Unknown chat model: " ++ name
  | .unsupportedParameter provider parameter =>
    "Parameter '" ++ parameter ++ "' is not supported by provider '" ++ provider ++ "'"

/-- Whether an argument was invalid. -/
def isInvalidArgument : OptionsError → Bool
  | .invalidArgument _ => true
  | _ => false

/-- A function was named by nothing but white space. -/
def blankFunctionName : OptionsError := .invalidArgument "Function name must not be empty"

end OptionsError

end ChatOptions
