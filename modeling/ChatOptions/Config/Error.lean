import ChatOptions.Error

/-! Errors of loading default options. -/

namespace ChatOptions

/-- A reason for which a file cannot be read as text. -/
inductive FileError where
  | notFound
  | isDirectory
  | notDirectory
  | nameTooLong
  | invalidName
  | notText
deriving DecidableEq, Repr

/-- The reason in words. -/
def FileError.message : FileError → String
  | .notFound => "No such file or directory (os error 2)"
  | .isDirectory => "Is a directory (os error 21)"
  | .notDirectory => "Not a directory (os error 20)"
  | .nameTooLong => "File name too long (os error 36)"
  | .invalidName => "file name contained an unexpected NUL byte"
  | .notText => "stream did not contain valid UTF-8"

/-- A reason for which default options cannot be loaded. -/
inductive ConfigError where
  | file (path : String) (error : FileError)
  | parse (path : String) (line column : Option Nat) (reason : String)
  | variableNotFound (name : String)
  | options (error : OptionsError)
deriving DecidableEq, Repr

/-- The error in words. A place that is not known is given as zero. -/
def ConfigError.message : ConfigError → String
  | .file path error => "IO error reading config from '" ++ path ++ "': " ++ error.message
  | .parse path line column reason =>
    "Parse error in '" ++ path ++ "' at line " ++ toString (line.getD 0) ++ ", column " ++
      toString (column.getD 0) ++ ": " ++ reason
  | .variableNotFound name => "Environment variable '" ++ name ++ "' not found"
  | .options error => "Invalid options: " ++ error.message

end ChatOptions
