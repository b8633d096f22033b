import ChatOptions.Text.Quoted

/-! What the library reports to a log. -/

namespace ChatOptions

/-- An entry of the log. -/
inductive Notice where
  /-- An entry of the tool context gave way to another under its key. -/
  | contextOverwritten (key : String)
  /-- The callbacks of a call were found: inline ones, names enabled, and those found. -/
  | callbacksResolved (inlined named active : Nat)
  /-- Default options were loaded from a file. -/
  | defaultsLoaded (path : String) (model : Option String)
deriving DecidableEq, Repr

namespace Notice

/-- The level of an entry. -/
def level : Notice → String
  | .contextOverwritten _ => "TRACE"
  | .callbacksResolved .. => "DEBUG"
  | .defaultsLoaded .. => "DEBUG"

/-- The message of an entry. -/
def message : Notice → String
  | .contextOverwritten _ => "overwriting tool context entry"
  | .callbacksResolved .. => "resolved function callbacks"
  | .defaultsLoaded .. => "loaded default chat options"

/-- The details of an entry, each under its name. -/
def details : Notice → List (String × String)
  | .contextOverwritten key => [("key", key)]
  | .callbacksResolved inlined named active =>
    [("inline", toString inlined), ("named", toString named), ("active", toString active)]
  | .defaultsLoaded path model => [("path", path), ("model", messageOption model)]

end Notice

end ChatOptions
