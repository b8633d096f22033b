import ChatOptions.Config.Error

/-! Files and directories found by path from a working directory. -/

namespace ChatOptions

/-- What the working directory holds: files with their bytes, and directories, each by the parts of its path, the last part first. -/
structure Directory where
  entries : List (List String × Option ByteArray)

namespace Directory

/-- What a path leads to. -/
inductive Place where
  | directory
  | file (content : ByteArray)

/-- How far a path has been followed. -/
inductive Location where
  /-- A place in the working directory, by the parts of its path, the last part first. -/
  | inside (parts : List String)
  /-- A directory around the working directory, of which nothing else is known. -/
  | outside

/-- The location of a part of the directory at a location, if anything is known of it. -/
def step? : Location → String → Option Location
  | here, "" | here, "." => some here
  -- Above the working directory there are only directories.
  | .outside, ".." | .inside [], ".." => some .outside
  | .inside (_ :: parts), ".." => some (.inside parts)
  | .outside, _ => none
  | .inside parts, part => some (.inside (part :: parts))

/-- Where the parts of a path are followed from. -/
def start (path : String) : Location :=
  if path.toList.head? = some '/' then .outside else .inside []

/-- The working directory after files and directories are put at paths in turn; those that lead out of it are left out. -/
def ofList (listed : List (String × Option ByteArray)) : Directory :=
  ⟨listed.reverse.filterMap fun (path, content) =>
    match (path.splitOn "/").foldlM step? (start path) with
    | some (.inside parts) => some (parts, content)
    | _ => none⟩

/-- What stands at a location. -/
def place? (directory : Directory) : Location → Option Place
  | .outside | .inside [] => some .directory
  | .inside parts =>
    match directory.entries.lookup parts with
    | some (some content) => some (.file content)
    | some none => some .directory
    | none =>
      -- What holds something is a directory.
      if directory.entries.any fun (other, _) => parts.isSuffixOf other then some .directory
      else none

/-- Follows the parts of a path from a location. -/
def follow (directory : Directory) : Location → List String → Except FileError Place
  | here, [] =>
    match directory.place? here with
    | some place => .ok place
    | none => .error .notFound
  | here, part :: rest =>
    match directory.place? here with
    | none => .error .notFound
    | some (.file _) => .error .notDirectory
    | some .directory =>
      if part.utf8ByteSize > 255 then .error .nameTooLong
      else
        match step? here part with
        | some there => follow directory there rest
        | none => .error .notFound

/-- The bytes of the file that a path leads to. -/
def read (directory : Directory) (path : String) : Except FileError ByteArray := do
  if path.toList.contains '\x00' then throw .invalidName
  if path = "" then throw .notFound
  if path.utf8ByteSize > 4095 then throw .nameTooLong
  -- A path that ends in a slash has an empty last part, which can only be asked of a directory.
  match ← directory.follow (start path) (path.splitOn "/") with
  | .directory => throw .isDirectory
  | .file content => return content

/-- The text of the file that a path leads to. -/
def readText (directory : Directory) (path : String) : Except FileError String := do
  match String.fromUTF8? (← directory.read path) with
  | some text => return text
  | none => throw .notText

end Directory

end ChatOptions
