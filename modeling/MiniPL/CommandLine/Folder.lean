import MiniPL.Text.Utf8
/-!
# Files by path

A folder that is kept in memory, and what a path leads to in it. A path is followed name by name, and the
first name that leads nowhere decides why the path has no file. Names and paths have a greatest length,
counted in bytes.
-/

namespace MiniPL

/-- Why a path has no contents. -/
inductive Unreadable where
  | missing
  | isFolder
  | notFolder
  | tooLong
  /-- A null character would end the path before its end. -/
  | nullCharacter
  /-- Another reason, in the system's own words. -/
  | other (reason : Text)
  deriving DecidableEq

def Unreadable.text : Unreadable → Text
  | .missing => "No such file or directory"
  | .isFolder => "Is a directory"
  | .notFolder => "Not a directory"
  | .tooLong => "File name too long"
  | .nullCharacter => "embedded null byte"
  | .other reason => reason

/-- The files and folders below a folder, each by the names that lead to it. -/
structure Folder where
  files : List (List Text × List UInt8)
  folders : List (List Text)

namespace Folder

/-- The names of a path, the current one reading `name` backwards so far. A slash ends a name, which may
be empty. -/
def namesFrom (name : Text) : Text → List Text
  | [] => [name.reverse]
  | c :: rest => if c = '/' then name.reverse :: namesFrom [] rest else namesFrom (c :: name) rest

/-- The names of a path. -/
def names (path : Text) : List Text := namesFrom [] path

/-- Whether the names lead to a folder: one that is listed, one on the way to something, or the folder
itself. -/
def hasFolder (f : Folder) (place : List Text) : Bool :=
  place.isEmpty || f.folders.any (place.isPrefixOf ·) ||
    f.files.any fun (names, _) => names != place && place.isPrefixOf names

/-- The greatest length of a name. -/
def longestName : Nat := 255

/-- The greatest length of a path. -/
def longestPath : Nat := 4095

/-- The contents at the end of some names, from a place in the folder, or from above it. -/
def follow (f : Folder) : (place : Option (List Text)) → List Text → Except Unreadable (List UInt8)
  | _, [] => .error .isFolder
  | place, name :: rest =>
    if name = [] ∨ name = ['.'] then f.follow place rest
    else if longestName < Text.Utf8.size name then .error .tooLong
    else match place with
      | none => if name = ['.', '.'] then f.follow none rest else .error .missing
      | some names =>
        if name = ['.', '.'] then f.follow (if names.isEmpty then none else some names.dropLast) rest
        else
          let place := names ++ [name]
          match f.files.find? fun (names, _) => names == place with
          | some (_, bytes) => if rest.isEmpty then .ok bytes else .error .notFolder
          | none => if f.hasFolder place then f.follow (some place) rest else .error .missing

/-- The contents of the file that a path leads to. -/
def contents (f : Folder) (path : Text) : Except Unreadable (List UInt8) :=
  if '\x00' ∈ path then .error .nullCharacter
  else if longestPath < Text.Utf8.size path then .error .tooLong
  else match path with
    | [] => .error .missing
    | '/' :: rest => f.follow none (names rest)
    | path => f.follow (some []) (names path)

end Folder

end MiniPL
