/-!
Files by path. A path names a file by the folders on the way to it; reading one ends with its text
or with the cause that it cannot be read.
-/

namespace Sigil.Command

inductive FileError where
  | notFound
  | notDirectory
  | isDirectory
  | nameTooLong
  | notText
  | other (reason : String)
  deriving DecidableEq, Repr

def FileError.message : FileError → String
  | .notFound => "No such file or directory (os error 2)"
  | .notDirectory => "Not a directory (os error 20)"
  | .isDirectory => "Is a directory (os error 21)"
  | .nameTooLong => "File name too long (os error 36)"
  | .notText => "stream did not contain valid UTF-8"
  | .other reason => reason

abbrev Files := String → Except FileError String

inductive Entry where
  | text (contents : String)
  | folder
  deriving DecidableEq, Repr

def pathParts : List Char → List (List Char)
  | [] => [[]]
  | c :: cs =>
    if c = '/' then [] :: pathParts cs
    else
      match pathParts cs with
      | [] => [[c]]
      | part :: parts => (c :: part) :: parts

structure Folder where
  texts : List (List (List Char) × String)

namespace Folder

def ofList (texts : List (String × String)) : Folder :=
  ⟨texts.map fun (path, text) => (pathParts path.toList, text)⟩

def entry? (f : Folder) (names : List (List Char)) : Option Entry :=
  if names = [] then some .folder
  else
    match f.texts.lookup names with
    | some text => some (.text text)
    | none => if f.texts.any fun t => names.isPrefixOf t.1 then some .folder else none

inductive Place where
  | inside (names : List (List Char))
  | outside

namespace Place

def parent : Place → Place
  | .inside [] | .outside => .outside
  | .inside names => .inside names.dropLast

def child : Place → List Char → Place
  | .inside names, name => .inside (names ++ [name])
  | .outside, _ => .outside

end Place

def lookup (f : Folder) : Place → List Char → Option Entry
  | .inside names, name => f.entry? (names ++ [name])
  | .outside, _ => none

def maxNameBytes : Nat := 255

def maxPathBytes : Nat := 4095

def follow (f : Folder) : Place → List (List Char) → Except FileError String
  | _, [] => .error .isDirectory
  | place, name :: rest =>
    if name = [] ∨ name = ['.'] then f.follow place rest
    else if name = ['.', '.'] then f.follow place.parent rest
    else if maxNameBytes < (String.ofList name).utf8ByteSize then .error .nameTooLong
    else
      match f.lookup place name with
      | none => .error .notFound
      | some .folder => f.follow (place.child name) rest
      | some (.text contents) => if rest = [] then .ok contents else .error .notDirectory

def root : Folder := ofList [("dev/null", "")]

def files (f : Folder) : Files := fun path =>
  if maxPathBytes < path.utf8ByteSize then .error .nameTooLong
  else
    match path.toList with
    | [] => .error .notFound
    | '/' :: cs => root.follow (.inside []) (pathParts cs)
    | cs => f.follow (.inside []) (pathParts cs)

end Folder

end Sigil.Command
