import AwsCredentials.Files.Path
import AwsCredentials.Text.Utf8

/-!
# Files

A `FileTree` holds the files and empty directories below the current directory, each under the
components that lead to it; the directories on the way are there because something is below them.
Nothing is known of what lies above the current directory, except that directories do, and anything
looked up there is absent.

`lookUp` follows a path from left to right, and the first component that cannot be followed decides
the failure.
-/

namespace AwsCredentials.Files

/-- What a path can lead to. There are no links, so a path leads to the same place however it is
written. -/
inductive Node
  /-- A file with this content. -/
  | file (bytes : List UInt8)
  /-- A directory. -/
  | directory
deriving DecidableEq

/-- Why a file cannot be opened: because of a component on the way, or because of what is at the
end. -/
inductive OpenError
  /-- There is nothing of that name. -/
  | notFound
  /-- A component that is not the last leads to a file. -/
  | notADirectory
  /-- The path leads to a directory. -/
  | isADirectory
  /-- A component or the path is too long. -/
  | nameTooLong
deriving DecidableEq

namespace OpenError

/-- The number by which the system knows an error; messages quote it. -/
def number : OpenError → Nat
  | notFound => 2
  | notADirectory => 20
  | isADirectory => 21
  | nameTooLong => 36

/-- What the system says of an error, in the wording that messages quote. -/
def text : OpenError → String
  | notFound => "No such file or directory"
  | notADirectory => "Not a directory"
  | isADirectory => "Is a directory"
  | nameTooLong => "File name too long"

end OpenError

/-- The greatest count of bytes in a component. It is the encoded form that is measured, not the
text. -/
def maxComponentBytes : Nat := 255

/-- The greatest count of bytes in a path, measured in its encoded form too. -/
def maxPathBytes : Nat := 4095

/-- The files and directories below the current directory. The directories on the way to an entry
are there without being listed. -/
structure FileTree where
  /-- What was put where, newest first. -/
  entries : List (List Component × Node)

namespace FileTree

/-- The tree in which nothing was put: the current directory is there, and it is empty. -/
def empty : FileTree :=
  ⟨[]⟩

/-- The tree after something is put where components lead. -/
def put (t : FileTree) (components : List Component) (node : Node) : FileTree :=
  ⟨(components, node) :: t.entries⟩

/-- What components lead to from the current directory: the node that was put there last, or a
directory if something was put below. -/
def node? (t : FileTree) (components : List Component) : Option Node :=
  match t.entries.find? fun e ↦ e.1 = components with
  | some e => some e.2
  | none => if t.entries.any fun e ↦ components.isPrefixOf e.1 then some .directory else none

/-- A directory that a look-up has come to. All directories above the current one are taken
together, since nothing is found in any of them. -/
inductive Place
  /-- The directory that components lead to from the current one. -/
  | inside (components : List Component)
  /-- A directory above the current one. -/
  | outside
deriving DecidableEq

/-- Goes up by one directory. From the outside there is no way back in, since the name of the
current directory is not known. -/
def Place.parent : Place → Place
  | inside [] => outside
  | inside components => inside components.dropLast
  | outside => outside

/-- Follows components from a directory, one by one, and stops at the first that cannot be
followed. -/
def follow (t : FileTree) : Place → List Component → Except OpenError Node
  | _, [] => .ok .directory
  | place, c :: r =>
    if maxComponentBytes < (Text.Utf8.encode c).length then .error .nameTooLong
    else if c = above then t.follow place.parent r
    else
      match place with
      | .outside => .error .notFound
      | .inside components =>
        match t.node? (components ++ [c]) with
        | none => .error .notFound
        | some .directory => t.follow (.inside (components ++ [c])) r
        -- Nothing can be looked up below a file.
        | some (.file bytes) => if r = [] then .ok (.file bytes) else .error .notADirectory

/-- What a path leads to, or the failure at the first component that cannot be followed. The length
of the whole path is looked at first. -/
def lookUp (t : FileTree) (p : Path) : Except OpenError Node :=
  if maxPathBytes < (Text.Utf8.encode p.text).length then .error .nameTooLong
  else t.follow (if p.root = .relative then .inside [] else .outside) p.components

/-- The content of the file that a path leads to. A directory cannot be read, and this is a failure
of the system too. -/
def content (t : FileTree) (p : Path) : Except OpenError (List UInt8) :=
  match t.lookUp p with
  | .ok (.file bytes) => .ok bytes
  | .ok .directory => .error .isADirectory
  | .error e => .error e

end FileTree

end AwsCredentials.Files
