import AwsCredentials.Files.Tree
import AwsCredentials.Text.LineEnd
import AwsCredentials.Text.Quoted

/-!
# Reading a file as text

A file is read as UTF-8, strictly, and its line ends are unified. A byte order mark stays in the
text.

Three things can go wrong. A path with a NUL cannot be asked for at all; a path may not lead to a
file; and a file may hold bytes that are not the form of a text. Only the second is a failure of the
system (`OpenFailure`), and callers treat it apart from the others.
-/

namespace AwsCredentials.Files

/-- A failure of the system to open the file at a path. It is the only failure of reading that
callers expect. -/
structure OpenFailure where
  /-- What is wrong. -/
  error : OpenError
  /-- The path that was asked for. -/
  path : Path
deriving DecidableEq

namespace OpenFailure

/-- The wording of a failure: the number of the error, what the system says of it, and the path in
its normal form. -/
def message (f : OpenFailure) : String :=
  "[Errno " ++ toString f.error.number ++ "] " ++ f.error.text ++ ": "
    ++ Text.quote (String.ofList f.path.text)

end OpenFailure

/-- Why a file cannot be read as text. The three reasons are looked for in this order. -/
inductive ReadFault
  /-- The path holds a NUL. -/
  | embeddedNull
  /-- The file cannot be opened. -/
  | notOpened (f : OpenFailure)
  /-- The file holds bytes that are not the form of a text. -/
  | undecodable (f : Text.Utf8Fault)
deriving DecidableEq

/-- What is said of a path with a NUL, which is refused before the system is asked. -/
def embeddedNullMessage : String := "embedded null byte"

namespace FileTree

/-- The text of the file at a path, with its line ends unified, or why it cannot be read. -/
def readText (t : FileTree) (path : String) : Except ReadFault (List Char) :=
  if path.toList.contains '\x00' then .error .embeddedNull
  else
    match t.content (Path.ofString path) with
    | .error e => .error (.notOpened ⟨e, Path.ofString path⟩)
    | .ok bytes =>
      match Text.Utf8.decode bytes with
      | .error e => .error (.undecodable e)
      | .ok s => .ok (Text.unifyLineEnds s)

/-- A file is read when its bytes are the form of a text, and then its line ends are unified. -/
theorem readText_eq_ok {t : FileTree} {path : String} {bytes : List UInt8} {s : List Char}
    (no_null : '\x00' ∉ path.toList) (content : t.content (Path.ofString path) = .ok bytes)
    (decoded : Text.Utf8.decode bytes = .ok s) :
    t.readText path = .ok (Text.unifyLineEnds s) := by
  have absent : ¬path.toList.contains '\x00' := by simpa using no_null
  rw [readText, if_neg absent, content]
  dsimp only
  rw [decoded]

end FileTree

end AwsCredentials.Files
