import AwsCredentials.Files.Reading
import AwsCredentials.Properties.Document
import AwsCredentials.Text.Blank

/-!
# Files with a key pair

A key pair can be kept in a properties file, under the keys `accessKey` and `secretKey`. Both values
lose the white space around them, and then neither may be empty.

`readKeyPair` reads such a file, and `keyPairOf` says what its dictionary has to hold.
-/

namespace AwsCredentials

namespace Text.CodePoint

/-- A code point counts as white space when it is a blank character; a lone half of a pair never
does. -/
def isBlank : CodePoint → Bool
  | char c => Text.isBlank c
  | surrogate _ => false

end Text.CodePoint

namespace Session

open Text (CodeText)

/-- The key of the public half of a key pair in the entries of a file. -/
def accessKeyProperty : String := "accessKey"

/-- The key of the secret half of a key pair. -/
def secretKeyProperty : String := "secretKey"

/-- The two halves of a key pair. They may hold any code points, lone halves of pairs included. -/
structure KeyPair where
  /-- The public half. -/
  accessKey : CodeText
  /-- The secret half. -/
  secretKey : CodeText
deriving DecidableEq

/-- Why a file yields no key pair: it cannot be read, it cannot be decoded, or it does not hold
one. -/
inductive KeyFileFault
  /-- The file cannot be read as text. -/
  | unreadable (f : Files.ReadFault)
  /-- The text holds a malformed escape. -/
  | malformed (e : Properties.MalformedEscape)
  /-- One of the two values is missing or blank. -/
  | incomplete
deriving DecidableEq

/-- The value under a key without the white space around it, empty if there is none. -/
def trimmedValue (d : Dictionary CodeText CodeText) (key : String) : CodeText :=
  Text.trim Text.CodePoint.isBlank ((d.get? (CodeText.ofString key)).getD [])

/-- The key pair that a dictionary holds, both halves without the white space around them. -/
def keyPairOf (d : Dictionary CodeText CodeText) : Except KeyFileFault KeyPair :=
  let pair : KeyPair := ⟨trimmedValue d accessKeyProperty, trimmedValue d secretKeyProperty⟩
  if pair.accessKey = [] ∨ pair.secretKey = [] then .error .incomplete else .ok pair

/-- The key pair that a text holds. A text that cannot be decoded holds none, even if both keys
stand in other lines. -/
def keyPairOfText (s : List Char) : Except KeyFileFault KeyPair :=
  match Properties.parse s with
  | .error e => .error (.malformed e)
  | .ok d => keyPairOf d

/-- The key pair in the file at a path: the file is read, parsed, and looked up in, and the first
step that fails decides the fault. -/
def readKeyPair (t : Files.FileTree) (path : String) : Except KeyFileFault KeyPair :=
  match t.readText path with
  | .error f => .error (.unreadable f)
  | .ok s => keyPairOfText s

end Session

end AwsCredentials
