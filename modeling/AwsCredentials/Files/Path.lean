import AwsCredentials.Text.Split

/-!
# Paths

A path is written as components with slashes between them. Empty components and components that are
one point say nothing and are dropped; two points stay, because what they mean depends on the files.
A path that begins with a slash is absolute; exactly two slashes at the beginning are kept apart
from one, and more than two count as one.

`Path.text` writes a path in its normal form. The path without components is the current directory
and is written as a point.
-/

namespace AwsCredentials.Files

/-- Where a path begins. The doubled root is one of its own, since systems may give it a meaning
that differs from that of the root. -/
inductive Root
  /-- At the current directory. -/
  | relative
  /-- At the root of all files. -/
  | absolute
  /-- At the root that is written with two slashes. -/
  | doubled
deriving DecidableEq

/-- A component of a path, without slashes. Its characters are otherwise not restricted. -/
abbrev Component := List Char

/-- A path in normal form. Two points stay among the components, because what they lead to depends
on the files. -/
structure Path where
  /-- Where it begins. -/
  root : Root
  /-- Its components, none of them empty or one point. -/
  components : List Component
deriving DecidableEq

/-- The component that leads to the directory above: two points. -/
def above : Component := ['.', '.']

namespace Root

/-- How a path with this root begins, when it is written in its normal form. -/
def text : Root → List Char
  | relative => []
  | absolute => ['/']
  | doubled => ['/', '/']

/-- The root of a written path, which depends on its first three characters only. -/
def ofChars : List Char → Root
  | ['/', '/'] => doubled
  | '/' :: '/' :: c :: _ => if c = '/' then absolute else doubled
  | '/' :: _ => absolute
  | _ => relative

end Root

namespace Path

/-- The path that a text writes, with the components dropped that say nothing. -/
def ofChars (s : List Char) : Path where
  root := Root.ofChars s
  components := (Text.splitAt '/' s).filter fun c ↦ c ≠ [] ∧ c ≠ ['.']

/-- The path that a string writes. -/
def ofString (s : String) : Path :=
  ofChars s.toList

/-- The components of a path with slashes between them, and none at either end. -/
def joined : List Component → List Char
  | [] => []
  | [c] => c
  | c :: r => c ++ '/' :: joined r

/-- A path in its normal form, as it is quoted in a message. -/
def text (p : Path) : List Char :=
  match p.root.text ++ joined p.components with
  | [] => ['.']
  | s => s

end Path

end AwsCredentials.Files
