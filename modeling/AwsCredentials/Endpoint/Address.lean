import AwsCredentials.Text.Split

/-!
# Addresses of hosts

The texts that are addresses of version 4 or of version 6.

* An address of version 4 is four numbers from 0 to 255 with points between them, each of at most
  three digits and without leading zeros.
* An address of version 6 is eight groups of one to four hexadecimal digits with colons between
  them. Once, a double colon may stand for one or more groups of zeros. The last two groups may be
  written as an address of version 4. A zone may follow after a percent sign.
-/

namespace AwsCredentials.Endpoint

open Text (before after? splitAt cutAtDouble)

/-- An ASCII hexadecimal digit, in either case. Digits of other scripts do not count in an
address. -/
def isHexDigit (c : Char) : Bool :=
  c.isDigit || ('a' ≤ c && c ≤ 'f') || ('A' ≤ c && c ≤ 'F')

/-- A number of an address of version 4. A leading zero is not accepted, because some readers would
take the number for an octal one. -/
def isOctet (s : List Char) : Bool :=
  s ≠ [] && s.all Char.isDigit && s.length ≤ 3 && (s = ['0'] || s.head? ≠ some '0')
    && Nat.ofDigitChars 10 s 0 ≤ 255

/-- An address of version 4: four numbers with points between them and nothing else. -/
def isVersion4 (s : List Char) : Bool :=
  (splitAt '.' s).length = 4 && (splitAt '.' s).all isOctet

/-- A group of an address of version 6, one to four hexadecimal digits, which may be zeros. -/
def isGroup (s : List Char) : Bool :=
  s ≠ [] && s.all isHexDigit && s.length ≤ 4

/-- How many groups the parts of a text stand for; none if a part is no group. At the end of an
address a part may stand for two groups. -/
def groupCount? (atEnd : Bool) : List (List Char) → Option Nat
  | [] => some 0
  | [part] =>
    if isGroup part then some 1 else if atEnd && isVersion4 part then some 2 else none
  | part :: rest => if isGroup part then (groupCount? atEnd rest).map (· + 1) else none

/-- The parts of a text between colons. An empty text has none, because nothing stands on that side
of a double colon. -/
def groupParts (s : List Char) : List (List Char) :=
  if s = [] then [] else splitAt ':' s

/-- An address of version 6 without a zone, written out in full or with one double colon. -/
def isUnzoned (s : List Char) : Bool :=
  match cutAtDouble ':' s with
  | none => groupCount? true (groupParts s) = some 8
  | some (front, back) =>
    match groupCount? false (groupParts front), groupCount? true (groupParts back) with
    -- The double colon stands for at least one group.
    | some m, some n => m + n ≤ 7
    | _, _ => false

/-- A zone of an address of version 6: any text that is not empty, without a second percent sign and
without a slash. -/
def isZone (s : List Char) : Bool :=
  s ≠ [] && !s.contains '%' && !s.contains '/'

/-- An address of version 6. The zone, if there is a percent sign, follows the first one. -/
def isVersion6 (s : List Char) : Bool :=
  isUnzoned (before '%' s) && (after? '%' s).all isZone

/-- An address of a version to come: a `v`, a hexadecimal number, a point and more. -/
def isFutureVersion : List Char → Bool
  | 'v' :: s => s.head?.any isHexDigit &&
    match s.dropWhile isHexDigit with
    | '.' :: _ :: _ => true
    | _ => false
  | _ => false

end AwsCredentials.Endpoint
