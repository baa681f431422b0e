import AwsCredentials.Proofs.Properties.Alphabet

/-!
# Reading a properties text in one pass

`Reader` goes through a text once, character by character, and never looks back or ahead. It keeps
in its state what the passes over whole lines find out each for itself: whether a backslash is
active, where in an entry it is, and how much of an escape by number was spelled.

* `Decoding` is a key or a value as far as it is decoded.
* `Entry` is an entry as far as it is read. It is fed pieces: a character on its own, or a character
  after an active backslash.
* `Place` is where in a line the reader is, and `Reader` adds the dictionary so far.

A malformed escape does not stop the reader before the end of its line, since a later one in the
value of the line takes precedence over one in the key, and since what is shown of it may reach
further.

The reader knows the characters of the format from the lists of
`AwsCredentials.Proofs.Properties.Alphabet`, and shares no test and no table with the parser.
`read` is compared with the parser in `AwsCredentials.Proofs.Properties.OnePass`.
-/

namespace AwsCredentials.Properties

open Text (CodePoint CodeText)

/-! ### Keys and values -/

/-- A key or a value as far as it is decoded, in the middle of an escape by number or not. -/
inductive Decoding
  /-- Nothing is left open. -/
  | decoded (out : CodeText)
  /-- An escape by number is being spelled, and has these digits so far. -/
  | spelling (out : CodeText) (digits : { ds : List Char // ds.length < 4 })
  /-- An escape is malformed. -/
  | malformed (e : MalformedEscape)

namespace Decoding

/-- A decoding of which nothing was read yet, and which stands for the empty text. -/
def empty : Decoding :=
  decoded []

/-- An escape by number with all its digits, which is malformed unless they spell a number by the
table of digits. -/
def settle (out : CodeText) (digits : List Char) : Decoding :=
  match numeral? digits with
  | some n => decoded (out ++ [.ofUnit n])
  | none => malformed ⟨'\\' :: 'u' :: digits⟩

/-- Takes one character, which stands for itself or belongs to an escape by number. After a fault
nothing changes. -/
def char (x : Decoding) (c : Char) : Decoding :=
  match x with
  | decoded out => decoded (out ++ [.char c])
  | spelling out ds =>
    if h : (ds.val ++ [c]).length < 4 then spelling out ⟨ds.val ++ [c], h⟩
    else settle out (ds.val ++ [c])
  | malformed e => malformed e

/-- Takes a character after an active backslash, which has the meaning that the list of letters
gives it. -/
def escape (x : Decoding) (c : Char) : Decoding :=
  match x with
  | decoded out =>
    if c = 'u' then spelling out ⟨[], by decide⟩ else decoded (out ++ [.char (meaning c)])
  -- Where digits belong, the backslash is a character like any other.
  | spelling out ds => ((spelling out ds).char '\\').char c
  | malformed e => malformed e

/-- The decoded text, at the end, where an escape by number without all its digits is malformed. -/
def close : Decoding → Except MalformedEscape CodeText
  | decoded out => .ok out
  | spelling _ ds => .error ⟨'\\' :: 'u' :: ds⟩
  | malformed e => .error e

end Decoding

/-! ### Entries -/

/-- Where in an entry the reader is. It moves from one phase to a later one only. -/
inductive Phase
  /-- In the key. -/
  | key
  /-- Among the blanks after the key. -/
  | beforeSeparator
  /-- Among the blanks after the separator. -/
  | afterSeparator
  /-- In the value. -/
  | value

/-- An entry as far as it is read. -/
structure Entry where
  /-- Where in the entry the reader is. -/
  phase : Phase
  /-- The key. -/
  key : Decoding
  /-- The value. -/
  value : Decoding

namespace Entry

/-- An entry of which nothing was read yet. The key comes first. -/
def empty : Entry :=
  ⟨.key, .empty, .empty⟩

/-- Takes a character with no active backslash before it. -/
def plain (e : Entry) (c : Char) : Entry :=
  match e.phase with
  | .key =>
    if c ∈ separators then { e with phase := .afterSeparator }
    else if c ∈ blanks then { e with phase := .beforeSeparator }
    else { e with key := e.key.char c }
  | .beforeSeparator =>
    if c ∈ separators then { e with phase := .afterSeparator }
    else if c ∈ blanks then e
    else { e with phase := .value, value := e.value.char c }
  | .afterSeparator =>
    if c ∈ blanks then e else { e with phase := .value, value := e.value.char c }
  | .value => { e with value := e.value.char c }

/-- Takes a character after an active backslash, into the key or the value. It ends no key and is no
blank to drop. -/
def escape (e : Entry) (c : Char) : Entry :=
  match e.phase with
  | .key => { e with key := e.key.escape c }
  | _ => { e with phase := .value, value := e.value.escape c }

/-- The key and the value, at the end of the line. Of two faults the one in the value is
reported. -/
def close (e : Entry) : Except MalformedEscape (CodeText × CodeText) := do
  let value ← e.value.close
  let key ← e.key.close
  return (key, value)

end Entry

/-! ### Lines -/

/-- Where in a line the reader is. An active backslash is a place of its own, since what it does is
told by what follows. -/
inductive Place
  /-- Among the leading blanks, with the entry that goes on here, if one does. -/
  | margin (pending : Option Entry)
  /-- In a comment. -/
  | comment
  /-- In an entry, with no active backslash before the next character. -/
  | entry (e : Entry)
  /-- In an entry, right after an active backslash. -/
  | backslash (e : Entry)

namespace Place

/-- Takes a character of an entry with no active backslash before it. A backslash becomes the active
one. -/
def inEntry (e : Entry) (c : Char) : Place :=
  if c = '\\' then backslash e else entry (e.plain c)

/-- Takes a character that ends no line. -/
def next : Place → Char → Place
  | margin pending, c =>
    if c ∈ blanks then margin pending
    else if pending.isNone ∧ c ∈ commentMarkers then comment
    else inEntry (pending.getD .empty) c
  | comment, _ => comment
  | entry e, c => inEntry e c
  | backslash e, c => entry (e.escape c)

end Place

/-- The state of the one pass: all that is known of the characters read so far. -/
structure Reader where
  /-- Where in a line the reader is. -/
  place : Place
  /-- The last character was a carriage return, so that a line feed belongs to the same line end. -/
  afterReturn : Bool
  /-- The dictionary of the lines that are over, or the first fault in them. -/
  dictionary : Except MalformedEscape (Dictionary CodeText CodeText)

namespace Reader

/-- The state at the beginning of a text. -/
def start : Reader :=
  ⟨.margin none, false, .ok .empty⟩

/-- Adds an entry that is over to the dictionary, unless there was a fault before. -/
def store (r : Reader) (e : Entry) : Reader where
  place := .margin none
  afterReturn := false
  dictionary := do
    let d ← r.dictionary
    let pair ← e.close
    return d.insert pair.1 pair.2

/-- Takes a line end, which ends the entry unless an active backslash stands before it. -/
def endLine (r : Reader) : Reader :=
  match r.place with
  | .margin none => { r with afterReturn := false }
  | .margin (some e) => r.store e
  | .comment => { r with place := .margin none, afterReturn := false }
  | .entry e => r.store e
  | .backslash e => { r with place := .margin (some e), afterReturn := false }

/-- Takes a character. A line feed right after a carriage return belongs to the line end that was
taken already. -/
def step (r : Reader) (c : Char) : Reader :=
  if c = '\n' ∧ r.afterReturn then { r with afterReturn := false }
  else if c = '\n' then r.endLine
  else if c = '\r' then { r.endLine with afterReturn := true }
  else { r with place := r.place.next c, afterReturn := false }

/-- Adds the entry that was to go on, if there is one. -/
def flush (r : Reader) : Reader :=
  match r.place with
  | .margin (some e) => r.store e
  | _ => r

/-- The dictionary, at the end of the text. The end of the text ends a line as well. -/
def finish (r : Reader) : Except MalformedEscape (Dictionary CodeText CodeText) :=
  r.endLine.flush.dictionary

end Reader

/-- The dictionary of a text, read in one pass from left to right, or the first fault in it. -/
def read (s : List Char) : Except MalformedEscape (Dictionary CodeText CodeText) :=
  (s.foldl Reader.step .start).finish

end AwsCredentials.Properties
