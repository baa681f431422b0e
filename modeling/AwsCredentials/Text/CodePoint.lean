/-!
# Texts of code points

An escape in a properties text names any 16-bit number, and so also a surrogate: a number that no
character has. A text that was decoded from such escapes is therefore a list of code points, where a
surrogate may stand anywhere, also two of them side by side, and is kept as it is.

* `CodePoint` is a character or a surrogate; `CodeText` is a list of them.
* `CodeText.ofString` embeds ordinary texts, and `CodeText.toString?` is its partial inverse
  (`toString?_ofString`).
-/

namespace AwsCredentials.Text

/-- A code point: a character, or one of the 2048 surrogates. -/
inductive CodePoint
  /-- An ordinary character. -/
  | char (c : Char)
  /-- The surrogate this far above U+D800. -/
  | surrogate (offset : Fin 2048)
deriving DecidableEq

namespace CodePoint

/-- The number of a code point. The numbers of the surrogates fill the gap between those of the
characters. -/
def toNat : CodePoint → Nat
  | .char c => c.toNat
  | .surrogate offset => 0xD800 + offset

/-- The code point of a 16-bit number: a surrogate where there is no character of this number. -/
def ofUnit (n : Fin 65536) : CodePoint :=
  if h : 0xD800 ≤ n.val ∧ n.val < 0xE000 then
    .surrogate ⟨n - 0xD800, by omega⟩
  else
    .char (Char.ofNat n)

@[simp]
theorem toNat_char (c : Char) : (char c).toNat = c.toNat :=
  rfl

end CodePoint

/-- A text of code points. An ordinary text is one without surrogates. -/
abbrev CodeText := List CodePoint

namespace CodeText

/-- An ordinary text as a text of code points. -/
def ofChars (s : List Char) : CodeText :=
  s.map .char

/-- An ordinary string as a text of code points, none of which is a surrogate. -/
def ofString (s : String) : CodeText :=
  ofChars s.toList

/-- The characters of a text that holds no surrogate; one is enough to have none. -/
def toChars? : CodeText → Option (List Char)
  | [] => some []
  | .char c :: r => (toChars? r).map (c :: ·)
  | .surrogate _ :: _ => none

/-- The string of a text that holds no surrogate; a text that holds one has no string. -/
def toString? (t : CodeText) : Option String :=
  (toChars? t).map String.ofList

@[simp]
theorem toChars?_ofChars (s : List Char) : toChars? (ofChars s) = some s := by
  induction s with
  | nil => rfl
  | cons c r ih => simpa [ofChars, toChars?] using ih

@[simp]
theorem toString?_ofString (s : String) : toString? (ofString s) = some s := by
  simp [toString?, ofString]

end CodeText

end AwsCredentials.Text
