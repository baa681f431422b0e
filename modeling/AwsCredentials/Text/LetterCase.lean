/-!
# Letter case

Names and flags are compared without regard to letter case. Every name and word that a text is
compared with is written in ASCII, so all that matters is which characters have an ASCII letter as
their lower-case form: the capitals A to Z and, of all other characters, the Kelvin sign alone.
-/

namespace AwsCredentials.Text

/-- The lower-case form of a character, as far as that form is an ASCII letter. -/
def lowerChar (c : Char) : Char :=
  if c = '\u212A' then 'k' else c.toLower

/-- The lower-case form of a text, character by character. -/
def lower (s : List Char) : List Char :=
  s.map lowerChar

/-- A text is a letter-case variant of a word that is written in small letters. -/
def IsVariantOf (s word : String) : Prop :=
  lower s.toList = word.toList

instance (s word : String) : Decidable (IsVariantOf s word) :=
  inferInstanceAs (Decidable (_ = _))

@[simp]
theorem lower_nil : lower [] = [] :=
  rfl

@[simp]
theorem lower_cons (c : Char) (s : List Char) : lower (c :: s) = lowerChar c :: lower s :=
  rfl

@[simp]
theorem length_lower (s : List Char) : (lower s).length = s.length := by
  simp [lower]

end AwsCredentials.Text
