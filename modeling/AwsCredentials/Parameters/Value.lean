import AwsCredentials.Field
import AwsCredentials.Text.Blank
import AwsCredentials.Text.Utf8
import AwsCredentials.Text.WholeNumber

/-!
# Values given to fields

A caller may give a field a value of several types; `Value.normalise` turns it into the text that
the field holds, or says that it holds none.

* A text loses the white space around it, and then counts only when something is left. A text that
  is wrapped to keep it secret is treated alike.
* A truth value becomes `true` or `false`, a whole number its decimal text if that is not too long.
* Bytes are decoded as UTF-8 and kept as they are, blanks included, so the empty sequence of bytes
  sets a field to the empty text.
* All else is a fault.

The secret key reports undecodable bytes as if they were a value of a wrong type.
-/

namespace AwsCredentials

/-- A value given to a field. Types that are normalised in the same way are one constructor, and all
that no field accepts are the last one. -/
inductive Value
  /-- No value. -/
  | absent
  /-- A text. -/
  | text (s : String)
  /-- A text that is wrapped to keep it from being shown. -/
  | secret (s : String)
  /-- A truth value. -/
  | flag (b : Bool)
  /-- A whole number. -/
  | whole (n : Int)
  /-- Bytes. -/
  | bytes (b : List UInt8)
  /-- A value of any other type. -/
  | unsuitable
deriving DecidableEq

/-- Why a value cannot be held by a field. A text never is at fault, blank or not. -/
inductive ValueFault
  /-- The value is of a type that is not accepted. -/
  | notText
  /-- The value is bytes that are not the UTF-8 form of a text. -/
  | undecodable
  /-- The value is a whole number with too many digits to be written down. -/
  | overlong
deriving DecidableEq

namespace ValueFault

/-- The wording of a fault, which does not quote the value. -/
def message : ValueFault → String
  | notText => "Input should be a valid string"
  | undecodable => "Input should be a valid string, unable to parse raw data as a unicode string"
  | overlong =>
    "Value error, Exceeds the limit (" ++ toString Text.maxDigits
      ++ " digits) for integer string conversion; "
      ++ "use sys.set_int_max_str_digits() to increase the limit"

end ValueFault

namespace Value

/-- A text without the white space around it, if something is left. A blank text is as good as
none. -/
def nonBlank (s : String) : Option String :=
  if Text.strip s.toList = [] then none else some (Text.stripped s)

/-- The text that a field holds after it is given a value. -/
def normalise (f : Field) : Value → Except ValueFault (Option String)
  | absent => .ok none
  | text s => .ok (nonBlank s)
  | secret s => .ok (nonBlank s)
  | flag b => .ok (some (if b then "true" else "false"))
  | whole n =>
    if Text.maxDigits < Text.digitCount n then .error .overlong else .ok (some (Text.decimal n))
  | bytes b =>
    match Text.Utf8.decode b with
    | .ok s => .ok (some (String.ofList s))
    | .error _ => .error (if f = .secretKey then .notText else .undecodable)
  | unsuitable => .error .notText

/-- A secret is normalised as its text is. From there on the field alone says what is to be kept
from view. -/
@[simp]
theorem normalise_secret (f : Field) (s : String) :
    (secret s).normalise f = (text s).normalise f :=
  rfl

end Value

end AwsCredentials
