import AwsCredentials.Text.Quoted

/-!
# Data of a response

The token service answers with structured data. The library looks up members of objects and passes
what it finds on without a look at it, so a member may hold anything, also nothing.

`Datum.member` is the only thing done to data. It fails when an object lacks the member, and when
the data is no object; the wording of the second failure depends on what the data is instead.
-/

namespace AwsCredentials.Session

/-- Structured data, as a service may answer with it. Nothing is known in advance of its shape. -/
inductive Datum
  /-- No value. -/
  | null
  /-- A truth value. -/
  | bool (b : Bool)
  /-- A whole number. -/
  | whole (n : Int)
  /-- A number with a fraction or an exponent, as it was written. -/
  | fraction (numeral : String)
  /-- A text. -/
  | text (s : String)
  /-- A list. -/
  | list (items : List Datum)
  /-- An object with named members. -/
  | object (members : List (String × Datum))
deriving Inhabited

/-- Why a member cannot be looked up: an object lacks it, or the data is no object at all. -/
inductive MemberFault
  /-- The object lacks a member of this name. -/
  | missing (name : String)
  /-- The data is of this simple type. -/
  | simple (type : String)
  /-- The data is a text. -/
  | inText
  /-- The data is a list. -/
  | inList
deriving DecidableEq

namespace MemberFault

/-- The wording of a fault, which tells the kind of data that was met in the place of an object. -/
def message : MemberFault → String
  | missing name => Text.quote name
  | simple type => Text.quote type ++ " object is not subscriptable"
  | inText => "string indices must be integers, not 'str'"
  | inList => "list indices must be integers or slices, not str"

end MemberFault

namespace Datum

/-- The member of a name, the first one if there are several, or why there is none to be had. -/
def member (name : String) : Datum → Except MemberFault Datum
  | null => .error (.simple "NoneType")
  | bool _ => .error (.simple "bool")
  | whole _ => .error (.simple "int")
  | fraction _ => .error (.simple "float")
  | text _ => .error .inText
  | list _ => .error .inList
  | object members =>
    match members.find? fun m ↦ m.1 = name with
    | some m => .ok m.2
    | none => .error (.missing name)

end Datum

end AwsCredentials.Session
