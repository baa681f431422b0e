import AwsCredentials.Text.Quoted

/-!
# Strict UTF-8

Files hold bytes and the library works on characters. Decoding is strict: overlong forms,
surrogates, code points above U+10FFFF, stray continuation bytes and cut characters are faults.

The decoder reads one byte at a time. The first byte of a character fixes how many more are owed and
the range in which the next one has to lie (`lead`); every later byte lies in 80 to BF. A fault is
therefore found at the first byte that no character can have there, and it spans the bytes of the
character read so far, that byte not counted, or the byte itself when it begins no character.

`encode` is the inverse direction.
-/

namespace AwsCredentials.Text

/-- Why bytes are not the UTF-8 form of a text. What is wrong is told of the first byte that cannot
be what it has to be. -/
inductive Utf8Reason
  /-- The byte begins no character. -/
  | invalidStart
  /-- The character begun is not continued by the byte that follows. -/
  | invalidContinuation
  /-- The bytes end within a character. -/
  | unexpectedEnd
deriving DecidableEq

/-- A place at which bytes are not the UTF-8 form of a text. -/
structure Utf8Fault where
  /-- What is wrong. -/
  reason : Utf8Reason
  /-- The first byte of the span at fault. -/
  byte : UInt8
  /-- Where the span begins, counted from 0. -/
  start : Nat
  /-- How many bytes the span has. -/
  length : Nat
deriving DecidableEq

namespace Utf8Reason

/-- The wording of a reason, as it stands at the end of the message. -/
def message : Utf8Reason → String
  | invalidStart => "invalid start byte"
  | invalidContinuation => "invalid continuation byte"
  | unexpectedEnd => "unexpected end of data"

end Utf8Reason

namespace Utf8Fault

/-- The wording of a fault: a span of one byte is shown by its value, a longer one by its ends. -/
def message (f : Utf8Fault) : String :=
  let place :=
    if f.length = 1 then
      "byte 0x" ++ String.ofList (hexDigits 2 f.byte.toNat) ++ " in position " ++ toString f.start
    else
      "bytes in position " ++ toString f.start ++ "-" ++ toString (f.start + f.length - 1)
  "'utf-8' codec can't decode " ++ place ++ ": " ++ f.reason.message

end Utf8Fault

namespace Utf8

/-- What the first byte of a character says about the character: how many bytes follow, and of what
kind the next one has to be. -/
inductive Lead
  /-- The byte is the whole of it. -/
  | whole (c : Char)
  /-- So many bytes are owed, the next one in the given range, after these leading bits. -/
  | opens (owed : Nat) (low high : UInt8) (bits : Nat)
  /-- No character begins with the byte. -/
  | invalid
deriving DecidableEq

/-- Reads the first byte of a character. The restrictions on the next byte keep out surrogates, too
great numbers and forms that are longer than need be. -/
def lead (b : UInt8) : Lead :=
  if b < 0x80 then .whole (Char.ofNat b.toNat)
  -- Continuation bytes, and C0 and C1, which could only begin an overlong form.
  else if b < 0xC2 then .invalid
  else if b < 0xE0 then .opens 1 0x80 0xBF (b.toNat - 0xC0)
  -- E0 must not begin an overlong form, and ED no surrogate.
  else if b < 0xF0 then
    .opens 2 (if b = 0xE0 then 0xA0 else 0x80) (if b = 0xED then 0x9F else 0xBF) (b.toNat - 0xE0)
  -- F0 must not begin an overlong form, and F4 nothing above U+10FFFF.
  else if b < 0xF5 then
    .opens 3 (if b = 0xF0 then 0x90 else 0x80) (if b = 0xF4 then 0x8F else 0xBF) (b.toNat - 0xF0)
  else .invalid

/-- A character of which some bytes are still to come. Only the next of them can be restricted to
less than all later bytes. -/
structure Pending where
  /-- Its first byte. -/
  byte : UInt8
  /-- Where it begins. -/
  start : Nat
  /-- How many bytes are to come after the next one. -/
  later : Nat
  /-- The least value of the next byte. -/
  low : UInt8
  /-- The greatest value of the next byte. -/
  high : UInt8
  /-- The bits of the code point read so far. -/
  bits : Nat
deriving DecidableEq

/-- The fault of a pending character that ends before the given position. -/
def Pending.fault (p : Pending) (reason : Utf8Reason) (position : Nat) : Utf8Fault :=
  ⟨reason, p.byte, p.start, position - p.start⟩

/-- Decodes the bytes from the given position on, after the bytes of a pending character if there is
one. -/
def decodeFrom : (position : Nat) → Option Pending → List UInt8 → Except Utf8Fault (List Char)
  | _, none, [] => .ok []
  | position, some p, [] => .error (p.fault .unexpectedEnd position)
  | position, none, b :: r =>
    match lead b with
    | .whole c => (c :: ·) <$> decodeFrom (position + 1) none r
    | .opens owed low high bits =>
      decodeFrom (position + 1) (some ⟨b, position, owed - 1, low, high, bits⟩) r
    | .invalid => .error ⟨.invalidStart, b, position, 1⟩
  | position, some p, b :: r =>
    if p.low ≤ b ∧ b ≤ p.high then
      let bits := p.bits * 64 + (b.toNat - 0x80)
      match p.later with
      | 0 => (Char.ofNat bits :: ·) <$> decodeFrom (position + 1) none r
      | later + 1 =>
        decodeFrom (position + 1) (some ⟨p.byte, p.start, later, 0x80, 0xBF, bits⟩) r
    else .error (p.fault .invalidContinuation position)

/-- The text of which the bytes are the UTF-8 form, or the first place where they are not that of
any. -/
def decode (bytes : List UInt8) : Except Utf8Fault (List Char) :=
  decodeFrom 0 none bytes

/-- The UTF-8 form of a text, in which every character has one to four bytes. -/
def encode (s : List Char) : List UInt8 :=
  s.flatMap String.utf8EncodeChar

@[simp]
theorem decode_nil : decode [] = .ok [] :=
  rfl

@[simp]
theorem encode_nil : encode [] = [] :=
  rfl

@[simp]
theorem encode_append (s t : List Char) : encode (s ++ t) = encode s ++ encode t := by
  simp [encode]

end Utf8

end AwsCredentials.Text
