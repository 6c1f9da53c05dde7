/-!
Bytes read as text. A well-formed sequence is its character; a byte that begins none, and the
longest beginning of a sequence that breaks off, are each replaced by `U+FFFD`. Also bytes written
in base sixteen, two digits a byte.
-/

namespace Underlay.Text

/-- What stands for bytes that are no text. -/
def replacement : Char := Char.ofNat 0xFFFD

/-- A sequence that has begun: the bits read, the bytes still missing, and the bounds of the next
byte. -/
structure Partial where
  bits : Nat
  missing : Nat
  low : Nat
  high : Nat
deriving DecidableEq, Repr

inductive Lead where
  | char (c : Char)
  | sequence (rest : Partial)
  | none
deriving DecidableEq, Repr

def lead (byte : UInt8) : Lead :=
  let n := byte.toNat
  if n < 0x80 then .char (Char.ofNat n)
  else if n < 0xC2 then .none
  else if n < 0xE0 then .sequence ⟨n - 0xC0, 1, 0x80, 0xBF⟩
  else if n = 0xE0 then .sequence ⟨0, 2, 0xA0, 0xBF⟩
  else if n = 0xED then .sequence ⟨0xD, 2, 0x80, 0x9F⟩
  else if n < 0xF0 then .sequence ⟨n - 0xE0, 2, 0x80, 0xBF⟩
  else if n = 0xF0 then .sequence ⟨0, 3, 0x90, 0xBF⟩
  else if n < 0xF4 then .sequence ⟨n - 0xF0, 3, 0x80, 0xBF⟩
  else if n = 0xF4 then .sequence ⟨4, 3, 0x80, 0x8F⟩
  else .none

def begin (byte : UInt8) : List Char × Option Partial :=
  match lead byte with
  | .char c => ([c], none)
  | .sequence begun => ([], some begun)
  | .none => ([replacement], none)

/-- What a byte gives behind a sequence that may have begun. -/
def advance (state : Option Partial) (byte : UInt8) : List Char × Option Partial :=
  match state with
  | none => begin byte
  | some p =>
      if p.low ≤ byte.toNat ∧ byte.toNat ≤ p.high then
        let bits := p.bits * 64 + (byte.toNat - 0x80)
        if p.missing = 1 then
          ([Char.ofNat bits], none)
        else
          ([], some ⟨bits, p.missing - 1, 0x80, 0xBF⟩)
      else
        let (chars, state) := begin byte
        (replacement :: chars, state)

/-- Read bytes behind a sequence that may have begun. -/
def decodeFrom : Option Partial → List UInt8 → List Char
  | none, [] => []
  | some _, [] => [replacement]
  | state, byte :: rest =>
      let (chars, state) := advance state byte
      chars ++ decodeFrom state rest

/-- The text of bytes, with replacements where they are none. -/
def decode (bytes : List UInt8) : String :=
  String.ofList (decodeFrom none bytes)

/-- The bytes before the first zero byte. -/
def terminated (bytes : List UInt8) : List UInt8 :=
  bytes.takeWhile (· != 0)

def encode (text : String) : List UInt8 :=
  text.toUTF8.toList

/-- The text of bytes that are well-formed throughout. -/
def decode? (bytes : List UInt8) : Option String :=
  let text := decode bytes
  if encode text = bytes then some text else none

def hexDigit (n : Nat) : Char :=
  if n < 10 then Char.ofNat (48 + n) else Char.ofNat (87 + n)

def toHex (bytes : List UInt8) : String :=
  String.ofList (bytes.flatMap fun b => [hexDigit (b.toNat / 16), hexDigit (b.toNat % 16)])

def hexValue? (c : Char) : Option Nat :=
  if '0' ≤ c ∧ c ≤ '9' then some (c.toNat - 48)
  else if 'a' ≤ c ∧ c ≤ 'f' then some (c.toNat - 87)
  else if 'A' ≤ c ∧ c ≤ 'F' then some (c.toNat - 55)
  else none

def ofHexDigits? : List Char → Option (List UInt8)
  | [] => some []
  | a :: b :: rest => do
      let high ← hexValue? a
      let low ← hexValue? b
      let bytes ← ofHexDigits? rest
      return UInt8.ofNat (high * 16 + low) :: bytes
  | [_] => none

def ofHex? (text : String) : Option (List UInt8) :=
  ofHexDigits? text.toList

end Underlay.Text
