import Underlay.Container.Dict
import Underlay.Json.Value
import Underlay.Text.Blank
import Underlay.Text.Utf8

/-!
Reading JSON from left to right. Reading ends at the first problem, which is of one of three
sorts: the text is malformed, it is truncated, or what it says so far has the wrong shape. A shape
says what is expected; a record may also be written as an array of its fields in order. Members
that a record does not name are only skimmed: their brackets, strings and numerals are followed,
but no value is made, so that no range or depth is exceeded by them. Arrays and objects may be
nested up to a fixed depth.
-/

namespace Underlay.Json

inductive Fault where
  | malformed
  | truncated
  | mistyped
deriving DecidableEq, Repr, Inhabited

namespace Reader

def skipBlank : List Char → List Char
  | [] => []
  | c :: rest =>
      if c == ' ' || c == '\n' || c == '\t' || c == '\r' then skipBlank rest else c :: rest

def word : List Char → List Char → Except Fault (List Char)
  | [], text => .ok text
  | _ :: _, [] => .error .truncated
  | c :: more, d :: rest => if c == d then word more rest else .error .malformed

/-- Four digits in base sixteen, and the text behind them. -/
def hex4 (text : List Char) : Except Fault { r : Nat × List Char // r.2.length < text.length } :=
  match text with
  | a :: b :: c :: d :: rest =>
      match Text.hexValue? a, Text.hexValue? b, Text.hexValue? c, Text.hexValue? d with
      | some a, some b, some c, some d =>
          .ok ⟨(((a * 16 + b) * 16 + c) * 16 + d, rest), by simp only [List.length_cons]; omega⟩
      | _, _, _, _ => .error .malformed
  | short =>
      if 4 ≤ (String.ofList short).utf8ByteSize then .error .malformed else .error .truncated

/-- The character of an escape behind its backslash. A character past the first plane is escaped
as a pair, and a lone half of a pair is no character. -/
def escaped (text : List Char) :
    Except Fault { r : Char × List Char // r.2.length < text.length } :=
  match text with
  | [] => .error .truncated
  | 'u' :: rest =>
      match hex4 rest with
      | .error fault => .error fault
      | .ok ⟨(n, rest₁), shorter₁⟩ =>
          if n < 0xD800 ∨ 0xDFFF < n then
            .ok ⟨(Char.ofNat n, rest₁), by simp only [List.length_cons] at *; omega⟩
          else if 0xDC00 ≤ n then
            .error .malformed
          else
            match rest₁ with
            | [] => .error .truncated
            | ['\\'] => .error .truncated
            | '\\' :: 'u' :: rest₂ =>
                match hex4 rest₂ with
                | .error fault => .error fault
                | .ok ⟨(m, rest₃), shorter₃⟩ =>
                    if 0xDC00 ≤ m ∧ m ≤ 0xDFFF then
                      .ok ⟨(Char.ofNat ((n - 0xD800) * 0x400 + (m - 0xDC00) + 0x10000), rest₃),
                        by simp only [List.length_cons] at *; omega⟩
                    else
                      .error .malformed
            | _ => .error .malformed
  | c :: rest =>
      let plain (c : Char) :
          Except Fault { r : Char × List Char // r.2.length < (c :: rest).length } :=
        .ok ⟨(c, rest), by simp⟩
      match c with
      | '"' => plain '"'
      | '\\' => plain '\\'
      | '/' => plain '/'
      | 'b' => plain '\x08'
      | 'f' => plain '\x0c'
      | 'n' => plain '\n'
      | 'r' => plain '\r'
      | 't' => plain '\t'
      | _ => .error .malformed

/-- The rest of a string behind its opening quote and the characters already read, the last of
them first. -/
def stringFrom (read : List Char) (text : List Char) : Except Fault (String × List Char) :=
  match text with
  | [] => .error .truncated
  | '"' :: rest => .ok (String.ofList read.reverse, rest)
  | '\\' :: rest =>
      match escaped rest with
      | .error fault => .error fault
      | .ok ⟨(c, behind), _⟩ => stringFrom (c :: read) behind
  | c :: rest => if c.toNat < 0x20 then .error .malformed else stringFrom (c :: read) rest
termination_by text.length
decreasing_by all_goals simp only [List.length_cons] at *; omega

/-- Skim a string behind its opening quote; halves of pairs may stand alone in it. -/
def skimString (text : List Char) : Except Fault (List Char) :=
  match text with
  | [] => .error .truncated
  | '"' :: rest => .ok rest
  | ['\\'] => .error .truncated
  | '\\' :: 'u' :: rest =>
      match hex4 rest with
      | .error fault => .error fault
      | .ok ⟨(_, behind), _⟩ => skimString behind
  | '\\' :: c :: rest =>
      if ['"', '\\', '/', 'b', 'f', 'n', 'r', 't'].contains c then
        skimString rest
      else
        .error .malformed
  | c :: rest => if c.toNat < 0x20 then .error .malformed else skimString rest
termination_by text.length
decreasing_by all_goals simp only [List.length_cons] at *; omega

/-- Take digits into a significand as long as it is a size; the digits that are left over. -/
def absorb (significand : Nat) : List Char → Nat × List Char
  | [] => (significand, [])
  | c :: rest =>
      let next := significand * 10 + Text.digitValue c
      if next < Word.limit then absorb next rest else (significand, c :: rest)

/-- The number `significand * 10 ^ power` with its sign. -/
def scaled (negative : Bool) (significand : Nat) (power : Int) (rest : List Char) :
    Except Fault (Json × List Char) :=
  match Binary.ofDecimal? significand power with
  | some x => .ok (.binary { x with negative }, rest)
  | none => .error .malformed

/-- Exponents past this bound count as infinite. -/
def exponentBound : Nat := Word.halfLimit / 2

def exponent (negative : Bool) (significand : Nat) (power : Int) (text : List Char) :
    Except Fault (Json × List Char) :=
  let (down, text) := match text with
    | '+' :: rest => (false, rest)
    | '-' :: rest => (true, rest)
    | _ => (false, text)
  match text with
  | [] => .error .truncated
  | c :: _ =>
      if Text.isDigit c then
        let value := Text.number 0 (text.takeWhile Text.isDigit)
        let rest := text.dropWhile Text.isDigit
        if value < exponentBound then
          let sum := if down then power - value else power + value
          scaled negative significand (max (-exponentBound) (min (exponentBound - 1) sum)) rest
        else if significand ≠ 0 ∧ !down then
          .error .malformed
        else
          .ok (.binary { Binary.zero with negative }, rest)
      else
        .error .malformed

/-- The end of a numeral that is no integer: an exponent or nothing. -/
def numeralEnd (negative : Bool) (significand : Nat) (power : Int) (text : List Char) :
    Except Fault (Json × List Char) :=
  match text with
  | 'e' :: rest | 'E' :: rest => exponent negative significand power rest
  | _ => scaled negative significand power text

/-- A numeral behind its decimal point. Digits that the significand has no room for are left
out. -/
def fraction (negative : Bool) (significand : Nat) (power : Int) (text : List Char) :
    Except Fault (Json × List Char) :=
  let digits := text.takeWhile Text.isDigit
  let rest := text.dropWhile Text.isDigit
  if digits.isEmpty then
    .error (if rest.isEmpty then .truncated else .malformed)
  else
    let (significand, left) := absorb significand digits
    numeralEnd negative significand (power - (digits.length - left.length : Nat)) rest

/-- A numeral behind its sign. An integer that no word holds is a floating-point number. -/
def numeral (negative : Bool) (text : List Char) : Except Fault (Json × List Char) :=
  match text with
  | [] => .error .truncated
  | first :: behind =>
      let leadingZero := first == '0' && (behind.head?.map Text.isDigit).getD false
      if !Text.isDigit first || leadingZero then
        .error .malformed
      else
        let rest := text.dropWhile Text.isDigit
        let (significand, left) := absorb 0 (text.takeWhile Text.isDigit)
        match rest with
        | '.' :: more => fraction negative significand left.length more
        | 'e' :: _ | 'E' :: _ => numeralEnd negative significand left.length rest
        | _ =>
            if !left.isEmpty then
              scaled negative significand left.length rest
            else if !negative then
              .ok (.integer significand, rest)
            else if 0 < significand ∧ Word.least ≤ -(significand : Int) then
              .ok (.integer (-significand), rest)
            else
              scaled true significand 0 rest

/-- Skim digits, of which there must be one. -/
def skimDigits (text : List Char) : Except Fault (List Char) :=
  match text with
  | c :: _ =>
      if Text.isDigit c then .ok (text.dropWhile Text.isDigit) else .error .malformed
  | [] => .error .malformed

def skimExponent (text : List Char) : Except Fault (List Char) :=
  match text with
  | 'e' :: rest | 'E' :: rest =>
      match rest with
      | '+' :: more | '-' :: more => skimDigits more
      | _ => skimDigits rest
  | _ => .ok text

def skimNumeral (text : List Char) : Except Fault (List Char) := do
  let rest ← skimDigits text
  match text with
  | '0' :: c :: _ => if Text.isDigit c then throw .malformed
  | _ => pure ()
  match rest with
  | '.' :: more => skimExponent (← skimDigits more)
  | _ => skimExponent rest

/-- What stands behind an element or member: a comma and something else, or the end. -/
def comma (close : Char) (text : List Char) : Except Fault (Option (List Char)) :=
  match skipBlank text with
  | [] => .error .truncated
  | ',' :: rest =>
      match skipBlank rest with
      | [] => .error .truncated
      | c :: more => if c == close then .error .malformed else .ok (some (c :: more))
  | c :: _ => if c == close then .ok none else .error .malformed

/-- The text behind a closing bracket that stands in front. -/
def close (text : List Char) : List Char :=
  (skipBlank text).drop 1

/-- The key of a member and the text behind its colon. -/
def key (text : List Char) : Except Fault (String × List Char) :=
  match text with
  | '"' :: rest => stringFrom [] rest
  | [] => .error .truncated
  | _ => .error .malformed

def colon (text : List Char) : Except Fault (List Char) :=
  match skipBlank text with
  | [] => .error .truncated
  | ':' :: rest => .ok rest
  | _ => .error .malformed

/-- The first thing behind an opening bracket: nothing if the bracket closes at once. -/
def opened (close : Char) (text : List Char) : Except Fault (Option (List Char)) :=
  match skipBlank text with
  | [] => .error .truncated
  | c :: rest => if c == close then .ok none else .ok (some (c :: rest))

mutual

def skim : Nat → List Char → Except Fault (List Char)
  | 0, _ => .error .malformed
  | fuel + 1, text =>
      match skipBlank text with
      | [] => .error .truncated
      | 'n' :: rest => word ['u', 'l', 'l'] rest
      | 't' :: rest => word ['r', 'u', 'e'] rest
      | 'f' :: rest => word ['a', 'l', 's', 'e'] rest
      | '"' :: rest => skimString rest
      | '-' :: rest => skimNumeral rest
      | '[' :: rest => do
          match ← opened ']' rest with
          | none => return close rest
          | some text => skimElements fuel text
      | '\x7b' :: rest => do
          match ← opened '\x7d' rest with
          | none => return close rest
          | some text => skimMembers fuel text
      | c :: rest => if Text.isDigit c then skimNumeral (c :: rest) else .error .malformed

def skimElements : Nat → List Char → Except Fault (List Char)
  | 0, _ => .error .malformed
  | fuel + 1, text => do
      let rest ← skim fuel text
      match ← comma ']' rest with
      | none => return close rest
      | some text => skimElements fuel text

def skimMembers : Nat → List Char → Except Fault (List Char)
  | 0, _ => .error .malformed
  | fuel + 1, text => do
      match text with
      | '"' :: rest =>
          let rest ← skim fuel (← colon (← skimString rest))
          match ← comma '\x7d' rest with
          | none => return close rest
          | some text => skimMembers fuel text
      | _ => throw .malformed

end

mutual

/-- Read a value. `depth` levels of brackets may still be opened. -/
def value : Nat → Nat → List Char → Except Fault (Json × List Char)
  | 0, _, _ => .error .malformed
  | fuel + 1, depth, text =>
      match skipBlank text with
      | [] => .error .truncated
      | 'n' :: rest => (word ['u', 'l', 'l'] rest).map fun rest => (.null, rest)
      | 't' :: rest => (word ['r', 'u', 'e'] rest).map fun rest => (.bool true, rest)
      | 'f' :: rest => (word ['a', 'l', 's', 'e'] rest).map fun rest => (.bool false, rest)
      | '"' :: rest => (stringFrom [] rest).map fun (s, rest) => (.string s, rest)
      | '-' :: rest => numeral true rest
      | '[' :: rest =>
          match depth with
          | 0 => .error .malformed
          | depth + 1 => do
              match ← opened ']' rest with
              | none => return (.array [], close rest)
              | some text =>
                  let (elements, rest) ← elements fuel depth text
                  return (.array elements, rest)
      | '\x7b' :: rest =>
          match depth with
          | 0 => .error .malformed
          | depth + 1 => do
              match ← opened '\x7d' rest with
              | none => return (.object [], close rest)
              | some text =>
                  let (members, rest) ← members fuel depth {} text
                  return (.object members.entries, rest)
      | c :: rest => if Text.isDigit c then numeral false (c :: rest) else .error .malformed

def elements : Nat → Nat → List Char → Except Fault (List Json × List Char)
  | 0, _, _ => .error .malformed
  | fuel + 1, depth, text => do
      let (first, rest) ← value fuel depth text
      match ← comma ']' rest with
      | none => return ([first], close rest)
      | some text =>
          let (more, rest) ← elements fuel depth text
          return (first :: more, rest)

/-- The members of an object, on top of those already read; of two with one name the later
stays. -/
def members : Nat → Nat → Dict String Json → List Char → Except Fault (Dict String Json × List Char)
  | 0, _, _, _ => .error .malformed
  | fuel + 1, depth, read, text => do
      let (name, rest) ← key text
      let (member, rest) ← value fuel depth (← colon rest)
      let read := read.insert name member
      match ← comma '\x7d' rest with
      | none => return (read, close rest)
      | some text => members fuel depth read text

end

end Reader

inductive Shape where
  | any
  | text
  | list (element : Shape)
  | record (fields : List (String × Shape))
deriving Repr, Inhabited

namespace Reader

/-- The fault of a value that has another shape than expected; it is malformed or truncated first
if it is. -/
def unexpected (text : List Char) : Fault :=
  let settle {α : Type} (result : Except Fault α) : Fault :=
    match result with
    | .ok _ => .mistyped
    | .error fault => fault
  match text with
  | [] => .truncated
  | 'n' :: rest => settle (word ['u', 'l', 'l'] rest)
  | 't' :: rest => settle (word ['r', 'u', 'e'] rest)
  | 'f' :: rest => settle (word ['a', 'l', 's', 'e'] rest)
  | '"' :: rest => settle (stringFrom [] rest)
  | '-' :: rest => settle (numeral true rest)
  | '[' :: _ | '\x7b' :: _ => .mistyped
  | c :: rest => if Text.isDigit c then settle (numeral false (c :: rest)) else .malformed

/-- The end of an array behind the last field that is expected in it. -/
def lastField (text : List Char) : Except Fault (List Char) :=
  match skipBlank text with
  | [] => .error .truncated
  | ']' :: rest => .ok rest
  | _ => .error .malformed

mutual

/-- Read a value of a shape. Records come out as objects with their fields in order. -/
def shaped : Nat → Nat → Shape → List Char → Except Fault (Json × List Char)
  | 0, _, _, _ => .error .malformed
  | fuel + 1, depth, shape, text =>
      match shape with
      | .any => value fuel depth text
      | .text =>
          match skipBlank text with
          | '"' :: rest => (stringFrom [] rest).map fun (s, rest) => (.string s, rest)
          | other => .error (unexpected other)
      | .list element =>
          match skipBlank text, depth with
          | '[' :: _, 0 => .error .malformed
          | '[' :: rest, depth + 1 => do
              match ← opened ']' rest with
              | none => return (.array [], close rest)
              | some text =>
                  let (elements, rest) ← shapedElements fuel depth element text
                  return (.array elements, rest)
          | other, _ => .error (unexpected other)
      | .record fields =>
          match skipBlank text, depth with
          | '[' :: _, 0 | '\x7b' :: _, 0 => .error .malformed
          | '[' :: rest, depth + 1 => do
              let (members, rest) ← shapedFields fuel depth true fields rest
              return (.object members, ← lastField rest)
          | '\x7b' :: rest, depth + 1 => do
              match ← opened '\x7d' rest with
              | none => if fields.isEmpty then return (.object [], close rest) else throw .mistyped
              | some text => shapedMembers fuel depth fields [] text
          | other, _ => .error (unexpected other)

def shapedElements : Nat → Nat → Shape → List Char → Except Fault (List Json × List Char)
  | 0, _, _, _ => .error .malformed
  | fuel + 1, depth, shape, text => do
      let (first, rest) ← shaped fuel depth shape text
      match ← comma ']' rest with
      | none => return ([first], close rest)
      | some text =>
          let (more, rest) ← shapedElements fuel depth shape text
          return (first :: more, rest)

/-- The fields of a record that is written as an array. -/
def shapedFields : Nat → Nat → Bool → List (String × Shape) → List Char →
    Except Fault (List (String × Json) × List Char)
  | 0, _, _, _, _ => .error .malformed
  | _ + 1, _, _, [], text => .ok ([], text)
  | fuel + 1, depth, first, (name, shape) :: fields, text => do
      match ← if first then opened ']' text else comma ']' text with
      | none => throw .mistyped
      | some text =>
          let (field, rest) ← shaped fuel depth shape text
          let (more, rest) ← shapedFields fuel depth false fields rest
          return ((name, field) :: more, rest)

/-- The members of a record that is written as an object. No field may be missing or be given
twice. -/
def shapedMembers : Nat → Nat → List (String × Shape) → List (String × Json) → List Char →
    Except Fault (Json × List Char)
  | 0, _, _, _, _ => .error .malformed
  | fuel + 1, depth, fields, read, text => do
      let (name, rest) ← key text
      let (read, rest) ←
        match fields.find? fun field => field.1 == name with
        | none => do
            let rest ← skim fuel (← colon rest)
            pure (read, rest)
        | some (name, shape) =>
            if read.any fun member => member.1 == name then
              throw .mistyped
            else do
              let (field, rest) ← shaped fuel depth shape (← colon rest)
              pure ((name, field) :: read, rest)
      match ← comma '\x7d' rest with
      | none =>
          let ordered := fields.filterMap fun field =>
            read.find? fun member => member.1 == field.1
          if ordered.length = fields.length then
            return (.object ordered, close rest)
          else
            throw .mistyped
      | some text => shapedMembers fuel depth fields read text

end

end Reader

/-- How many levels of brackets a text may open. -/
def depthLimit : Nat := 127

/-- Read a text that holds one value of a shape and nothing else. -/
def parse (shape : Shape) (text : String) : Except Fault Json := do
  let chars := text.toList
  let (json, rest) ← Reader.shaped (2 * chars.length + 2) depthLimit shape chars
  if (Reader.skipBlank rest).isEmpty then return json else throw .malformed

end Underlay.Json
