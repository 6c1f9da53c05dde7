import Underlay.Json.Binary
import Underlay.Word

/-!
JSON values and their texts. The compact text has no white space, the spaced text has a blank
behind each comma and colon. The indented text puts each element and member on a line of its own,
two blanks deeper than what holds it. Members are written
in the order in which the value lists them.
-/

namespace Underlay

inductive Json where
  | null
  | bool (value : Bool)
  | integer (value : Int)
  | binary (value : Binary)
  | string (value : String)
  | array (elements : List Json)
  | object (members : List (String × Json))
deriving Repr, Inhabited

namespace Json

/-- A number that counts something. -/
def nat (n : Nat) : Json :=
  .integer n

def ofOption {α : Type} (encode : α → Json) : Option α → Json
  | some a => encode a
  | none => .null

def get? (json : Json) (name : String) : Option Json :=
  match json with
  | object members => (members.find? fun member => member.1 == name).map Prod.snd
  | _ => none

def isObject : Json → Bool
  | object _ => true
  | _ => false

def signed? : Json → Option Int
  | integer i => if Word.least ≤ i ∧ i ≤ Word.greatest then some i else none
  | _ => none

def size? : Json → Option Nat
  | integer i => if 0 ≤ i ∧ i < Word.limit then some i.toNat else none
  | _ => none

def string? : Json → Option String
  | string s => some s
  | _ => none

def bool? : Json → Option Bool
  | bool b => some b
  | _ => none

def array? : Json → Option (List Json)
  | array elements => some elements
  | _ => none

def object? : Json → Option (List (String × Json))
  | object members => some members
  | _ => none

def escapeChar (c : Char) : List Char :=
  match c with
  | '"' => ['\\', '"']
  | '\\' => ['\\', '\\']
  | '\x08' => ['\\', 'b']
  | '\t' => ['\\', 't']
  | '\n' => ['\\', 'n']
  | '\x0c' => ['\\', 'f']
  | '\r' => ['\\', 'r']
  | c =>
      if c.toNat < 0x20 then
        let digits := Nat.toDigits 16 c.toNat
        ['\\', 'u'] ++ List.replicate (4 - digits.length) '0' ++ digits
      else
        [c]

def escape (text : String) : String :=
  String.ofList ('"' :: text.toList.flatMap escapeChar ++ ['"'])

def scalar : Json → String
  | null => "null"
  | bool true => "true"
  | bool false => "false"
  | integer i => toString i
  | binary x => x.render
  | string s => escape s
  | array _ | object _ => ""

/-- What stands between the parts of a text on one line. -/
structure Separators where
  comma : String
  colon : String

mutual

def flat (separators : Separators) : Json → String
  | array elements => "[" ++ flatElements separators elements ++ "]"
  | object members => "\x7b" ++ flatMembers separators members ++ "\x7d"
  | json => json.scalar

def flatElements (separators : Separators) : List Json → String
  | [] => ""
  | [last] => last.flat separators
  | first :: rest => first.flat separators ++ separators.comma ++ flatElements separators rest

def flatMembers (separators : Separators) : List (String × Json) → String
  | [] => ""
  | [(name, value)] => escape name ++ separators.colon ++ value.flat separators
  | (name, value) :: rest =>
      escape name ++ separators.colon ++ value.flat separators ++ separators.comma ++
        flatMembers separators rest

end

def compact (json : Json) : String :=
  json.flat { comma := ",", colon := ":" }

/-- The text with a blank behind each comma and colon. -/
def spaced (json : Json) : String :=
  json.flat { comma := ", ", colon := ": " }

/-- A line break and the indentation of the line behind it. -/
def newline (depth : Nat) : String :=
  "\n" ++ String.ofList (List.replicate (2 * depth) ' ')

mutual

def indentedAt (depth : Nat) : Json → String
  | array [] => "[]"
  | array (first :: rest) =>
      "[" ++ indentedElements (depth + 1) (first :: rest) ++ newline depth ++ "]"
  | object [] => "\x7b\x7d"
  | object (first :: rest) =>
      "\x7b" ++ indentedMembers (depth + 1) (first :: rest) ++ newline depth ++ "\x7d"
  | json => json.scalar

def indentedElements (depth : Nat) : List Json → String
  | [] => ""
  | [last] => newline depth ++ last.indentedAt depth
  | first :: rest =>
      newline depth ++ first.indentedAt depth ++ "," ++ indentedElements depth rest

def indentedMembers (depth : Nat) : List (String × Json) → String
  | [] => ""
  | [(name, value)] => newline depth ++ escape name ++ ": " ++ value.indentedAt depth
  | (name, value) :: rest =>
      newline depth ++ escape name ++ ": " ++ value.indentedAt depth ++ "," ++
        indentedMembers depth rest

end

/-- The text with a line for each element and member. -/
def indented (json : Json) : String :=
  json.indentedAt 0

end Json

end Underlay
