import Underlay.Text.Hidden

/-!
Quoted texts. A text is put between double quotes; quotes and backslashes inside are escaped,
line breaks, returns, tabs and the zero character have short escapes, and a character that cannot
be shown stands as its number in braces.
-/

namespace Underlay.Text

def quoteChar (c : Char) : List Char :=
  match c with
  | '\x00' => ['\\', '0']
  | '\t' => ['\\', 't']
  | '\r' => ['\\', 'r']
  | '\n' => ['\\', 'n']
  | '\\' => ['\\', '\\']
  | '"' => ['\\', '"']
  | c =>
      if isHidden c then
        ['\\', 'u', '\x7b'] ++ Nat.toDigits 16 c.toNat ++ ['\x7d']
      else
        [c]

def quote (text : String) : String :=
  String.ofList ('"' :: text.toList.flatMap quoteChar ++ ['"'])

end Underlay.Text
