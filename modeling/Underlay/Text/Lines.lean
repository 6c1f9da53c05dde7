/-!
Lines of a text. A line ends at a line break, and a return right before the break belongs to the
break; what follows the last break is a line unless it is empty.
-/

namespace Underlay.Text

def lines : List Char → List (List Char)
  | [] => []
  | '\n' :: rest => [] :: lines rest
  | '\r' :: '\n' :: rest => [] :: lines rest
  | c :: rest =>
      match lines rest with
      | [] => [[c]]
      | line :: more => (c :: line) :: more

def splitLines (text : String) : List String :=
  (lines text.toList).map String.ofList

end Underlay.Text
