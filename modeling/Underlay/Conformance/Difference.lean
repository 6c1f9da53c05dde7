import Underlay.Text.Lines

/-!
Differences between an expected and an actual text, line by line: every line at which they differ
is given with its number, and a text that has ended counts as empty lines.
-/

namespace Underlay.Conformance

/-- The differences of two texts from the line `number` on. -/
def hunks (number : Nat) : List String → List String → List String
  | [], [] => []
  | expected :: restExpected, [] => hunk expected "" ++ hunks (number + 1) restExpected []
  | [], actual :: restActual => hunk "" actual ++ hunks (number + 1) [] restActual
  | expected :: restExpected, actual :: restActual =>
      hunk expected actual ++ hunks (number + 1) restExpected restActual
where
  hunk (expected actual : String) : List String :=
    if expected = actual then
      []
    else
      ["@@ line " ++ toString number ++ " @@\n-" ++ expected ++ "\n+" ++ actual ++ "\n"]

def difference (expected actual : String) : String :=
  if expected = actual then
    "[identical]"
  else
    "--- expected\n+++ actual\n" ++
      String.join (hunks 1 (Text.splitLines expected) (Text.splitLines actual))

end Underlay.Conformance
