import Underlay.Conformance.Digest
import Underlay.Conformance.Verdict

/-!
Reports. A report names the fixtures that were verified, by the digests of their texts, and gives
every verdict, in a text for readers and in JSON.
-/

namespace Underlay.Conformance

structure Source where
  family : String
  origin : String
  digest : String
deriving DecidableEq, Repr, Inhabited

namespace Source

def ofText (family origin text : String) : Source :=
  { family, origin, digest := Digest.hex (Text.encode text) }

def json (source : Source) : Json :=
  .object [("family", .string source.family), ("origin", .string source.origin),
    ("sha256", .string source.digest)]

end Source

structure Report where
  title : String
  timestamp : String
  sources : List Source
  verdicts : List Verdict
deriving DecidableEq, Repr, Inhabited

namespace Report

def row (cells : List String) : String :=
  "| " ++ " | ".intercalate cells ++ " |\n"

def summaryText (r : Report) : String :=
  "# " ++ r.title ++ "\n\n- Timestamp: " ++ r.timestamp ++
    "\n- Total: " ++ toString r.verdicts.length ++
    "\n- Passed: " ++ toString (passedCount r.verdicts) ++
    "\n- Failed: " ++ toString (failedCount r.verdicts) ++ "\n\n"

def sourcesText (r : Report) : String :=
  "## Fixtures\n\n" ++ row ["Family", "Source", "SHA-256"] ++ "|--------|--------|---------|\n" ++
    String.join (r.sources.map fun source =>
      row [source.family, source.origin, "`" ++ source.digest ++ "`"])

def verdictsText (r : Report) : String :=
  "\n## Cases\n\n" ++ row ["Case", "Family", "Function", "Status"] ++
    "|------|--------|----------|--------|\n" ++
    String.join (r.verdicts.map fun v =>
      row [v.caseName, v.family, v.function, if v.passed then "PASS" else "FAIL"])

def failuresText (r : Report) : String :=
  let failures := r.verdicts.filter fun v => !v.passed
  if failures.isEmpty then
    ""
  else
    "\n## Failures\n" ++
      String.join (failures.map fun v =>
        "\n### " ++ v.caseName ++ "\n\n```diff\n" ++ v.difference.getD "" ++ "```\n")

def markdown (r : Report) : String :=
  r.summaryText ++ r.sourcesText ++ r.verdictsText ++ r.failuresText

def json (r : Report) : Json :=
  .object [("title", .string r.title), ("timestamp", .string r.timestamp),
    ("fixtures", .array (r.sources.map Source.json)),
    ("summary", .object [("total", .nat r.verdicts.length),
      ("passed", .nat (passedCount r.verdicts)), ("failed", .nat (failedCount r.verdicts)),
      ("results", .array (r.verdicts.map Verdict.json))])]

end Report

end Underlay.Conformance
