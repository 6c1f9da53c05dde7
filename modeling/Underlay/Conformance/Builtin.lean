import Underlay.Conformance.Fixture

/-!
The fixture set that needs no file, and the text by which it is digested: one line for each case,
and an empty line between cases about different things.
-/

namespace Underlay.Conformance

namespace Builtin

def indexCases : List Case := [
  { name := "index_negative_last", function := "normalize_index",
    inputs := .object [("index", .integer (-1)), ("length", .integer 5)],
    expected := "4" },
  { name := "index_negative_first", function := "normalize_index",
    inputs := .object [("index", .integer (-5)), ("length", .integer 5)],
    expected := "0" },
  { name := "index_past_end", function := "normalize_index",
    inputs := .object [("index", .integer 5), ("length", .integer 5)],
    expected := "error:IndexError" },
  { name := "index_negative_past_start", function := "normalize_index",
    inputs := .object [("index", .integer (-6)), ("length", .integer 5)],
    expected := "error:IndexError" },
  { name := "index_into_empty", function := "normalize_index",
    inputs := .object [("index", .integer 0), ("length", .integer 0)],
    expected := "error:IndexError" }]

def sliceCases : List Case := [
  { name := "slice_clamped_start", function := "normalize_slice",
    inputs := .object [("start", .integer (-100)), ("stop", .integer 3), ("step", .integer 1),
      ("length", .integer 5)],
    expected := "start=0 stop=3 step=1 len=3 indices=[0, 1, 2]" },
  { name := "slice_reverse_full", function := "normalize_slice",
    inputs := .object [("step", .integer (-1)), ("length", .integer 4)],
    expected := "start=3 stop=-1 step=-1 len=4 indices=[3, 2, 1, 0]" },
  { name := "slice_step_two", function := "normalize_slice",
    inputs := .object [("start", .integer 1), ("step", .integer 2), ("length", .integer 6)],
    expected := "start=1 stop=6 step=2 len=3 indices=[1, 3, 5]" },
  { name := "slice_negative_bounds_reverse", function := "normalize_slice",
    inputs := .object [("start", .integer (-1)), ("stop", .integer (-4)), ("step", .integer (-1)),
      ("length", .integer 5)],
    expected := "start=4 stop=1 step=-1 len=3 indices=[4, 3, 2]" },
  { name := "slice_crossed_bounds_empty", function := "normalize_slice",
    inputs := .object [("start", .integer 4), ("stop", .integer 1), ("length", .integer 5)],
    expected := "start=4 stop=1 step=1 len=0 indices=[]" },
  { name := "slice_zero_step", function := "normalize_slice",
    inputs := .object [("step", .integer 0), ("length", .integer 5)],
    expected := "error:ValueError" }]

def progressionCases : List Case := [
  { name := "range_stop_only", function := "range",
    inputs := .object [("stop", .integer 5)],
    expected := "[0, 1, 2, 3, 4]" },
  { name := "range_negative_step", function := "range",
    inputs := .object [("start", .integer 10), ("stop", .integer 0), ("step", .integer (-3))],
    expected := "[10, 7, 4, 1]" },
  { name := "range_zero_step", function := "range",
    inputs := .object [("stop", .integer 5), ("step", .integer 0)],
    expected := "error:ValueError" },
  { name := "range_contains_stride", function := "range_contains",
    inputs := .object [("start", .integer 0), ("stop", .integer 10), ("step", .integer 3),
      ("value", .integer 9)],
    expected := "true" },
  { name := "range_excludes_off_stride", function := "range_contains",
    inputs := .object [("start", .integer 0), ("stop", .integer 10), ("step", .integer 3),
      ("value", .integer 8)],
    expected := "false" }]

def containerCases : List Case := [
  { name := "safe_at_negative", function := "safe_at",
    inputs := .object [("items", .array [.string "ada", .string "grace", .string "linus",
      .string "ken", .string "barbara"]), ("index", .integer (-1))],
    expected := "barbara" },
  { name := "safe_at_past_end", function := "safe_at",
    inputs := .object [("items", .array [.string "ada", .string "grace", .string "linus",
      .string "ken", .string "barbara"]), ("index", .integer 5)],
    expected := "error:IndexError" },
  { name := "safe_get_hit", function := "safe_get",
    inputs := .object [("map", .object [("a", .integer 1), ("b", .integer 2)]), ("key",
      .string "b")],
    expected := "2" },
  { name := "safe_get_missing", function := "safe_get",
    inputs := .object [("map", .object [("a", .integer 1)]), ("key", .string "x")],
    expected := "error:KeyError" },
  { name := "set_membership", function := "contains",
    inputs := .object [("items", .array [.string "x", .string "y"]), ("needle", .string "y")],
    expected := "true" },
  { name := "list_membership_absent", function := "sequence_contains",
    inputs := .object [("items", .array [.string "x", .string "y"]), ("needle", .string "z")],
    expected := "false" },
  { name := "bridge_slice_reverse_by_two", function := "slice",
    inputs := .object [("items", .array [.string "a", .string "b", .string "c", .string "d",
      .string "e"]), ("step", .integer (-2))],
    expected := "[e, c, a]" },
  { name := "bridge_slice_zero_step", function := "slice",
    inputs := .object [("items", .array [.string "a"]), ("step", .integer 0)],
    expected := "error:ValueError" },
  { name := "enumerate_in_order", function := "enumerate",
    inputs := .object [("items", .array [.string "a", .string "b"])],
    expected := "0:a 1:b" },
  { name := "equal_lists", function := "equal",
    inputs := .object [("left", .array [.string "a", .string "b"]), ("right", .array [.string "a",
      .string "b"])],
    expected := "true" },
  { name := "unequal_lengths", function := "equal",
    inputs := .object [("left", .array [.string "a"]), ("right", .array [.string "a",
      .string "b"])],
    expected := "false" }]

def scopeCases : List Case := [
  { name := "scope_releases_lifo", function := "scope",
    inputs := .object [("sizes", .array [.integer 8, .integer 16, .integer 32])],
    expected := "registered=3 released=3 lifo=true" },
  { name := "scope_exhaustion_mid_sequence", function := "scope",
    inputs := .object [("sizes", .array [.integer 8, .integer 8, .integer 8]), ("fail_after",
      .integer 2)],
    expected := "registered=2 released=2 lifo=true error=MemoryError" },
  { name := "scope_zero_size", function := "scope",
    inputs := .object [("sizes", .array [.integer 8, .integer 0, .integer 8])],
    expected := "registered=1 released=1 lifo=true error=ValueError" },
  { name := "scope_double_registration", function := "scope_double_register",
    inputs := .object [],
    expected := "releases=2" }]

def poolCases : List Case := [
  { name := "pool_offsets_repeat_after_reset", function := "pool",
    inputs := .object [("capacity", .integer 64), ("sizes", .array [.integer 8, .integer 16,
      .integer 8]), ("after_reset", .array [.integer 8])],
    expected := "offsets=[0, 8, 24] used=32 growths=0 after_reset=[0]" },
  { name := "pool_grows_when_full", function := "pool",
    inputs := .object [("capacity", .integer 16), ("sizes", .array [.integer 8, .integer 8,
      .integer 8])],
    expected := "offsets=[0, 8, 16] used=24 growths=1" }]

def sharedCases : List Case := [
  { name := "refcount_single_release", function := "refcount",
    inputs := .object [("retains", .integer 0)],
    expected := "releases=1 destroyed_on=1 destructor_runs=1" },
  { name := "refcount_last_release_destroys", function := "refcount",
    inputs := .object [("retains", .integer 2)],
    expected := "releases=3 destroyed_on=3 destructor_runs=1" }]

def registryCases : List Case := [
  { name := "registry_reverse_order", function := "registry",
    inputs := .object [("names", .array [.string "db", .string "socket", .string "file"])],
    expected := "ran=3 order=[file, socket, db]" }]

def failureCases : List Case := [
  { name := "error_render_with_location", function := "error_render",
    inputs := .object [("kind", .string "IndexError"), ("message",
      .string "list index out of range"), ("file", .string "main.c"), ("line", .integer 42),
      ("function", .string "main")],
    expected := "[IndexError]: list index out of range (at main.c:42 in main)" },
  { name := "error_render_without_location", function := "error_render",
    inputs := .object [("kind", .string "KeyError"), ("message", .string "'k'")],
    expected := "[KeyError]: 'k'" },
  { name := "errno_enoent", function := "errno",
    inputs := .object [("errno", .integer 2)],
    expected := "FileNotFoundError" },
  { name := "errno_eacces", function := "errno",
    inputs := .object [("errno", .integer 13)],
    expected := "PermissionError" },
  { name := "errno_unmapped", function := "errno",
    inputs := .object [("errno", .integer 11)],
    expected := "RuntimeError" }]

def copyCases : List Case := [
  { name := "copy_within_bounds", function := "checked_copy",
    inputs := .object [("dest_size", .integer 8), ("src", .string "abc")],
    expected := "abc" },
  { name := "copy_overrun", function := "checked_copy",
    inputs := .object [("dest_size", .integer 4), ("src", .string "abcdef")],
    expected := "error:ValueError" }]

def groups : List (List Case) :=
  [indexCases, sliceCases, progressionCases, containerCases, scopeCases,
    poolCases, sharedCases, registryCases, failureCases, copyCases]

end Builtin

namespace FixtureSet

def builtin : FixtureSet :=
  { version := "v1", family := "core", cases := Builtin.groups.flatten }

def builtinText : String :=
  let field (name value : String) : String :=
    "  " ++ Json.escape name ++ ": " ++ Json.escape value ++ ",\n"
  let group (cases : List Case) : String :=
    ",\n".intercalate (cases.map fun c => "    " ++ c.json.spaced)
  "\x7b\n" ++ field "version" builtin.version ++ field "family" builtin.family ++
    "  \"cases\": [\n" ++ ",\n\n".intercalate (Builtin.groups.map group) ++ "\n  ]\n\x7d\n"

end FixtureSet

end Underlay.Conformance
