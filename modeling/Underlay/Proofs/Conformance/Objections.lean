import Underlay.Proofs.Conformance.Admission

/-!
# What is held against a line

A line that is not admitted is objected to under one field. Where the objection is to the line, to
the timestamp, to the correlation text or to the event, that is what is wrong. The level also stands
for whatever else is wrong with an object: of one whose required members are as they must be and
whose other parts do not have their forms, the level is held against it.
-/

namespace Underlay.Conformance.Entry

theorem Leveled.filled {json : Json} (leveled : Leveled json) : Filled json "level" := by
  obtain ⟨level, there⟩ := leveled
  exact ⟨level.name, there, level_name_ne_empty level⟩

/-- A line that is objected to as a whole holds no value, and one that is objected to for its
timestamp, its correlation text or its event has no such member, or one that is empty or no text.
What is objected to for its level has no such member or one that names none, unless all required
members are as they must be and another part does not have its form. -/
theorem blamed_of_rejected {line : String} {o : Objection} (rejected : validate line = .error o) :
    o.field ∈ "<line>" :: required ∧
      (o.field = "<line>" → ∀ json, Json.parse .any line ≠ .ok json) ∧
      (∀ name ∈ ["timestamp", "trace_id", "event"], o.field = name →
        ∃ json, Json.parse .any line = .ok json ∧ ¬ Filled json name) ∧
      ((o.field = "level" → ∃ json, Json.parse .any line = .ok json ∧ ¬ Leveled json) ↔
        ¬ ∃ json, Json.parse .any line = .ok json ∧ Grounded json ∧ ¬ Fitting json) := by
  have judged := judged_validate line
  rw [rejected] at judged
  cases judged with
  | malformed unreadable =>
      refine ⟨List.mem_cons_self, fun _ => unreadable, ?_, ?_⟩
      · rintro _ there rfl
        exact absurd there (by decide)
      · constructor
        · rintro - ⟨json, read, -⟩
          exact unreadable json read
        · intro _ level
          exact absurd level (by decide)
  | @missing json field read mandatory lacking =>
      refine ⟨List.mem_cons_of_mem _ mandatory, ?_, ?_, ?_⟩
      · rintro rfl
        exact absurd mandatory (by decide)
      · rintro _ - rfl
        exact ⟨json, read, lacking⟩
      · constructor
        · rintro - ⟨json', read', grounded, -⟩
          cases read.symm.trans read'
          exact lacking (grounded.filled field mandatory)
        · rintro - rfl
          exact ⟨json, read, fun leveled => lacking leveled.filled⟩
  | @mistyped json read filled unfit =>
      refine ⟨by decide, fun line => absurd line (by decide), ?_, ?_⟩
      · rintro _ there rfl
        exact absurd there (by decide)
      · constructor
        · rintro blamed ⟨json', read', grounded, -⟩
          obtain ⟨json'', read'', unleveled⟩ := blamed rfl
          cases read'.symm.trans read''
          exact unleveled grounded.level
        · intro ordinary _
          -- All that is required is there; were the level known, the fault would lie elsewhere.
          refine ⟨json, read, fun leveled => ordinary ⟨json, read, ⟨filled, leveled⟩, ?_⟩⟩
          intro fitting
          have distinct := Json.distinct_of_parse read
          obtain ⟨e, carries⟩ := (exists_carries_iff distinct).mpr ⟨⟨filled, leveled⟩, fitting⟩
          exact unfit e carries

/-- A line with the four required members, some level and a negative size. -/
def leveled (level : String) : Json :=
  .object [("timestamp", .string "t"), ("trace_id", .string "x"), ("level", .string level),
    ("event", .string "e"), ("size", .integer (-1))]

theorem parse_leveled (level : String) {line : String}
    (writes : (leveled level).compact = line) :
    Json.parse .any line = .ok (leveled level).settled := by
  have all : ∀ m ∈ [("timestamp", Json.string "t"), ("trace_id", .string "x"),
      ("level", .string level), ("event", .string "e"), ("size", .integer (-1))],
      Json.Legible 126 m.2 := by
    simp only [List.forall_mem_cons]
    exact ⟨.string _, .string _, .string _, .string _, .integer (by decide) (by decide),
      List.forall_mem_nil _⟩
  exact writes ▸ Json.parse_compact (.object all)

/-- An unknown level is named although there is a negative size as well. -/
theorem blamed_of_rejected_unknown_level :
    let line :=
      "\x7b\"timestamp\":\"t\",\"trace_id\":\"x\",\"level\":\"odd\",\"event\":\"e\",\"size\":-1\x7d"
    validate line = .error .mistyped ∧
      ∃ json, Json.parse .any line = .ok json ∧ ¬ Leveled json := by
  intro line
  have read : Json.parse .any line = .ok (.object [("event", .string "e"),
      ("level", .string "odd"), ("size", .integer (-1)), ("timestamp", .string "t"),
      ("trace_id", .string "x")]) :=
    parse_leveled "odd" (by decide +kernel)
  have rejected : validate line = .error .mistyped := by
    rw [validate, read]
    rfl
  refine ⟨rejected, (blamed_of_rejected rejected).2.2.2.mpr ?_ rfl⟩
  rintro ⟨json, read', ⟨-, level, there⟩, -⟩
  cases read.symm.trans read'
  obtain ⟨_, ⟨⟩, there⟩ := there
  have named : level.name = "odd" := by simpa using there
  cases level <;> exact absurd named (by decide)

/-- An object whose only fault is a negative size is objected to for its level. -/
theorem not_blamed_of_rejected :
    ¬ ∀ (line : String) (o : Objection), validate line = .error o →
      (o.field = "<line>" → ∀ json, Json.parse .any line ≠ .ok json) ∧
        (∀ name ∈ ["timestamp", "trace_id", "event"], o.field = name →
          ∃ json, Json.parse .any line = .ok json ∧ ¬ Filled json name) ∧
        (o.field = "level" → ∃ json, Json.parse .any line = .ok json ∧ ¬ Leveled json) := by
  intro claimed
  let line :=
    "\x7b\"timestamp\":\"t\",\"trace_id\":\"x\",\"level\":\"info\",\"event\":\"e\",\"size\":-1\x7d"
  have read : Json.parse .any line = .ok (.object [("event", .string "e"),
      ("level", .string "info"), ("size", .integer (-1)), ("timestamp", .string "t"),
      ("trace_id", .string "x")]) :=
    parse_leveled "info" (by decide +kernel)
  have rejected : validate line = .error .mistyped := by
    rw [validate, read]
    rfl
  obtain ⟨json, read', unleveled⟩ := (claimed line _ rejected).2.2 rfl
  cases read.symm.trans read'
  exact unleveled ⟨.info, _, rfl, by simp [Lifecycle.Level.name]⟩

end Underlay.Conformance.Entry
