import Underlay.Proofs.Conformance.Entries
import Underlay.Proofs.Json.Names

/-!
# Which lines are entries

A line is admitted exactly if it holds an object whose four required members are texts that are not
empty, the level one of the levels, and whose other parts are missing, null or of their forms. What
is read is what the members say, and a part that is missing or null is nothing. Members that are no
part of an entry may be anything.
-/

namespace Underlay.Conformance

/-- The values that stand for an outcome: its name, and an object with that name over nothing. -/
inductive Outcome.Stands : Json → Outcome → Prop where
  | name (outcome : Outcome) : Stands (.string outcome.name) outcome
  | variant (outcome : Outcome) : Stands (.object [(outcome.name, .null)]) outcome

namespace Entry

def Spells (json : Json) (text : String) : Prop :=
  json = .string text

/-- The value is a number that a word holds. -/
def Counts (json : Json) (n : Nat) : Prop :=
  json = .integer n ∧ n < Word.limit

/-- There is a text under this name, and it is not empty. -/
def Filled (json : Json) (name : String) : Prop :=
  ∃ text, json.Has name (.string text) ∧ text ≠ ""

/-- One of the levels is named. -/
def Leveled (json : Json) : Prop :=
  ∃ level : Lifecycle.Level, json.Has "level" (.string level.name)

section Optional

variable {α : Type}

/-- What is under this name, if there is anything but null, has a form. -/
def Fits (json : Json) (name : String) (form : Json → α → Prop) : Prop :=
  ∀ member, json.Has name member → member = .null ∨ ∃ a, form member a

/-- What the member under a name offers: nothing if it is missing or null, and otherwise that of
which it has the form. -/
inductive Offers (json : Json) (name : String) (form : Json → α → Prop) : Option α → Prop where
  | missing (absent : ∀ member, ¬ json.Has name member) : Offers json name form none
  | null (there : json.Has name .null) : Offers json name form none
  | value {member : Json} {a : α} (there : json.Has name member) (something : member ≠ .null)
      (formed : form member a) : Offers json name form (some a)

end Optional

/-- The members that every entry has are as they must be. -/
structure Grounded (json : Json) : Prop where
  filled : ∀ name ∈ ["timestamp", "trace_id", "level", "event"], Filled json name
  level : Leveled json

/-- The members that an entry may lack have their forms. -/
structure Fitting (json : Json) : Prop where
  texts : ∀ name ∈ ["component", "case_name", "function", "ptr"], Fits json name Spells
  outcome : Fits json "outcome" Outcome.Stands
  numbers : ∀ name ∈ ["decision_id", "size"], Fits json name Counts

/-- The members say what the entry holds. -/
structure Carries (json : Json) (e : Entry) : Prop where
  timestamp : json.Has "timestamp" (.string e.timestamp) ∧ e.timestamp ≠ ""
  trace : json.Has "trace_id" (.string e.trace) ∧ e.trace ≠ ""
  level : json.Has "level" (.string e.level.name)
  event : json.Has "event" (.string e.event) ∧ e.event ≠ ""
  component : Offers json "component" Spells e.component
  caseName : Offers json "case_name" Spells e.caseName
  function : Offers json "function" Spells e.function
  outcome : Offers json "outcome" Outcome.Stands e.outcome
  record : Offers json "decision_id" Counts e.record
  address : Offers json "ptr" Spells e.address
  size : Offers json "size" Counts e.size
  details : Offers json "details" Eq e.details

/-! The forms of members -/

theorem string?_eq_some_iff (json : Json) (text : String) :
    json.string? = some text ↔ Spells json text := by
  cases json <;> simp [Json.string?, Spells]

theorem size?_eq_some_iff (json : Json) (n : Nat) : json.size? = some n ↔ Counts json n := by
  cases json with
  | integer i =>
      simp only [Json.size?, Counts, Json.integer.injEq, Option.ite_none_right_eq_some,
        Option.some.injEq]
      omega
  | _ => simp [Json.size?, Counts]

/-- A search by names finds what has the name, if it finds everything under its own name. -/
theorem find?_name_eq_some_iff {α : Type} {all : List α} {name : α → String}
    (self : ∀ a, (all.find? fun b => name b == name a) = some a) (sought : String) (a : α) :
    (all.find? fun b => name b == sought) = some a ↔ sought = name a := by
  constructor
  · intro found
    have hit := List.find?_some found
    exact (eq_of_beq hit).symm
  · rintro rfl
    exact self a

theorem level_ofName?_eq_some_iff (name : String) (level : Lifecycle.Level) :
    Lifecycle.Level.ofName? name = some level ↔ name = level.name :=
  find?_name_eq_some_iff Lifecycle.Level.ofName?_name name level

theorem outcome_ofName?_eq_some_iff (name : String) (outcome : Outcome) :
    Outcome.ofName? name = some outcome ↔ name = outcome.name :=
  find?_name_eq_some_iff Outcome.ofName?_name name outcome

theorem outcome_ofJson?_eq_some_iff (json : Json) (outcome : Outcome) :
    Outcome.ofJson? json = some outcome ↔ Outcome.Stands json outcome := by
  constructor
  · intro read
    unfold Outcome.ofJson? at read
    split at read
    · rw [(outcome_ofName?_eq_some_iff _ _).mp read]
      exact .name outcome
    · rw [(outcome_ofName?_eq_some_iff _ _).mp read]
      exact .variant outcome
    · cases read
  · rintro (_ | _)
    · exact Outcome.ofName?_name outcome
    · exact Outcome.ofName?_name outcome

/-! What is read from an object in which no name occurs twice -/

section Reading

variable {json : Json} (distinct : json.Distinct)

include distinct

theorem present_eq_true_iff (name : String) : present json name = true ↔ Filled json name := by
  constructor
  · intro there
    unfold present at there
    split at there
    · rename_i text found
      exact ⟨text, (Json.get?_eq_some_iff distinct _ _).mp found, bne_iff_ne.mp there⟩
    · cases there
  · rintro ⟨text, there, filled⟩
    exact present_string ((Json.get?_eq_some_iff distinct _ _).mpr there) filled

section Optional

variable {α : Type} {name : String} {form : Json → α → Prop}

theorem member?_eq_some_iff {decode : Json → Option α}
    (decodes : ∀ member a, decode member = some a ↔ form member a) (o : Option α) :
    member? json name decode = some o ↔ Offers json name form o := by
  constructor
  · intro read
    unfold member? at read
    split at read
    · rename_i absent
      cases read
      exact .missing ((Json.get?_eq_none_iff distinct name).mp absent)
    · rename_i found
      cases read
      exact .null ((Json.get?_eq_some_iff distinct _ _).mp found)
    · rename_i member something found
      obtain ⟨a, decoded, rfl⟩ := Option.map_eq_some_iff.mp read
      exact .value ((Json.get?_eq_some_iff distinct _ _).mp found) something
        ((decodes _ _).mp decoded)
  · rintro (absent | there | ⟨there, something, formed⟩)
    · rw [member?, (Json.get?_eq_none_iff distinct name).mpr absent]
    · rw [member?, (Json.get?_eq_some_iff distinct _ _).mpr there]
    · rw [member?, (Json.get?_eq_some_iff distinct _ _).mpr there]
      split
      · contradiction
      · rename_i null
        exact absurd (Option.some.inj null) something
      · rename_i same
        rw [← Option.some.inj same, (decodes _ _).mpr formed]
        rfl

/-- A member that is missing, null or of its form offers something or nothing. -/
theorem exists_offers_iff : (∃ o, Offers json name form o) ↔ Fits json name form := by
  constructor
  · rintro ⟨_, absent | there | ⟨there, something, formed⟩⟩ member another
    · exact absurd another (absent member)
    · exact .inl (distinct.unique another there)
    · exact .inr ⟨_, distinct.unique another there ▸ formed⟩
  · intro fits
    by_cases absent : ∀ member, ¬ json.Has name member
    · exact ⟨none, .missing absent⟩
    · obtain ⟨member, there⟩ := not_forall_not.mp absent
      by_cases something : member = .null
      · exact ⟨none, .null (something ▸ there)⟩
      · obtain ⟨a, formed⟩ := (fits member there).resolve_left something
        exact ⟨some a, .value there something formed⟩

end Optional

theorem Filled.ne_empty {name text : String} (filled : Filled json name)
    (there : json.Has name (.string text)) : text ≠ "" := by
  obtain ⟨other, also, something⟩ := filled
  cases distinct.unique there also
  exact something

theorem bind_text_iff {β : Type} {name : String} {next : String → Option β} {b : β} :
    (json.get? name >>= fun member => member.string? >>= next) = some b ↔
      ∃ text, json.Has name (.string text) ∧ next text = some b := by
  constructor
  · intro read
    obtain ⟨member, found, read⟩ := Option.bind_eq_some_iff.mp read
    obtain ⟨text, spelled, read⟩ := Option.bind_eq_some_iff.mp read
    rw [(string?_eq_some_iff _ _).mp spelled] at found
    exact ⟨text, (Json.get?_eq_some_iff distinct _ _).mp found, read⟩
  · rintro ⟨text, there, read⟩
    rw [(Json.get?_eq_some_iff distinct _ _).mpr there]
    exact read

theorem ofJson?_eq_some_iff (filled : ∀ name ∈ required, Filled json name) (e : Entry) :
    ofJson? json = some e ↔ Carries json e := by
  have text {name : String} (o : Option String) :
      member? json name Json.string? = some o ↔ Offers json name Spells o :=
    member?_eq_some_iff distinct string?_eq_some_iff o
  have number {name : String} (o : Option Nat) :
      member? json name Json.size? = some o ↔ Offers json name Counts o :=
    member?_eq_some_iff distinct size?_eq_some_iff o
  have stands {name : String} (o : Option Outcome) :
      member? json name Outcome.ofJson? = some o ↔ Offers json name Outcome.Stands o :=
    member?_eq_some_iff distinct outcome_ofJson?_eq_some_iff o
  have anything {name : String} (o : Option Json) :
      member? json name some = some o ↔ Offers json name Eq o :=
    member?_eq_some_iff distinct (fun _ _ => Option.some_inj) o
  constructor
  · intro read
    obtain ⟨_, timestamp, read⟩ := (bind_text_iff distinct).mp read
    obtain ⟨_, trace, read⟩ := (bind_text_iff distinct).mp read
    obtain ⟨_, level, read⟩ := (bind_text_iff distinct).mp read
    obtain ⟨_, named, read⟩ := Option.bind_eq_some_iff.mp read
    obtain ⟨_, event, read⟩ := (bind_text_iff distinct).mp read
    obtain ⟨_, component, read⟩ := Option.bind_eq_some_iff.mp read
    obtain ⟨_, caseName, read⟩ := Option.bind_eq_some_iff.mp read
    obtain ⟨_, function, read⟩ := Option.bind_eq_some_iff.mp read
    obtain ⟨_, outcome, read⟩ := Option.bind_eq_some_iff.mp read
    obtain ⟨_, record, read⟩ := Option.bind_eq_some_iff.mp read
    obtain ⟨_, address, read⟩ := Option.bind_eq_some_iff.mp read
    obtain ⟨_, size, read⟩ := Option.bind_eq_some_iff.mp read
    obtain ⟨_, details, read⟩ := Option.bind_eq_some_iff.mp read
    cases read
    obtain rfl := (level_ofName?_eq_some_iff _ _).mp named
    -- Reading takes empty texts as well; that there are none was asked before.
    have filled {name text : String} (mandatory : name ∈ required)
        (there : json.Has name (.string text)) : text ≠ "" :=
      (filled name mandatory).ne_empty distinct there
    exact {
      timestamp := ⟨timestamp, filled (by decide) timestamp⟩
      trace := ⟨trace, filled (by decide) trace⟩
      level
      event := ⟨event, filled (by decide) event⟩
      component := (text _).mp component
      caseName := (text _).mp caseName
      function := (text _).mp function
      outcome := (stands _).mp outcome
      record := (number _).mp record
      address := (text _).mp address
      size := (number _).mp size
      details := (anything _).mp details }
  · intro carries
    have found {name : String} {member : Json} (there : json.Has name member) :
        json.get? name = some member := (Json.get?_eq_some_iff distinct name member).mpr there
    simp [ofJson?, found carries.timestamp.1, found carries.trace.1, found carries.level,
      found carries.event.1, (text _).mpr carries.component, (text _).mpr carries.caseName,
      (text _).mpr carries.function, (stands _).mpr carries.outcome, (number _).mpr carries.record,
      (text _).mpr carries.address, (number _).mpr carries.size, (anything _).mpr carries.details,
      Json.string?, Lifecycle.Level.ofName?_name]

theorem Carries.unique {e e' : Entry} (filled : ∀ name ∈ required, Filled json name)
    (carries : Carries json e) (carries' : Carries json e') : e = e' := by
  have read := (ofJson?_eq_some_iff distinct filled e).mpr carries
  have read' := (ofJson?_eq_some_iff distinct filled e').mpr carries'
  exact Option.some.inj (read.symm.trans read')

/-- Members as they must be and members that have their forms are what an entry can be read from. -/
theorem exists_carries_iff : (∃ e, Carries json e) ↔ Grounded json ∧ Fitting json := by
  constructor
  · rintro ⟨e, carries⟩
    have fits {α : Type} {name : String} {form : Json → α → Prop} {o : Option α}
        (offers : Offers json name form o) : Fits json name form :=
      (exists_offers_iff distinct).mp ⟨o, offers⟩
    refine ⟨⟨?_, e.level, carries.level⟩, ?_, fits carries.outcome, ?_⟩
    · simp only [List.forall_mem_cons]
      exact ⟨⟨_, carries.timestamp⟩, ⟨_, carries.trace⟩,
        ⟨_, carries.level, level_name_ne_empty e.level⟩, ⟨_, carries.event⟩, nofun⟩
    · simp only [List.forall_mem_cons]
      exact ⟨fits carries.component, fits carries.caseName, fits carries.function,
        fits carries.address, nofun⟩
    · simp only [List.forall_mem_cons]
      exact ⟨fits carries.record, fits carries.size, nofun⟩
  · rintro ⟨grounded, fitting⟩
    have offered {α : Type} {name : String} {form : Json → α → Prop} (fits : Fits json name form) :
        ∃ o, Offers json name form o := (exists_offers_iff distinct).mpr fits
    obtain ⟨_, timestamp⟩ := grounded.filled "timestamp" (by decide)
    obtain ⟨_, trace⟩ := grounded.filled "trace_id" (by decide)
    obtain ⟨_, level⟩ := grounded.level
    obtain ⟨_, event⟩ := grounded.filled "event" (by decide)
    obtain ⟨_, component⟩ := offered (fitting.texts "component" (by decide))
    obtain ⟨_, caseName⟩ := offered (fitting.texts "case_name" (by decide))
    obtain ⟨_, function⟩ := offered (fitting.texts "function" (by decide))
    obtain ⟨_, outcome⟩ := offered fitting.outcome
    obtain ⟨_, record⟩ := offered (fitting.numbers "decision_id" (by decide))
    obtain ⟨_, address⟩ := offered (fitting.texts "ptr" (by decide))
    obtain ⟨_, size⟩ := offered (fitting.numbers "size" (by decide))
    have anything : Fits json "details" Eq := fun member _ => .inr ⟨member, rfl⟩
    obtain ⟨_, details⟩ := offered anything
    exact ⟨⟨_, _, _, _, _, _, _, _, _, _, _, _⟩, ⟨timestamp, trace, level, event, component,
      caseName, function, outcome, record, address, size, details⟩⟩

end Reading

/-- What the check of a line comes to. -/
inductive Judged (line : String) : Except Objection Entry → Prop where
  | malformed (unreadable : ∀ json, Json.parse .any line ≠ .ok json) :
      Judged line (.error .malformed)
  | missing {json : Json} {field : String} (read : Json.parse .any line = .ok json)
      (mandatory : field ∈ required) (lacking : ¬ Filled json field) :
      Judged line (.error (.missing field))
  | mistyped {json : Json} (read : Json.parse .any line = .ok json)
      (filled : ∀ name ∈ required, Filled json name) (unfit : ∀ e, ¬ Carries json e) :
      Judged line (.error .mistyped)
  | admitted {json : Json} {e : Entry} (read : Json.parse .any line = .ok json)
      (carries : Carries json e) : Judged line (.ok e)

theorem judged_validate (line : String) : Judged line (validate line) := by
  unfold validate
  split
  · rename_i unreadable
    refine .malformed fun json read => ?_
    rw [read] at unreadable
    cases unreadable
  · rename_i json read
    have distinct := Json.distinct_of_parse read
    split
    · rename_i field found
      refine .missing read (List.mem_of_find?_eq_some found) fun filled => ?_
      have lacking := List.find?_some found
      rw [(present_eq_true_iff distinct field).mpr filled] at lacking
      cases lacking
    · rename_i complete
      have filled : ∀ name ∈ required, Filled json name := by
        intro name mandatory
        apply (present_eq_true_iff distinct name).mp
        simpa using List.find?_eq_none.mp complete name mandatory
      split
      · rename_i e entry
        exact .admitted read ((ofJson?_eq_some_iff distinct filled e).mp entry)
      · rename_i none
        refine .mistyped read filled fun e carries => ?_
        rw [(ofJson?_eq_some_iff distinct filled e).mpr carries] at none
        cases none

/-- A line from which an entry can be read is admitted as that entry. -/
theorem validate_of_carries {line : String} {json : Json} {e : Entry}
    (read : Json.parse .any line = .ok json) (carries : Carries json e) :
    validate line = .ok e := by
  have distinct := Json.distinct_of_parse read
  have grounded := ((exists_carries_iff distinct).mp ⟨e, carries⟩).1
  -- Whatever the judgement is, it is on the value that the line holds, and there is only one.
  have judged := judged_validate line
  generalize validate line = result at judged
  cases judged with
  | malformed unreadable => exact absurd read (unreadable json)
  | missing read' mandatory lacking =>
      cases read.symm.trans read'
      exact absurd (grounded.filled _ mandatory) lacking
  | mistyped read' filled unfit =>
      cases read.symm.trans read'
      exact absurd carries (unfit e)
  | admitted read' carries' =>
      cases read.symm.trans read'
      rw [Carries.unique distinct grounded.filled carries carries']

/-- A line is admitted exactly if it holds an object whose required members are texts that are not
empty, one of them a level, and whose other parts are missing, null or of their forms. It is
admitted as the entry that its members say. -/
theorem admitted_iff (line : String) :
    ((∃ e, validate line = .ok e) ↔
      ∃ json, Json.parse .any line = .ok json ∧ Grounded json ∧ Fitting json) ∧
    ∀ e, validate line = .ok e ↔ ∃ json, Json.parse .any line = .ok json ∧ Carries json e := by
  have read_as (e : Entry) :
      validate line = .ok e ↔ ∃ json, Json.parse .any line = .ok json ∧ Carries json e := by
    constructor
    · intro accepted
      have judged := judged_validate line
      rw [accepted] at judged
      cases judged with
      | admitted read carries => exact ⟨_, read, carries⟩
    · rintro ⟨json, read, carries⟩
      exact validate_of_carries read carries
  refine ⟨?_, read_as⟩
  constructor
  · rintro ⟨e, accepted⟩
    obtain ⟨json, read, carries⟩ := (read_as e).mp accepted
    exact ⟨json, read, (exists_carries_iff (Json.distinct_of_parse read)).mp ⟨e, carries⟩⟩
  · rintro ⟨json, read, sound⟩
    obtain ⟨e, carries⟩ := (exists_carries_iff (Json.distinct_of_parse read)).mpr sound
    exact ⟨e, validate_of_carries read carries⟩

end Entry

end Underlay.Conformance
