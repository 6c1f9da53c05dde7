import Underlay.Conformance.Emitter
import Underlay.Proofs.Json.RoundTrip

/-!
# Entries are read back from their lines

The line of an entry is one line, and reading it gives the entry back in every part: the parts that
it has are found under their names, and those that it lacks are not there.
-/

namespace Underlay.Conformance

namespace Entry

/-- Entries as they are put together, of any texts and of any numbers that words hold. -/
inductive Built : Entry → Prop where
  | bare (now : Instant) (trace : String) (level : Lifecycle.Level) (event : String) :
      Built (.bare now trace level event)
  | verdict (now : Instant) (trace : String) (v : Verdict) : Built (.ofVerdict now trace v)
  | record (now : Instant) (r : Lifecycle.Record) (id : r.id < Word.limit)
      (size : ∀ n ∈ r.event.size, n < Word.limit) : Built (.ofRecord now r)
  | traced {e : Entry} (built : Built e) (trace : String) : Built { e with trace }
  | component {e : Entry} (built : Built e) (component : String) :
      Built { e with component := some component }
  | case {e : Entry} (built : Built e) (caseName function : String) :
      Built { e with caseName := some caseName, function := some function }
  | outcome {e : Entry} (built : Built e) (outcome : Outcome) :
      Built { e with outcome := some outcome }

/-- What makes the line of an entry readable without loss: it has a time, words hold its numbers,
and its details are not null, not nested too deep, and have their members in the order in which
reading puts them. -/
structure Sound (e : Entry) : Prop where
  timestamp : e.timestamp ≠ ""
  record : ∀ n ∈ e.record, n < Word.limit
  size : ∀ n ∈ e.size, n < Word.limit
  something : ∀ json ∈ e.details, json ≠ .null
  legible : ∀ json ∈ e.details, Json.Legible 126 json
  settled : ∀ json ∈ e.details, json.settled = json

theorem render_ne_empty (now : Instant) : now.render ≠ "" := by
  simp [Instant.render]

theorem settled_details (v : Verdict) :
    Json.settled (.object [("actual", .string v.actual), ("expected", .string v.expected)]) =
      .object [("actual", .string v.actual), ("expected", .string v.expected)] := by
  have order : compare "expected" "actual" = .gt := by decide +kernel
  simp [Json.settled, Json.settledMembers, Dict.insert, Dict.insertInto, order]

theorem legible_details (depth : Nat) (v : Verdict) :
    Json.Legible (depth + 1)
      (.object [("actual", .string v.actual), ("expected", .string v.expected)]) := by
  refine .object fun m there => ?_
  rcases List.mem_pair.mp there with rfl | rfl <;> exact .string _

theorem sound_bare (now : Instant) (trace : String) (level : Lifecycle.Level) (event : String) :
    Sound (.bare now trace level event) where
  timestamp := render_ne_empty now
  record := by rintro _ ⟨⟩
  size := by rintro _ ⟨⟩
  something := by rintro _ ⟨⟩
  legible := by rintro _ ⟨⟩
  settled := by rintro _ ⟨⟩

theorem sound_ofVerdict (now : Instant) (trace : String) (v : Verdict) :
    Sound (.ofVerdict now trace v) where
  timestamp := render_ne_empty now
  record := by rintro _ ⟨⟩
  size := by rintro _ ⟨⟩
  something := by rintro _ ⟨⟩ ⟨⟩
  legible := by
    rintro _ ⟨⟩
    exact legible_details 125 v
  settled := by
    rintro _ ⟨⟩
    exact settled_details v

theorem mem_details_ofRecord {now : Instant} {r : Lifecycle.Record} {json : Json}
    (there : json ∈ (ofRecord now r).details) : json = .string r.event.details := by
  dsimp only [ofRecord] at there
  split at there
  · cases there
  · exact (Option.some.inj there).symm

theorem sound_ofRecord (now : Instant) {r : Lifecycle.Record} (id : r.id < Word.limit)
    (size : ∀ n ∈ r.event.size, n < Word.limit) : Sound (.ofRecord now r) where
  timestamp := render_ne_empty now
  record := by
    rintro _ ⟨⟩
    exact id
  size := size
  something := by
    intro json there null
    cases (mem_details_ofRecord there).symm.trans null
  legible := by
    intro json there
    exact mem_details_ofRecord there ▸ .string _
  settled := by
    intro json there
    obtain rfl := mem_details_ofRecord there
    rfl

theorem Built.sound {e : Entry} (built : Built e) : e.Sound := by
  induction built with
  | bare now trace level event => exact sound_bare now trace level event
  | verdict now trace v => exact sound_ofVerdict now trace v
  | record now r id size => exact sound_ofRecord now id size
  | traced built trace sound => exact { sound with }
  | component built component sound => exact { sound with }
  | case built caseName function sound => exact { sound with }
  | outcome built outcome sound => exact { sound with }

/-! The members of an entry -/

/-- The names that members may have. -/
def names : List String :=
  required ++ ["component"] ++ ["case_name"] ++ ["function"] ++ ["outcome"] ++ ["decision_id"] ++
    ["ptr"] ++ ["size"] ++ ["details"]

theorem names_part_sublist {α : Type} (name : String) (encode : α → Json) (o : Option α) :
    List.Sublist ((part name encode o).map Prod.fst) [name] := by
  cases o with
  | none => exact List.nil_sublist _
  | some a => exact List.Sublist.refl _

theorem names_sublist (e : Entry) : List.Sublist (e.members.map Prod.fst) names := by
  simp only [members, List.map_append, names]
  repeat' apply List.Sublist.append
  · exact List.Sublist.refl _
  all_goals apply names_part_sublist

theorem nodup_names (e : Entry) : (e.members.map Prod.fst).Nodup :=
  (names_sublist e).nodup (by decide +kernel)

theorem find?_part {α : Type} (name sought : String) (encode : α → Json) (o : Option α) :
    (part name encode o).find? (fun member => member.1 == sought) =
      if name = sought then o.map fun a => (name, encode a) else none := by
  cases o with
  | none => simp [part]
  | some a =>
      simp only [part, List.find?_singleton, Option.map_some, beq_iff_eq]

section Found

variable (e : Entry)

theorem get?_timestamp : e.json.get? "timestamp" = some (.string e.timestamp) := by
  simp [json, members, Json.get?]

theorem get?_trace : e.json.get? "trace_id" = some (.string e.trace) := by
  simp [json, members, Json.get?]

theorem get?_level : e.json.get? "level" = some (.string e.level.name) := by
  simp [json, members, Json.get?]

theorem get?_event : e.json.get? "event" = some (.string e.event) := by
  simp [json, members, Json.get?]

theorem get?_component : e.json.get? "component" = e.component.map .string := by
  simp [json, members, Json.get?, List.find?_append, find?_part, Function.comp_def]

theorem get?_caseName : e.json.get? "case_name" = e.caseName.map .string := by
  simp [json, members, Json.get?, List.find?_append, find?_part, Function.comp_def]

theorem get?_function : e.json.get? "function" = e.function.map .string := by
  simp [json, members, Json.get?, List.find?_append, find?_part, Function.comp_def]

theorem get?_outcome :
    e.json.get? "outcome" = e.outcome.map fun outcome => .string outcome.name := by
  simp [json, members, Json.get?, List.find?_append, find?_part, Function.comp_def]

theorem get?_record : e.json.get? "decision_id" = e.record.map .nat := by
  simp [json, members, Json.get?, List.find?_append, find?_part, Function.comp_def]

theorem get?_address : e.json.get? "ptr" = e.address.map .string := by
  simp [json, members, Json.get?, List.find?_append, find?_part, Function.comp_def]

theorem get?_size : e.json.get? "size" = e.size.map .nat := by
  simp [json, members, Json.get?, List.find?_append, find?_part, Function.comp_def]

theorem get?_details : e.json.get? "details" = e.details.map id := by
  simp [json, members, Json.get?, List.find?_append, find?_part, Function.comp_def]

theorem get?_settled (name : String) :
    e.json.settled.get? name = (e.json.get? name).map Json.settled :=
  Json.get?_settled_object e.nodup_names name

variable {e}

theorem member?_settled {α : Type} {name : String} {encode : α → Json} {decode : Json → Option α}
    {o : Option α} (found : e.json.get? name = o.map encode)
    (back : ∀ a ∈ o, (encode a).settled ≠ .null ∧ decode (encode a).settled = some a) :
    member? e.json.settled name decode = some o := by
  rw [member?, get?_settled, found]
  cases o with
  | none => rfl
  | some a =>
      obtain ⟨something, decoded⟩ := back a rfl
      simp only [Option.map_some]
      rw [decoded]
      rfl

theorem size?_nat {n : Nat} (fits : n < Word.limit) : (Json.nat n).size? = some n := by
  simp only [Json.nat, Json.size?]
  rw [if_pos (by omega), Int.toNat_natCast]

/-- What is read from the line of a sound entry is the entry. -/
theorem ofJson?_settled (sound : e.Sound) : ofJson? e.json.settled = some e := by
  have component : member? e.json.settled "component" Json.string? = some e.component :=
    member?_settled e.get?_component fun text _ => ⟨by simp [Json.settled], rfl⟩
  have caseName : member? e.json.settled "case_name" Json.string? = some e.caseName :=
    member?_settled e.get?_caseName fun text _ => ⟨by simp [Json.settled], rfl⟩
  have function : member? e.json.settled "function" Json.string? = some e.function :=
    member?_settled e.get?_function fun text _ => ⟨by simp [Json.settled], rfl⟩
  have outcome : member? e.json.settled "outcome" Outcome.ofJson? = some e.outcome :=
    member?_settled e.get?_outcome fun outcome _ =>
      ⟨by simp [Json.settled], Outcome.ofName?_name outcome⟩
  have record : member? e.json.settled "decision_id" Json.size? = some e.record :=
    member?_settled e.get?_record fun n there =>
      ⟨by simp [Json.settled, Json.nat], size?_nat (sound.record n there)⟩
  have address : member? e.json.settled "ptr" Json.string? = some e.address :=
    member?_settled e.get?_address fun text _ => ⟨by simp [Json.settled], rfl⟩
  have size : member? e.json.settled "size" Json.size? = some e.size :=
    member?_settled e.get?_size fun n there =>
      ⟨by simp [Json.settled, Json.nat], size?_nat (sound.size n there)⟩
  have details : member? e.json.settled "details" some = some e.details :=
    member?_settled e.get?_details fun json there => by
      rw [id, sound.settled json there]
      exact ⟨sound.something json there, rfl⟩
  simp [ofJson?, component, caseName, function, outcome, record, address, size, details,
    get?_settled, get?_timestamp, get?_trace, get?_level, get?_event, Json.settled, Json.string?,
    Lifecycle.Level.ofName?_name]

theorem legible_part {α : Type} {name : String} {encode : α → Json} {o : Option α}
    (all : ∀ a ∈ o, Json.Legible 126 (encode a)) :
    ∀ m ∈ part name encode o, Json.Legible 126 m.2 := by
  cases o with
  | none => simp [part]
  | some a => simpa [part] using all a rfl

theorem legible_json (sound : e.Sound) : Json.Legible Json.depthLimit e.json := by
  have number {n : Nat} (fits : n < Word.limit) : Json.Legible 126 (.nat n) :=
    .integer (by unfold Word.least; omega) (by omega)
  refine .object ?_
  simp only [members, List.forall_mem_append]
  refine ⟨⟨⟨⟨⟨⟨⟨⟨?_, ?_⟩, ?_⟩, ?_⟩, ?_⟩, ?_⟩, ?_⟩, ?_⟩, ?_⟩
  case refine_1 => simp [Json.Legible.string]
  case refine_6 => exact legible_part fun n there => number (sound.record n there)
  case refine_8 => exact legible_part fun n there => number (sound.size n there)
  case refine_9 => exact legible_part sound.legible
  all_goals exact legible_part fun _ _ => .string _

theorem present_string {json : Json} {field text : String}
    (found : json.get? field = some (.string text)) (filled : text ≠ "") :
    present json field = true := by
  simp [present, found, filled]

theorem level_name_ne_empty (level : Lifecycle.Level) : level.name ≠ "" := by
  cases level <;> decide +kernel

/-- The line of a sound entry that says what happened, and under which text, is admitted and read
as the entry. -/
theorem validate_line (sound : e.Sound) (trace : e.trace ≠ "") (event : e.event ≠ "") :
    validate e.line = .ok e := by
  have complete : (required.find? fun field => !present e.json.settled field) = none := by
    have found {field text : String} (there : e.json.get? field = some (.string text))
        (filled : text ≠ "") : present e.json.settled field = true :=
      present_string (by rw [get?_settled, there]; rfl) filled
    simp [required, found e.get?_timestamp sound.timestamp, found e.get?_trace trace,
      found e.get?_level (level_name_ne_empty e.level), found e.get?_event event]
  rw [validate, line, Json.parse_compact (legible_json sound)]
  simp only [complete, ofJson?_settled sound]

theorem printable_line (sound : e.Sound) : Json.Printable e.line.toList :=
  (legible_json sound).printable

end Found

end Entry

end Underlay.Conformance
