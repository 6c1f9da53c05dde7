import Underlay.Proofs.Json.Texts

/-!
# Values are read back from their compact texts

Reading gives back what was written, but for the order of members: an object comes back with its
members in the order of their names, and of two with one name the later. Where the names of the
members are distinct, each is found again under its name.
-/

namespace Underlay.Json

mutual

/-- What reading makes of a written value. -/
def settled : Json → Json
  | array elements => .array (settledElements elements)
  | object members => .object (settledMembers {} members).entries
  | json => json

def settledElements : List Json → List Json
  | [] => []
  | first :: rest => first.settled :: settledElements rest

/-- What reading members makes of those that were already read. -/
def settledMembers (read : Dict String Json) : List (String × Json) → Dict String Json
  | [] => read
  | (name, value) :: rest => settledMembers (read.insert name value.settled) rest

end

namespace Reader

theorem skipBlank_of_begins {text : List Char} (begins : Begins text) : skipBlank text = text := by
  obtain ⟨c, behind, rfl, plain⟩ := begins
  simp only [List.mem_cons, not_or] at plain
  simp [skipBlank, plain]

section Brackets

variable {bracket : Char} (closing : bracket = ']' ∨ bracket = '\x7d') {text : List Char}
  (begins : Begins text)

include closing begins

theorem front_of_begins : ∃ c behind, text = c :: behind ∧ (c == bracket) = false := by
  obtain ⟨c, behind, rfl, plain⟩ := begins
  refine ⟨c, behind, rfl, beq_false_of_ne ?_⟩
  rintro rfl
  rcases closing with rfl | rfl <;> exact plain (by decide)

theorem opened_of_begins : opened bracket text = .ok (some text) := by
  rw [opened, skipBlank_of_begins begins]
  obtain ⟨c, behind, rfl, different⟩ := front_of_begins closing begins
  simp [different]

theorem comma_of_begins : comma bracket (',' :: text) = .ok (some text) := by
  have front : skipBlank (',' :: text) = ',' :: text := rfl
  simp only [comma, front, skipBlank_of_begins begins]
  obtain ⟨c, behind, rfl, different⟩ := front_of_begins closing begins
  simp [different]

end Brackets

/-- The value is read from its text and nothing behind it is touched. -/
def ReadsBack (depth : Nat) (json : Json) : Prop :=
  ∀ fuel rest, json.written.length ≤ fuel → Stops rest →
    value fuel depth (json.written ++ rest) = .ok (json.settled, rest)

theorem readsBack_of_succ {depth : Nat} {json : Json} (legible : Legible depth json)
    (back : ∀ fuel rest, json.written.length ≤ fuel + 1 → Stops rest →
      value (fuel + 1) depth (json.written ++ rest) = .ok (json.settled, rest)) :
    ReadsBack depth json := by
  intro fuel rest enough stops
  cases fuel with
  | zero => exact absurd legible.begins.length_pos (Nat.not_lt.mpr enough)
  | succ fuel => exact back fuel rest enough stops

theorem value_toDigits (fuel depth n : Nat) (rest : List Char) :
    value (fuel + 1) depth (Nat.toDigits 10 n ++ rest) =
      numeral false (Nat.toDigits 10 n ++ rest) := by
  have blank := skipBlank_of_begins ((begins_toDigits n).append rest)
  cases listed : Nat.toDigits 10 n with
  | nil => exact absurd listed Nat.toDigits_ne_nil
  | cons first others =>
      have digit : Text.isDigit first = true :=
        isDigit_of_mem_toDigits (listed ▸ List.mem_cons_self)
      rw [listed, List.cons_append] at blank
      rw [List.cons_append, value, blank]
      split <;> rename_i front
      case h_1 => cases front
      all_goals obtain ⟨rfl, rfl⟩ := List.cons.inj front
      case h_9 => rw [if_pos digit]
      all_goals cases digit

/-- The sign and the digits of an integer that a word holds. -/
theorem readsBack_integer (depth : Nat) {i : Int} (low : Word.least ≤ i) (high : i < Word.limit) :
    ReadsBack depth (.integer i) := by
  refine readsBack_of_succ (.integer low high) fun fuel rest _ stops => ?_
  have fits : i.natAbs < Word.limit := by
    unfold Word.least at low
    unfold Word.limit at high ⊢
    omega
  rw [written_integer]
  split
  · rename_i negative
    have same : -(i.natAbs : Int) = i := by omega
    change numeral true (Nat.toDigits 10 i.natAbs ++ rest) = _
    rw [numeral_toDigits fits stops, if_neg (by decide), same, if_pos ⟨by omega, low⟩]
    rfl
  · rename_i positive
    have same : (i.natAbs : Int) = i := by omega
    rw [value_toDigits, numeral_toDigits fits stops, if_pos (by decide), same]
    rfl

theorem readsBack_string (depth : Nat) (text : String) : ReadsBack depth (.string text) := by
  refine readsBack_of_succ (.string text) fun fuel rest _ _ => ?_
  rw [written_string]
  change (stringFrom [] (text.toList.flatMap escapeChar ++ ['"'] ++ rest)).map _ = _
  rw [List.append_assoc, List.singleton_append, stringFrom_flatMap, List.reverse_nil,
    List.nil_append, String.ofList_toList]
  rfl

theorem begins_writtenElements {depth : Nat} {items : List Json}
    (legible : ∀ e ∈ items, Legible depth e) (filled : items ≠ []) :
    Begins (writtenElements items) := by
  cases items with
  | nil => exact absurd rfl filled
  | cons first more =>
      have begins := (legible first List.mem_cons_self).begins
      cases more with
      | nil => exact begins
      | cons second more =>
          rw [writtenElements_cons]
          exact begins.append _

theorem begins_writtenMembers {items : List (String × Json)} (filled : items ≠ []) :
    Begins (writtenMembers items) := by
  cases items with
  | nil => exact absurd rfl filled
  | cons first more =>
      cases more with
      | nil => exact ⟨'"', _, writtenMembers_singleton _ _, by decide⟩
      | cons second more => exact ⟨'"', _, writtenMembers_cons _ _ _ _, by decide⟩

/-- Elements are read up to the bracket that closes them. -/
theorem elements_writtenElements {depth : Nat} {items : List Json}
    (legible : ∀ e ∈ items, Legible depth e) (back : ∀ e ∈ items, ReadsBack depth e)
    (filled : items ≠ []) (fuel : Nat) (rest : List Char)
    (enough : (writtenElements items).length < fuel) :
    elements fuel depth (writtenElements items ++ ']' :: rest) =
      .ok (settledElements items, rest) := by
  induction items generalizing fuel with
  | nil => exact absurd rfl filled
  | cons first more inductionHypothesis =>
      obtain ⟨fuel, rfl⟩ : ∃ less, fuel = less + 1 := Nat.exists_eq_add_one.mpr (by omega)
      have firstBack := back first List.mem_cons_self
      cases more with
      | nil =>
          rw [writtenElements_singleton] at enough ⊢
          rw [elements,
            firstBack fuel (']' :: rest) (Nat.le_of_lt_succ enough) (stops_cons (by decide))]
          rfl
      | cons second more =>
          have others := inductionHypothesis (fun e later => legible e (.tail _ later))
            (fun e later => back e (.tail _ later)) (List.cons_ne_nil second more)
          have begins := begins_writtenElements (fun e later => legible e (.tail first later))
            (List.cons_ne_nil second more)
          rw [writtenElements_cons, List.length_append, List.length_cons] at enough
          rw [writtenElements_cons, List.append_assoc, List.cons_append, elements,
            firstBack fuel _ (by omega) (stops_cons (by decide))]
          simp only [bind, Except.bind]
          rw [comma_of_begins (.inl rfl) (begins.append _)]
          simp only [others fuel (by omega)]
          rfl

/-- A member is read up to what stands behind its value. -/
theorem members_member {fuel depth : Nat} {json : Json} {text : List Char} (name : String)
    (back : value fuel depth (json.written ++ text) = .ok (json.settled, text))
    (read : Dict String Json) :
    members (fuel + 1) depth read
        ('"' :: (name.toList.flatMap escapeChar ++ '"' :: ':' :: (json.written ++ text))) = (do
      match ← comma '\x7d' text with
      | none => return (read.insert name json.settled, close text)
      | some text => members fuel depth (read.insert name json.settled) text) := by
  rw [members, key, stringFrom_flatMap, List.reverse_nil, List.nil_append, String.ofList_toList]
  -- The colon is taken off by computation.
  change (value fuel depth (json.written ++ text) >>= _) = _
  rw [back]
  rfl

/-- Members are read up to the bracket that closes them, on top of those before them. -/
theorem members_writtenMembers {depth : Nat} {items : List (String × Json)}
    (back : ∀ m ∈ items, ReadsBack depth m.2) (filled : items ≠ [])
    (fuel : Nat) (read : Dict String Json) (rest : List Char)
    (enough : (writtenMembers items).length < fuel) :
    members fuel depth read (writtenMembers items ++ '\x7d' :: rest) =
      .ok (settledMembers read items, rest) := by
  induction items generalizing fuel read with
  | nil => exact absurd rfl filled
  | cons first more inductionHypothesis =>
      obtain ⟨fuel, rfl⟩ : ∃ less, fuel = less + 1 := Nat.exists_eq_add_one.mpr (by omega)
      obtain ⟨name, json⟩ := first
      have firstBack : ReadsBack depth json := back (name, json) List.mem_cons_self
      cases more with
      | nil =>
          rw [writtenMembers_singleton] at enough ⊢
          simp only [List.length_cons, List.length_append] at enough
          have member := firstBack fuel ('\x7d' :: rest) (by omega) (stops_cons (by decide))
          simp only [List.cons_append, List.append_assoc]
          rw [members_member name member]
          rfl
      | cons second more =>
          have others := inductionHypothesis (fun m later => back m (.tail _ later))
            (List.cons_ne_nil second more) fuel (read.insert name json.settled)
          have begins := begins_writtenMembers (List.cons_ne_nil second more)
          rw [writtenMembers_cons] at enough ⊢
          simp only [List.length_cons, List.length_append] at enough
          have member := firstBack fuel
            (',' :: (writtenMembers (second :: more) ++ '\x7d' :: rest))
            (by omega) (stops_cons (by decide))
          simp only [List.cons_append, List.append_assoc]
          rw [members_member name member, comma_of_begins (.inr rfl) (begins.append _)]
          exact others (by omega)

theorem readsBack_array {depth : Nat} {items : List Json}
    (legible : ∀ e ∈ items, Legible depth e) (back : ∀ e ∈ items, ReadsBack depth e) :
    ReadsBack (depth + 1) (.array items) := by
  refine readsBack_of_succ (.array legible) fun fuel rest enough _ => ?_
  rcases eq_or_ne items [] with rfl | filled
  · rfl
  · have begins := (begins_writtenElements legible filled).append (']' :: rest)
    rw [written_array] at enough ⊢
    simp only [List.length_cons, List.length_append] at enough
    have front : skipBlank ('[' :: (writtenElements items ++ ']' :: rest)) =
      '[' :: (writtenElements items ++ ']' :: rest) := rfl
    simp only [List.cons_append, List.append_assoc, List.nil_append, value, front, bind,
      Except.bind, opened_of_begins (.inl rfl) begins,
      elements_writtenElements legible back filled fuel rest (by omega)]
    rfl

theorem readsBack_object {depth : Nat} {items : List (String × Json)}
    (legible : ∀ m ∈ items, Legible depth m.2) (back : ∀ m ∈ items, ReadsBack depth m.2) :
    ReadsBack (depth + 1) (.object items) := by
  refine readsBack_of_succ (.object legible) fun fuel rest enough _ => ?_
  rcases eq_or_ne items [] with rfl | filled
  · rfl
  · have begins := (begins_writtenMembers filled).append ('\x7d' :: rest)
    rw [written_object] at enough ⊢
    simp only [List.length_cons, List.length_append] at enough
    have front : skipBlank ('\x7b' :: (writtenMembers items ++ '\x7d' :: rest)) =
      '\x7b' :: (writtenMembers items ++ '\x7d' :: rest) := rfl
    simp only [List.cons_append, List.append_assoc, List.nil_append, value, front, bind,
      Except.bind, opened_of_begins (.inr rfl) begins,
      members_writtenMembers back filled fuel {} rest (by omega)]
    rfl

theorem readsBack_of_legible {depth : Nat} {json : Json} (legible : Legible depth json) :
    ReadsBack depth json := by
  induction legible with
  | null => exact readsBack_of_succ .null fun _ _ _ _ => rfl
  | bool value =>
      refine readsBack_of_succ (.bool value) fun _ _ _ _ => ?_
      cases value <;> rfl
  | integer low high => exact readsBack_integer _ low high
  | string text => exact readsBack_string _ text
  | array all back => exact readsBack_array all back
  | object all back => exact readsBack_object all back

end Reader

/-- What is read from the compact text of a legible value. -/
theorem parse_compact {json : Json} (legible : Legible depthLimit json) :
    parse .any json.compact = .ok json.settled := by
  have text : json.compact.toList = json.written := rfl
  have back := Reader.readsBack_of_legible legible (2 * json.written.length + 1) [] (by omega)
    Reader.stops_nil
  rw [List.append_nil] at back
  simp only [parse, text, Reader.shaped, back, bind, Except.bind]
  rfl

/-! Members by their names -/

section Members

theorem find?_insertInto (key name : String) (json : Json) (entries : List (String × Json)) :
    (Dict.insertInto key json entries).find? (fun entry => entry.1 == name) =
      if key = name then some (key, json) else entries.find? fun entry => entry.1 == name := by
  induction entries with
  | nil =>
      by_cases same : key = name <;> simp [Dict.insertInto, same]
  | cons entry rest inductionHypothesis =>
      rw [Dict.insertInto]
      split
      · by_cases same : key = name <;> simp [same]
      · rename_i replaced
        obtain rfl := Std.compare_eq_iff_eq.mp replaced
        by_cases same : entry.1 = name <;> simp [same]
      · rename_i further
        by_cases same : key = name
        · have other : entry.1 ≠ name := by
            rintro rfl
            rw [Std.compare_eq_iff_eq.mpr same] at further
            cases further
          simpa [other] using inductionHypothesis
        · simp only [List.find?_cons, inductionHypothesis]
          rw [if_neg same, if_neg same]

theorem find?_settledMembers {items : List (String × Json)}
    (distinct : (items.map Prod.fst).Nodup) (name : String) (read : Dict String Json) :
    (settledMembers read items).entries.find? (fun entry => entry.1 == name) =
      ((items.find? fun entry => entry.1 == name).map fun entry => (entry.1, entry.2.settled)).or
        (read.entries.find? fun entry => entry.1 == name) := by
  induction items generalizing read with
  | nil => rfl
  | cons first rest inductionHypothesis =>
      obtain ⟨key, json⟩ := first
      obtain ⟨apart, distinct⟩ := List.nodup_cons.mp distinct
      rw [settledMembers, inductionHypothesis distinct, Dict.insert, find?_insertInto]
      by_cases same : key = name
      · subst same
        have absent : rest.find? (fun entry => entry.1 == key) = none := by
          refine List.find?_eq_none.mpr fun entry there found => apart ?_
          exact List.mem_map.mpr ⟨entry, there, eq_of_beq found⟩
        simp [absent]
      · simp [same]

/-- Of distinct members each is found under its name. -/
theorem get?_settled_object {items : List (String × Json)}
    (distinct : (items.map Prod.fst).Nodup) (name : String) :
    (settled (.object items)).get? name = ((Json.object items).get? name).map settled := by
  have found := find?_settledMembers distinct name {}
  simp only [settled, get?, found, List.find?_nil, Option.or_none, Option.map_map]
  rfl

end Members

end Underlay.Json
