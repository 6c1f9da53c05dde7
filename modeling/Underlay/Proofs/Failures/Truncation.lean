import Underlay.Boundary.Failures
import Underlay.Proofs.Text.Encoding

/-!
# Messages are cut as late as there is room

A message that is too long is cut at the last boundary between two characters that there is room
for. The boundary is searched backwards, and what ends the search is the encoding alone: no
character takes more than four bytes, so the search goes back by three bytes at most. What generated
code reads of the message is the same text without zero characters.
-/

namespace Underlay

/-- A slot that has room for a text keeps it whole, and otherwise the longest beginning of it. -/
structure Keeps (text kept : String) : Prop where
  beginning : kept.toList <+: text.toList
  fits : kept.utf8ByteSize ≤ Slot.capacity
  longest : ∀ longer : String, longer.toList <+: text.toList →
    longer.utf8ByteSize ≤ Slot.capacity → longer.toList <+: kept.toList

/-- The last boundary of a text at or before the byte `start`. -/
structure LastBoundary {text : String} (start : Nat) (stop : text.Pos) : Prop where
  before : stop.offset.byteIdx ≤ start
  last : ∀ place : text.Pos, place.offset.byteIdx ≤ start → place ≤ stop

section Searching

variable {text : String} {start : Nat} {stop : text.Pos}

/-- The search finds a boundary, wherever it starts: the start of the text is one. -/
theorem exists_lastBoundary (text : String) (start : Nat) :
    ∃ stop, boundary? text start = some stop ∧ LastBoundary start stop := by
  induction start with
  | zero =>
      have valid : (String.Pos.Raw.mk 0).IsValid text := String.Pos.Raw.isValid_zero
      refine ⟨text.pos ⟨0⟩ valid, by rw [boundary?, dif_pos valid], ?_, fun place first => ?_⟩
      · exact Nat.le_refl 0
      · exact first
  | succ before inductionHypothesis =>
      by_cases valid : (String.Pos.Raw.mk (before + 1)).IsValid text
      · refine ⟨text.pos ⟨before + 1⟩ valid, by rw [boundary?, dif_pos valid], ?_, ?_⟩
        · exact Nat.le_refl (before + 1)
        · exact fun place earlier => earlier
      · obtain ⟨stop, found, early, last⟩ := inductionHypothesis
        refine ⟨stop, by rw [boundary?, dif_neg valid]; exact found, by omega, ?_⟩
        intro place earlier
        -- The place is a boundary, so it is not where the search has just been.
        have other : place.offset.byteIdx ≠ before + 1 := by
          intro same
          rw [← same] at valid
          exact valid place.isValid
        exact last place (Nat.le_of_lt_succ (Nat.lt_of_le_of_ne earlier other))

/-- The search goes back by less than the longest character takes. -/
theorem LastBoundary.near (boundary : LastBoundary start stop)
    (inside : start ≤ text.utf8ByteSize) :
    start < stop.offset.byteIdx + 4 := by
  by_cases ended : stop = text.endPos
  · subst ended
    exact Nat.lt_add_right 3 (Nat.lt_succ_of_le inside)
  · have longest := (stop.get ended).utf8Size_le_four
    have next := stop.byteIdx_offset_next ended
    have further : ¬ (stop.next ended).offset.byteIdx ≤ start := fun early =>
      absurd String.Pos.lt_next (Nat.not_lt.mpr (boundary.last (stop.next ended) early))
    omega

theorem utf8ByteSize_before (stop : text.Pos) :
    (text.sliceTo stop).copy.utf8ByteSize = stop.offset.byteIdx :=
  congrArg String.Pos.Raw.byteIdx stop.splits.offset_eq_rawEndPos.symm

theorem prefix_before (stop : text.Pos) : (text.sliceTo stop).copy.toList <+: text.toList := by
  rw [congrArg String.toList stop.splits.eq_append, String.toList_append]
  exact List.prefix_append _ _

theorem exists_rest {beginning : String} (shorter : beginning.toList <+: text.toList) :
    ∃ rest : String, text = beginning ++ rest := by
  obtain ⟨rest, whole⟩ := shorter
  refine ⟨String.ofList rest, ?_⟩
  rw [← String.toList_inj, String.toList_append, String.toList_ofList, whole]

/-- Where a beginning of a text ends there is a boundary. -/
theorem exists_end {beginning : String} (shorter : beginning.toList <+: text.toList) :
    ∃ place : text.Pos, place.offset.byteIdx = beginning.utf8ByteSize := by
  obtain ⟨rest, parts⟩ := exists_rest shorter
  have valid := String.Pos.Raw.isValid_iff_exists_append.mpr ⟨beginning, rest, parts, rfl⟩
  exact ⟨text.pos _ valid, rfl⟩

/-- Of two beginnings of a text the one with fewer bytes is a beginning of the other. -/
theorem prefix_of_utf8ByteSize_le {shorter longer : String}
    (first : shorter.toList <+: text.toList) (second : longer.toList <+: text.toList)
    (fewer : shorter.utf8ByteSize ≤ longer.utf8ByteSize) : shorter.toList <+: longer.toList := by
  rcases List.prefix_or_prefix_of_prefix first second with done | other
  · exact done
  · obtain ⟨rest, rfl⟩ := exists_rest other
    have none : rest.utf8ByteSize = 0 := by
      rw [String.utf8ByteSize_append] at fewer
      omega
    simp only [String.utf8ByteSize_eq_zero_iff.mp none, String.append_empty, List.prefix_rfl]

theorem keeps_before (boundary : LastBoundary Slot.capacity stop) :
    Keeps text (text.sliceTo stop).copy := by
  refine ⟨prefix_before stop, ?_, fun longer beginning fits => ?_⟩
  · rw [utf8ByteSize_before]
    exact boundary.before
  · obtain ⟨place, ends⟩ := exists_end beginning
    have earlier : place ≤ stop := boundary.last place (ends ▸ fits)
    refine prefix_of_utf8ByteSize_le beginning (prefix_before stop) ?_
    rw [utf8ByteSize_before, ← ends]
    exact earlier

end Searching

theorem trim_of_fits {text : String} (fits : text.utf8ByteSize ≤ Slot.capacity) :
    Slot.trim text = text :=
  if_pos fits

theorem trim_of_boundary {text : String} {stop : text.Pos}
    (large : ¬ text.utf8ByteSize ≤ Slot.capacity)
    (found : boundary? text Slot.capacity = some stop) :
    Slot.trim text = (text.sliceTo stop).copy := by
  rw [Slot.trim, if_neg large, found]

theorem keeps_trim (text : String) : Keeps text (Slot.trim text) := by
  by_cases fits : text.utf8ByteSize ≤ Slot.capacity
  · rw [trim_of_fits fits]
    exact ⟨List.prefix_rfl, fits, fun _ beginning _ => beginning⟩
  · obtain ⟨stop, found, boundary⟩ := exists_lastBoundary text Slot.capacity
    rw [trim_of_boundary fits found]
    exact keeps_before boundary

theorem Keeps.eq_self {text kept : String} (keeps : Keeps text kept)
    (fits : text.utf8ByteSize ≤ Slot.capacity) : kept = text := by
  have whole := keeps.longest text List.prefix_rfl fits
  exact String.toList_injective (keeps.beginning.eq_of_length_le whole.length_le)

theorem Keeps.eq_trim {text kept : String} (keeps : Keeps text kept) : kept = Slot.trim text := by
  have trimmed := keeps_trim text
  have shorter := trimmed.longest kept keeps.beginning keeps.fits
  have longer := keeps.longest (Slot.trim text) trimmed.beginning trimmed.fits
  exact String.toList_injective (shorter.eq_of_length_le longer.length_le)

theorem utf8ByteSize_cons (c : Char) (text : List Char) :
    (String.ofList (c :: text)).utf8ByteSize = c.utf8Size + (String.ofList text).utf8ByteSize := by
  rw [String.ofList_cons, String.utf8ByteSize_append, String.utf8ByteSize_singleton]

/-- What is kept of a text ends where there is no room for the next character. -/
theorem Keeps.eq_of_full {text kept beginning : String} {next : Char} {rest : List Char}
    (keeps : Keeps text kept) (parts : text.toList = beginning.toList ++ next :: rest)
    (fits : beginning.utf8ByteSize ≤ Slot.capacity)
    (full : Slot.capacity < beginning.utf8ByteSize + next.utf8Size) : kept = beginning := by
  have first : beginning.toList <+: text.toList := parts ▸ List.prefix_append _ _
  obtain ⟨more, parts'⟩ := exists_rest (keeps.longest beginning first fits)
  cases listed : more.toList with
  | nil => rw [parts', String.toList_eq_nil_iff.mp listed, String.append_empty]
  | cons c others =>
      -- The character behind the beginning is the one that there is no room for.
      have behind : c :: others <+: next :: rest := by
        have beginning' := keeps.beginning
        rw [parts', parts, String.toList_append, listed] at beginning'
        exact (List.prefix_append_right_inj _).mp beginning'
      obtain ⟨rfl, -⟩ := List.cons_prefix_cons.mp behind
      have size := keeps.fits
      have more' : more = String.ofList (c :: others) := by rw [← listed, String.ofList_toList]
      rw [parts', String.utf8ByteSize_append, more', utf8ByteSize_cons] at size
      omega

theorem utf8ByteSize_filter_le (p : Char → Bool) (text : List Char) :
    (String.ofList (text.filter p)).utf8ByteSize ≤ (String.ofList text).utf8ByteSize := by
  induction text with
  | nil => exact Nat.le_refl 0
  | cons c rest inductionHypothesis =>
      rw [List.filter_cons]
      split
      · rw [utf8ByteSize_cons, utf8ByteSize_cons]
        omega
      · rw [utf8ByteSize_cons]
        omega

namespace Boundary

theorem zero_notMem_message (machine : Machine) : '\x00' ∉ (message machine).toList := by
  simp [message]

theorem utf8ByteSize_message_le (machine : Machine) :
    (message machine).utf8ByteSize ≤ machine.slot.message.utf8ByteSize := by
  have fewer := utf8ByteSize_filter_le (· != '\x00') machine.slot.message.toList
  rwa [String.ofList_toList] at fewer

end Boundary

namespace Slot

/-- Whatever the message, a slot keeps the longest beginning of it that takes at most 511 bytes: all
of it if there is room, and otherwise what stands before the boundary that a search backwards from
there finds, which is at least 508 bytes; the search never passes the start of a message. Storing
what is stored changes nothing. Generated code is given what is stored without its zero characters,
so that it reads all of it up to the zero byte behind. -/
theorem kept_of_set (code : Kind) (message : String) (location : Option Location)
    (machine : Machine) :
    let slot := set code message location
    let answer := Boundary.message (machine.setSlot slot)
    Keeps message slot.message ∧
      (message.utf8ByteSize ≤ 511 → slot.message = message) ∧
      (∀ start, ∃ stop, boundary? message start = some stop ∧ LastBoundary start stop) ∧
      (511 < message.utf8ByteSize →
        508 ≤ slot.message.utf8ByteSize ∧
          ∃ stop, boundary? message 511 = some stop ∧
            slot.message = (message.sliceTo stop).copy) ∧
      set code slot.message location = slot ∧
      answer.toList = slot.message.toList.filter (· != '\x00') ∧
      (∀ behind, Text.terminated (Text.encode answer ++ 0 :: behind) = Text.encode answer) ∧
      (Text.encode answer).length ≤ 511 := by
  intro slot answer
  have keeps : Keeps message slot.message := keeps_trim message
  refine ⟨keeps, fun fits => keeps.eq_self fits, exists_lastBoundary message, fun large => ?_, ?_,
    ?_, ?_, ?_⟩
  · obtain ⟨stop, found, boundary⟩ := exists_lastBoundary message capacity
    have cut : slot.message = (message.sliceTo stop).copy :=
      trim_of_boundary (Nat.not_le.mpr large) found
    have near : 511 < stop.offset.byteIdx + 4 := boundary.near (Nat.le_of_lt large)
    refine ⟨?_, stop, found, cut⟩
    rw [cut, utf8ByteSize_before]
    omega
  · have again : trim slot.message = slot.message := trim_of_fits keeps.fits
    rw [set, again]
    rfl
  · exact String.toList_ofList
  · exact Text.terminated_encode (Boundary.zero_notMem_message _)
  · rw [Text.length_encode]
    exact Nat.le_trans (Boundary.utf8ByteSize_message_le _) keeps.fits

/-- A message of a zero character and 128 characters of four bytes each: the last one straddles the
limit and is cut off. -/
theorem kept_of_set_straddling :
    let message := String.ofList ('\x00' :: List.replicate 128 '😀')
    let slot := set .value message none
    511 < message.utf8ByteSize ∧ 508 ≤ slot.message.utf8ByteSize ∧
      slot.message = String.ofList ('\x00' :: List.replicate 127 '😀') ∧
      (Boundary.message (({} : Machine).setSlot slot)).toList = List.replicate 127 '😀' := by
  intro message slot
  have large : 511 < message.utf8ByteSize := by decide +kernel
  have fits : (String.ofList ('\x00' :: List.replicate 127 '😀')).utf8ByteSize = 509 := by
    decide +kernel
  have parts : message.toList =
      (String.ofList ('\x00' :: List.replicate 127 '😀')).toList ++ ['😀'] := by
    rw [String.toList_ofList, String.toList_ofList, List.cons_append, ← List.replicate_succ']
  obtain ⟨keeps, -, -, cut, -, answer, -⟩ := kept_of_set .value message none {}
  have kept := keeps.eq_of_full parts (by rw [fits]; decide) (by rw [fits]; decide)
  refine ⟨large, (cut large).1, kept, ?_⟩
  rw [answer, kept, String.toList_ofList, List.filter_cons_of_neg (by decide),
    List.filter_replicate_of_pos (by decide)]

end Slot

end Underlay
