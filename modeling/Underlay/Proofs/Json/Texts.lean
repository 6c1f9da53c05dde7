import Underlay.Proofs.Json.Scalars

/-!
# Compact texts

Values whose compact texts can be read: they hold no floating-point number, a word holds their
integers, and their brackets are not nested past a limit. The text of such a value begins with
something that reading does not skip, and no character of it is a control, so that it is one line.
-/

namespace Underlay.Json

/-- Values that are read back when so many levels of brackets may be opened. -/
inductive Legible : Nat → Json → Prop where
  | null {depth : Nat} : Legible depth .null
  | bool {depth : Nat} (value : Bool) : Legible depth (.bool value)
  | integer {depth : Nat} {i : Int} (low : Word.least ≤ i) (high : i < Word.limit) :
      Legible depth (.integer i)
  | string {depth : Nat} (text : String) : Legible depth (.string text)
  | array {depth : Nat} {elements : List Json} (all : ∀ e ∈ elements, Legible depth e) :
      Legible (depth + 1) (.array elements)
  | object {depth : Nat} {members : List (String × Json)}
      (all : ∀ m ∈ members, Legible depth m.2) : Legible (depth + 1) (.object members)

def compactSeparators : Separators := { comma := ",", colon := ":" }

/-- The characters of the compact text. -/
def written (json : Json) : List Char :=
  (json.flat compactSeparators).toList

def writtenElements (elements : List Json) : List Char :=
  (flatElements compactSeparators elements).toList

def writtenMembers (members : List (String × Json)) : List Char :=
  (flatMembers compactSeparators members).toList

section Written

@[simp]
theorem written_array (elements : List Json) :
    written (.array elements) = '[' :: (writtenElements elements ++ [']']) := by
  simp [written, flat, writtenElements]

@[simp]
theorem written_object (members : List (String × Json)) :
    written (.object members) = '\x7b' :: (writtenMembers members ++ ['\x7d']) := by
  simp [written, flat, writtenMembers]

theorem written_string (text : String) :
    written (.string text) = '"' :: (text.toList.flatMap escapeChar ++ ['"']) := by
  simp [written, flat, scalar, escape]

@[simp]
theorem writtenElements_singleton (last : Json) : writtenElements [last] = written last := rfl

@[simp]
theorem writtenElements_cons (first second : Json) (rest : List Json) :
    writtenElements (first :: second :: rest) =
      written first ++ ',' :: writtenElements (second :: rest) := by
  simp [writtenElements, flatElements, written, compactSeparators]

@[simp]
theorem writtenMembers_singleton (name : String) (value : Json) :
    writtenMembers [(name, value)] =
      '"' :: (name.toList.flatMap escapeChar ++ '"' :: ':' :: written value) := by
  simp [writtenMembers, flatMembers, written, compactSeparators, escape]

@[simp]
theorem writtenMembers_cons (name : String) (value : Json) (second : String × Json)
    (rest : List (String × Json)) :
    writtenMembers ((name, value) :: second :: rest) =
      '"' :: (name.toList.flatMap escapeChar ++
        '"' :: ':' :: (written value ++ ',' :: writtenMembers (second :: rest))) := by
  simp [writtenMembers, flatMembers, written, compactSeparators, escape]

end Written

/-- A text begins with something that is neither blank nor a closing bracket. -/
def Begins (text : List Char) : Prop :=
  ∃ c behind, text = c :: behind ∧ c ∉ [' ', '\n', '\t', '\r', ']', '\x7d']

theorem Begins.append {text : List Char} (begins : Begins text) (rest : List Char) :
    Begins (text ++ rest) := by
  obtain ⟨c, behind, rfl, plain⟩ := begins
  exact ⟨c, behind ++ rest, rfl, plain⟩

theorem Begins.length_pos {text : List Char} (begins : Begins text) : 0 < text.length := by
  obtain ⟨c, behind, rfl, -⟩ := begins
  exact Nat.succ_pos _

theorem begins_toDigits (n : Nat) : Begins (Nat.toDigits 10 n) := by
  cases listed : Nat.toDigits 10 n with
  | nil => exact absurd listed Nat.toDigits_ne_nil
  | cons first others =>
      have digit := Reader.isDigit_of_mem_toDigits (listed ▸ List.mem_cons_self : first ∈ _)
      refine ⟨first, others, rfl, fun other => ?_⟩
      simp only [List.mem_cons, List.not_mem_nil, or_false] at other
      rcases other with rfl | rfl | rfl | rfl | rfl | rfl <;> cases digit

theorem written_integer (i : Int) :
    written (.integer i) =
      if i < 0 then '-' :: Nat.toDigits 10 i.natAbs else Nat.toDigits 10 i.natAbs := by
  change (toString i).toList = _
  cases i with
  | ofNat n =>
      simp [ToString.toString, Int.repr, Nat.repr_eq_ofList_toDigits]
  | negSucc n =>
      simp [ToString.toString, Int.repr, Nat.repr_eq_ofList_toDigits]

theorem Legible.begins {depth : Nat} {json : Json} (legible : Legible depth json) :
    Begins json.written := by
  cases legible with
  | null => exact ⟨'n', ['u', 'l', 'l'], rfl, by decide⟩
  | bool value =>
      cases value with
      | true => exact ⟨'t', ['r', 'u', 'e'], rfl, by decide⟩
      | false => exact ⟨'f', ['a', 'l', 's', 'e'], rfl, by decide⟩
  | @integer _ i low high =>
      rw [written_integer]
      split
      · exact ⟨'-', _, rfl, by decide⟩
      · exact begins_toDigits _
  | string text => exact ⟨'"', _, written_string text, by decide⟩
  | array all => exact ⟨'[', _, written_array _, by decide⟩
  | object all => exact ⟨'\x7b', _, written_object _, by decide⟩

/-- Nothing in a text stands for an end of a line or another control. -/
def Printable (text : List Char) : Prop :=
  ∀ c ∈ text, 0x20 ≤ c.toNat

section Printable

instance (text : List Char) : Decidable (Printable text) :=
  List.decidableBAll (fun c : Char => 0x20 ≤ c.toNat) text

variable {text more : List Char}

@[simp]
theorem printable_nil : Printable [] :=
  fun _ nothing => absurd nothing List.not_mem_nil

@[simp]
theorem printable_cons {c : Char} : Printable (c :: text) ↔ 0x20 ≤ c.toNat ∧ Printable text :=
  List.forall_mem_cons

@[simp]
theorem printable_append : Printable (text ++ more) ↔ Printable text ∧ Printable more :=
  List.forall_mem_append

theorem Printable.not_mem {c : Char} (printable : Printable text) (control : c.toNat < 0x20) :
    c ∉ text :=
  fun there => Nat.not_le.mpr control (printable c there)

theorem printable_toDigits (n : Nat) : Printable (Nat.toDigits 10 n) := by
  intro c digit
  have digit := Reader.isDigit_of_mem_toDigits digit
  simp only [Text.isDigit, decide_eq_true_eq, Char.le_def, UInt32.le_iff_toNat_le] at digit
  exact Nat.le_trans (by decide) digit.1

theorem printable_hexadecimal {n : Nat} (control : n < 0x20) :
    Printable (List.replicate (4 - (Nat.toDigits 16 n).length) '0' ++ Nat.toDigits 16 n) := by
  interval_cases n <;> decide

theorem printable_escapeChar (c : Char) : Printable (escapeChar c) := by
  unfold escapeChar
  split
  case h_8 c _ _ _ _ _ _ _ =>
    split
    · rename_i control
      rw [List.append_assoc]
      exact printable_append.mpr ⟨by decide, printable_hexadecimal control⟩
    · rename_i printable
      simpa using Nat.not_lt.mp printable
  all_goals simp

theorem printable_flatMap (text : List Char) : Printable (text.flatMap escapeChar) := by
  intro c there
  obtain ⟨d, -, there⟩ := List.mem_flatMap.mp there
  exact printable_escapeChar d c there

theorem printable_writtenElements {items : List Json} (all : ∀ e ∈ items, Printable e.written) :
    Printable (writtenElements items) := by
  induction items with
  | nil => exact printable_nil
  | cons first more inductionHypothesis =>
      obtain ⟨front, others⟩ := List.forall_mem_cons.mp all
      cases more with
      | nil => exact front
      | cons second more => simp [front, inductionHypothesis others]

theorem printable_writtenMembers {items : List (String × Json)}
    (all : ∀ m ∈ items, Printable m.2.written) : Printable (writtenMembers items) := by
  induction items with
  | nil => exact printable_nil
  | cons first more inductionHypothesis =>
      obtain ⟨front, others⟩ := List.forall_mem_cons.mp all
      obtain ⟨name, json⟩ := first
      have key := printable_flatMap name.toList
      cases more with
      | nil => simpa [key] using front
      | cons second more => simpa [key, inductionHypothesis others] using front

/-- The text of a legible value is one line. -/
theorem Legible.printable {depth : Nat} {json : Json} (legible : Legible depth json) :
    Printable json.written := by
  induction legible with
  | null => decide
  | bool value => cases value <;> decide
  | @integer _ i low high =>
      rw [written_integer]
      split
      · simpa using printable_toDigits _
      · exact printable_toDigits _
  | string text => simpa [written_string] using printable_flatMap text.toList
  | array all printable => simpa using printable_writtenElements printable
  | object all printable => simpa using printable_writtenMembers printable

end Printable

end Underlay.Json
