import Underlay.Boundary.Memory
import Underlay.Memory.Bounded
import Underlay.Proofs.Blocks.Contents

/-!
# What bounded copies write

`Overwritten` says of every byte of a buffer where it comes from, and so it says all about the
buffer. Requests on buffers, on regions given by their sizes, and on blocks by entry points are met
exactly if they fit, and what they write is then what the source held before. A request that does
not fit, or that lacks a region, is a value error and writes nothing.
-/

namespace Underlay

namespace Bounded

/-- In the place of `count` bytes from `offset` on there are the given ones, and all others are
those of before. -/
structure Overwritten (before after : List UInt8) (offset count : Nat) (byte : Nat → Option UInt8) :
    Prop where
  length : after.length = before.length
  within : ∀ i, i < count → after[offset + i]? = byte i
  outside : ∀ i, i < offset ∨ offset + count ≤ i → after[i]? = before[i]?

/-- A request that is refused is a value error and leaves the buffer as it was. -/
def Refused (before : List UInt8) (result : Except Failure (List UInt8)) : Prop :=
  (∃ failure, result = .error failure ∧ failure.kind = .value) ∧ behind before result = before

/-- A request is met if it fits, and refused otherwise. -/
structure Decided (before : List UInt8) (result : Except Failure (List UInt8)) (fits : Prop)
    (offset count : Nat) (byte : Nat → Option UInt8) : Prop where
  met : fits → ∃ after, result = .ok after ∧ Overwritten before after offset count byte
  refused : ¬fits → Refused before result

/-- What an entry point answers to a request that it refuses: nothing in any heap has changed. -/
def Declined (machine : Machine) (answer : Nat × Machine) : Prop :=
  answer.1 = Kind.value.code ∧ answer.2.heaps = machine.heaps

/-- An entry point writes to one block if the request fits, and refuses it otherwise. -/
structure Answered (machine : Machine) (answer : Nat × Machine) (fits : Prop) (block : BlockId)
    (offset count : Nat) (byte : Nat → Option UInt8) : Prop where
  met : fits → answer.1 = Kind.ok.code ∧
    Overwritten (machine.bytes block) (answer.2.bytes block) offset count byte ∧
      ∀ other, other ≠ block → answer.2.bytes other = machine.bytes other
  refused : ¬fits → Declined machine answer

namespace Overwritten

variable {before after after' bytes rest : List UInt8} {offset count : Nat}
  {byte byte' : Nat → Option UInt8}

/-- What is overwritten is determined by what is said of its bytes. -/
theorem unique (overwritten : Overwritten before after offset count byte)
    (overwritten' : Overwritten before after' offset count byte) : after = after' := by
  apply List.ext_getElem?
  intro i
  by_cases outside : i < offset ∨ offset + count ≤ i
  · rw [overwritten.outside i outside, overwritten'.outside i outside]
  · obtain ⟨k, rfl⟩ := Nat.exists_eq_add_of_le (show offset ≤ i by omega)
    rw [overwritten.within k (by omega), overwritten'.within k (by omega)]

theorem congr (overwritten : Overwritten before after offset count byte)
    (same : ∀ i, i < count → byte i = byte' i) : Overwritten before after offset count byte' :=
  ⟨overwritten.length, fun i within => (overwritten.within i within).trans (same i within),
    overwritten.outside⟩

/-- Overwriting the front of a buffer leaves the rest behind it. -/
theorem append (overwritten : Overwritten before after offset count byte)
    (room : offset + count ≤ before.length) (rest : List UInt8) :
    Overwritten (before ++ rest) (after ++ rest) offset count byte := by
  have length := overwritten.length
  refine ⟨?_, ?_, ?_⟩
  · rw [List.length_append, List.length_append, length]
  · intro i within
    rw [List.getElem?_append_left (by omega)]
    exact overwritten.within i within
  · intro i outside
    by_cases front : i < before.length
    · rw [List.getElem?_append_left (by omega), List.getElem?_append_left front]
      exact overwritten.outside i outside
    · rw [List.getElem?_append_right (by omega), List.getElem?_append_right (by omega), length]

theorem splice (room : offset + count ≤ before.length) (size : bytes.length = count) :
    Overwritten before (Bounded.splice before offset bytes) offset count fun i => bytes[i]? := by
  subst size
  refine ⟨length_splice room, ?_, ?_⟩
  · intro i within
    rw [getElem?_splice room, if_pos (by omega), Nat.add_sub_cancel_left]
  · intro i outside
    rw [getElem?_splice room, if_neg (by omega)]

/-- Writing into a block overwrites its bytes. A block that is not there has room for nothing. -/
theorem modifyBlock {machine : Machine} {id : BlockId}
    (room : offset + bytes.length ≤ (machine.bytes id).length) :
    Overwritten (machine.bytes id)
      ((machine.modifyBlock id fun m => m.write offset bytes.toArray).bytes id) offset bytes.length
      fun i => bytes[i]? := by
  cases found : machine.block? id with
  | none =>
      have absent : (machine.modifyBlock id fun m => m.write offset bytes.toArray).block? id =
          none := by
        rw [Machine.block?_modifyBlock, if_pos rfl, found, Option.map_none]
      rw [Machine.bytes_of_none found, List.length_nil] at room
      rw [Machine.bytes_of_none found, Machine.bytes_of_none absent]
      exact ⟨rfl, fun i within => by omega, fun _ _ => rfl⟩
  | some b =>
      rw [Machine.bytes_of_some found, Memory.length_read] at room
      rw [Machine.bytes_of_some found, Machine.bytes_modifyBlock_self found]
      refine ⟨?_, ?_, ?_⟩
      · rw [Memory.length_read, Memory.length_read]
      · intro i within
        rw [Memory.getElem?_read, if_pos (by omega), Nat.zero_add, Memory.write,
          if_pos (by rw [List.size_toArray]; omega), Nat.add_sub_cancel_left,
          Array.getD_eq_getD_getElem?, List.getElem?_toArray, List.getElem?_eq_getElem within,
          Option.getD_some]
      · intro i outside
        rw [Memory.getElem?_read, Memory.getElem?_read, Nat.zero_add,
          Memory.write_apply_outside (by rw [List.size_toArray]; exact outside)]

end Overwritten

theorem refused_overrun (before : List UInt8) (operation what : String) (count capacity : Nat) :
    Refused before (.error (overrun operation what count capacity)) :=
  ⟨⟨_, rfl, rfl⟩, rfl⟩

/-- A request on the front of a buffer leaves the same bytes as the request on all of it. -/
theorem Decided.behind_append {before rest : List UInt8}
    {result result' : Except Failure (List UInt8)} {fits : Prop} {offset count : Nat}
    {byte : Nat → Option UInt8} (decided : Decided before result fits offset count byte)
    (decided' : Decided (before ++ rest) result' fits offset count byte)
    (room : fits → offset + count ≤ before.length) :
    behind (before ++ rest) result' = behind before result ++ rest := by
  by_cases enough : fits
  · obtain ⟨after, rfl, overwritten⟩ := decided.met enough
    obtain ⟨after', rfl, overwritten'⟩ := decided'.met enough
    exact overwritten'.unique (overwritten.append (room enough) rest)
  · rw [(decided.refused enough).2, (decided'.refused enough).2]

/-! The bytes that requests read, all of them before the first is written. -/

section Sources

variable {source : List UInt8} {offset count : Nat}

theorem length_part (room : offset + count ≤ source.length) :
    ((source.drop offset).take count).length = count := by
  rw [List.length_take, List.length_drop]
  omega

theorem getElem?_part (source : List UInt8) (offset : Nat) {count i : Nat} (within : i < count) :
    ((source.drop offset).take count)[i]? = source[offset + i]? := by
  rw [List.getElem?_take_of_lt within, List.getElem?_drop]

end Sources

section Buffers

variable {buffer : List UInt8}

theorem decided_move (addressable : buffer.length < Word.limit) (src dest count : Nat) :
    Decided buffer (move buffer src dest count)
      (src + count ≤ buffer.length ∧ dest + count ≤ buffer.length) dest count
      fun i => buffer[src + i]? := by
  constructor
  · rintro ⟨readable, room⟩
    -- Sums that stay inside an addressable buffer do not wrap.
    have fits := And.intro readable (And.intro room
      (And.intro (Nat.lt_of_le_of_lt readable addressable) (Nat.lt_of_le_of_lt room addressable)))
    exact ⟨_, if_pos fits, (Overwritten.splice room (length_part readable)).congr
      fun i within => getElem?_part buffer src within⟩
  · intro excess
    rw [move, if_neg fun fits => excess ⟨fits.1, fits.2.1⟩]
    exact refused_overrun _ _ _ _ _

theorem decided_copy (buffer source : List UInt8) :
    Decided buffer (copy buffer source) (source.length ≤ buffer.length) 0 source.length
      fun i => source[i]? := by
  constructor
  · intro room
    refine ⟨_, ?_, Overwritten.splice (by omega) rfl⟩
    rw [copy, checkFit, if_neg (by omega)]
    rfl
  · intro excess
    rw [copy, checkFit, if_pos (by omega)]
    exact refused_overrun _ _ _ _ _

theorem decided_fill (buffer : List UInt8) (byte : UInt8) (count : Nat) :
    Decided buffer (fill buffer byte count) (count ≤ buffer.length) 0 count
      fun _ => some byte := by
  constructor
  · intro room
    refine ⟨_, if_neg (by omega), ?_⟩
    exact (Overwritten.splice (by omega) List.length_replicate).congr
      fun i within => List.getElem?_replicate_of_lt within
  · intro excess
    rw [fill, if_pos (by omega)]
    exact refused_overrun _ _ _ _ _

end Buffers

/-! Regions, which are taken to be as large as they are said to be. -/

section Regions

variable {buffer source : List UInt8} {destSize srcSize : Nat}

theorem admitCopy_eq (destSize srcSize : Nat) (overlapping : Bool) :
    admitCopy true true destSize srcSize overlapping =
      if srcSize ≤ destSize then .ok ()
      else .error (overrun (regionOperation overlapping) "source size" srcSize destSize) := by
  simp only [admitCopy, Bool.not_true, Bool.or_self, Bool.false_eq_true, if_false, ← Nat.not_le,
    ite_not]

theorem admitFill_eq (destSize count : Nat) :
    admitFill true destSize count =
      if count ≤ destSize then .ok () else .error (overrun "memset_safe" "count" count destSize) := by
  simp only [admitFill, Bool.not_true, Bool.false_eq_true, if_false, ← Nat.not_le, ite_not]

theorem decided_copyRegion (writable : destSize ≤ buffer.length)
    (readable : srcSize ≤ source.length) (overlapping : Bool) :
    Decided buffer (copyRegion (some buffer) (some source) destSize srcSize overlapping)
      (srcSize ≤ destSize) 0 srcSize fun i => source[i]? := by
  have size : (source.take srcSize).length = srcSize := by
    rw [List.length_take]
    omega
  constructor
  · intro fits
    refine ⟨_, ?_, (Overwritten.splice (by omega) size).congr
      fun i within => List.getElem?_take_of_lt within⟩
    rw [copyRegion, Option.isSome_some, Option.isSome_some, admitCopy_eq, if_pos fits]
    rfl
  · intro excess
    rw [copyRegion, Option.isSome_some, Option.isSome_some, admitCopy_eq, if_neg excess]
    exact refused_overrun _ _ _ _ _

theorem decided_moveRegion {src dest count : Nat} (writable : dest + destSize ≤ buffer.length)
    (readable : src + count ≤ buffer.length) :
    Decided buffer (moveRegion buffer src dest count destSize) (count ≤ destSize) dest count
      fun i => buffer[src + i]? := by
  constructor
  · intro fits
    refine ⟨_, ?_, (Overwritten.splice (by omega) (length_part readable)).congr
      fun i within => getElem?_part buffer src within⟩
    rw [moveRegion, admitCopy_eq, if_pos fits]
    rfl
  · intro excess
    rw [moveRegion, admitCopy_eq, if_neg excess]
    exact refused_overrun _ _ _ _ _

theorem decided_fillRegion (writable : destSize ≤ buffer.length) (byte : UInt8) (count : Nat) :
    Decided buffer (fillRegion (some buffer) destSize byte count) (count ≤ destSize) 0 count
      fun _ => some byte := by
  constructor
  · intro fits
    refine ⟨_, ?_, (Overwritten.splice (by omega) List.length_replicate).congr
      fun i within => List.getElem?_replicate_of_lt within⟩
    rw [fillRegion, Option.isSome_some, admitFill_eq, if_pos fits]
    rfl
  · intro excess
    rw [fillRegion, Option.isSome_some, admitFill_eq, if_neg excess]
    exact refused_overrun _ _ _ _ _

/-- A copy between regions leaves what the copy between the buffers that they are leaves. -/
theorem behind_copyRegion (writable : destSize ≤ buffer.length)
    (readable : srcSize ≤ source.length) (overlapping : Bool) :
    behind buffer (copyRegion (some buffer) (some source) destSize srcSize overlapping) =
      behind (buffer.take destSize) (copy (buffer.take destSize) (source.take srcSize)) ++
        buffer.drop destSize := by
  have destination : (buffer.take destSize).length = destSize := by
    rw [List.length_take]
    omega
  have size : (source.take srcSize).length = srcSize := by
    rw [List.length_take]
    omega
  have checked := decided_copy (buffer.take destSize) (source.take srcSize)
  have raw := decided_copyRegion writable
    (Nat.le_of_eq size.symm : srcSize ≤ (source.take srcSize).length) overlapping
  rw [size, destination] at checked
  have cut : copyRegion (some buffer) (some (source.take srcSize)) destSize srcSize overlapping =
      copyRegion (some buffer) (some source) destSize srcSize overlapping := by
    simp [copyRegion, List.take_take]
  rw [cut] at raw
  -- The raw request is decided on the whole buffer, the checked one on its front.
  conv at raw => arg 1; rw [← List.take_append_drop destSize buffer]
  have agree := checked.behind_append raw fun fits => by omega
  rwa [List.take_append_drop] at agree

theorem behind_fillRegion (writable : destSize ≤ buffer.length) (byte : UInt8) (count : Nat) :
    behind buffer (fillRegion (some buffer) destSize byte count) =
      behind (buffer.take destSize) (fill (buffer.take destSize) byte count) ++
        buffer.drop destSize := by
  have destination : (buffer.take destSize).length = destSize := by
    rw [List.length_take]
    omega
  have checked := decided_fill (buffer.take destSize) byte count
  have raw := decided_fillRegion writable byte count
  rw [destination] at checked
  conv at raw => arg 1; rw [← List.take_append_drop destSize buffer]
  have agree := checked.behind_append raw fun fits => by omega
  rwa [List.take_append_drop] at agree

/-- Inside one buffer a raw move is the checked move, if it is accepted. -/
theorem moveRegion_eq_move {src dest count : Nat} (addressable : buffer.length < Word.limit)
    (writable : dest + destSize ≤ buffer.length) (readable : src + count ≤ buffer.length)
    (fits : count ≤ destSize) :
    moveRegion buffer src dest count destSize = move buffer src dest count := by
  obtain ⟨after, met, overwritten⟩ := (decided_moveRegion writable readable).met fits
  obtain ⟨after', met', overwritten'⟩ :=
    (decided_move addressable src dest count).met ⟨readable, by omega⟩
  rw [met, met', overwritten.unique overwritten']

end Regions

/-! Entry points, which read and write blocks at places in them. -/

section Places

variable {machine : Machine} {destSize srcSize : Nat}

theorem answered_copy {dest src : Boundary.Place}
    (writable : dest.offset + destSize ≤ (machine.bytes dest.block).length)
    (readable : src.offset + srcSize ≤ (machine.bytes src.block).length) (overlapping : Bool) :
    Answered machine
      (Boundary.copy (some dest) destSize (some src) srcSize overlapping machine)
      (srcSize ≤ destSize) dest.block dest.offset srcSize
      fun i => (machine.bytes src.block)[src.offset + i]? := by
  have taken := Machine.readBlock_eq readable
  have size := length_part readable
  rw [← taken] at size
  constructor
  · intro fits
    have admitted := admitCopy_eq destSize srcSize overlapping
    rw [if_pos fits] at admitted
    simp only [Boundary.copy, Option.isSome_some, admitted]
    have room : dest.offset + (machine.readBlock src.block src.offset srcSize).length ≤
        (machine.bytes dest.block).length := by omega
    have written := Overwritten.modifyBlock room
    rw [size] at written
    refine ⟨rfl, written.congr fun i within => ?_, fun other distinct => ?_⟩
    · rw [taken, getElem?_part _ _ within]
    · exact Machine.bytes_modifyBlock_of_ne machine distinct _
  · intro excess
    have admitted := admitCopy_eq destSize srcSize overlapping
    rw [if_neg excess] at admitted
    simp only [Boundary.copy, Option.isSome_some, admitted]
    exact ⟨rfl, rfl⟩

theorem answered_fill {dest : BlockId} (writable : destSize ≤ (machine.bytes dest).length)
    (value : Int) (count : Nat) :
    Answered machine (Boundary.fill (some dest) value count destSize machine) (count ≤ destSize)
      dest 0 count fun _ => some (UInt8.ofNat (value % 256).toNat) := by
  constructor
  · intro fits
    have admitted := admitFill_eq destSize count
    rw [if_pos fits] at admitted
    simp only [Boundary.fill, Option.isSome_some, admitted, Memory.fill_eq_write,
      ← List.toArray_replicate]
    have room : 0 + (List.replicate count (UInt8.ofNat (value % 256).toNat)).length ≤
        (machine.bytes dest).length := by
      rw [List.length_replicate]
      omega
    have written := Overwritten.modifyBlock room
    rw [List.length_replicate] at written
    refine ⟨rfl, written.congr fun i within => ?_, fun other distinct => ?_⟩
    · exact List.getElem?_replicate_of_lt within
    · exact Machine.bytes_modifyBlock_of_ne machine distinct _
  · intro excess
    have admitted := admitFill_eq destSize count
    rw [if_neg excess] at admitted
    simp only [Boundary.fill, Option.isSome_some, admitted]
    exact ⟨rfl, rfl⟩

end Places

/-! Null pointers. -/

section Missing

variable (destSize srcSize : Nat) (overlapping : Bool)

theorem refused_copyRegion {dest src : Option (List UInt8)} (missing : dest = none ∨ src = none) :
    Refused (dest.getD []) (copyRegion dest src destSize srcSize overlapping) := by
  rcases missing with rfl | rfl
  · exact ⟨⟨_, rfl, rfl⟩, rfl⟩
  · cases dest <;> exact ⟨⟨_, rfl, rfl⟩, rfl⟩

theorem declined_copy {dest src : Option Boundary.Place} (missing : dest = none ∨ src = none)
    (machine : Machine) :
    Declined machine (Boundary.copy dest destSize src srcSize overlapping machine) := by
  rcases missing with rfl | rfl
  · exact ⟨rfl, rfl⟩
  · cases dest <;> exact ⟨rfl, rfl⟩

end Missing

/-- Regions at places in blocks that have no byte in common. -/
def Apart (dest src : Boundary.Place) (destSize srcSize : Nat) : Prop :=
  dest.block ≠ src.block ∨ dest.offset + destSize ≤ src.offset ∨ src.offset + srcSize ≤ dest.offset

/-- Moves, copies and fills of a buffer are met exactly if they fit, over all numbers, and then
write just the bytes that the source held before; ranges of a move may overlap. Raw requests on
regions of the sizes that they give are accepted exactly if they fit the destination, and leave the
bytes that the checked request on the region leaves. So do the entry points, in blocks of any
machine. Whatever is refused, a null pointer among it, is a value error and changes no byte. -/
theorem writes_of_requests (buffer : List UInt8) (addressable : buffer.length < Word.limit) :
    ((∀ src dest count,
        Decided buffer (move buffer src dest count)
          (src + count ≤ buffer.length ∧ dest + count ≤ buffer.length) dest count
          fun i => buffer[src + i]?) ∧
      (∀ source,
        Decided buffer (copy buffer source) (source.length ≤ buffer.length) 0 source.length
          fun i => source[i]?) ∧
      ∀ byte count,
        Decided buffer (fill buffer byte count) (count ≤ buffer.length) 0 count
          fun _ => some byte) ∧
    ((∀ src dest count destSize,
        src + count ≤ buffer.length → dest + destSize ≤ buffer.length →
          Decided buffer (moveRegion buffer src dest count destSize) (count ≤ destSize) dest count
              (fun i => buffer[src + i]?) ∧
            (count ≤ destSize →
              moveRegion buffer src dest count destSize = move buffer src dest count)) ∧
      (∀ source srcSize destSize overlapping,
        srcSize ≤ source.length → destSize ≤ buffer.length →
          let result := copyRegion (some buffer) (some source) destSize srcSize overlapping
          Decided buffer result (srcSize ≤ destSize) 0 srcSize (fun i => source[i]?) ∧
            behind buffer result =
              behind (buffer.take destSize) (copy (buffer.take destSize) (source.take srcSize)) ++
                buffer.drop destSize) ∧
      (∀ byte count destSize, destSize ≤ buffer.length →
        let result := fillRegion (some buffer) destSize byte count
        Decided buffer result (count ≤ destSize) 0 count (fun _ => some byte) ∧
          behind buffer result =
            behind (buffer.take destSize) (fill (buffer.take destSize) byte count) ++
              buffer.drop destSize) ∧
      (∀ dest src destSize srcSize overlapping, dest = none ∨ src = none →
        Refused (dest.getD []) (copyRegion dest src destSize srcSize overlapping)) ∧
      ∀ destSize byte count, Refused [] (fillRegion none destSize byte count)) ∧
    ∀ machine : Machine,
      (∀ dest src destSize srcSize overlapping,
        dest.offset + destSize ≤ (machine.bytes dest.block).length →
          src.offset + srcSize ≤ (machine.bytes src.block).length →
            overlapping = true ∨ Apart dest src destSize srcSize →
              Answered machine
                (Boundary.copy (some dest) destSize (some src) srcSize overlapping machine)
                (srcSize ≤ destSize) dest.block dest.offset srcSize
                fun i => (machine.bytes src.block)[src.offset + i]?) ∧
      (∀ dest value count destSize, destSize ≤ (machine.bytes dest).length →
        Answered machine (Boundary.fill (some dest) value count destSize machine)
          (count ≤ destSize) dest 0 count fun _ => some (UInt8.ofNat (value % 256).toNat)) ∧
      (∀ dest src destSize srcSize overlapping, dest = none ∨ src = none →
        Declined machine (Boundary.copy dest destSize src srcSize overlapping machine)) ∧
      ∀ value count destSize,
        Declined machine (Boundary.fill none value count destSize machine) := by
  refine ⟨⟨decided_move addressable, decided_copy buffer, decided_fill buffer⟩,
    ⟨?_, ?_, ?_, ?_, ?_⟩, fun machine => ⟨?_, ?_, ?_, ?_⟩⟩
  · intro src dest count destSize readable writable
    exact ⟨decided_moveRegion writable readable,
      moveRegion_eq_move addressable writable readable⟩
  · intro source srcSize destSize overlapping readable writable
    exact ⟨decided_copyRegion writable readable overlapping,
      behind_copyRegion writable readable overlapping⟩
  · intro byte count destSize writable
    exact ⟨decided_fillRegion writable byte count, behind_fillRegion writable byte count⟩
  · intro dest src destSize srcSize overlapping missing
    exact refused_copyRegion destSize srcSize overlapping missing
  · intro destSize byte count
    exact ⟨⟨_, rfl, rfl⟩, rfl⟩
  · intro dest src destSize srcSize overlapping writable readable _
    exact answered_copy writable readable overlapping
  · intro dest value count destSize writable
    exact answered_fill writable value count
  · intro dest src destSize srcSize overlapping missing
    exact declined_copy destSize srcSize overlapping missing machine
  · intro value count destSize
    exact ⟨rfl, rfl⟩

/-- Ranges that overlap to either side, an empty move at the very end, and an offset with which the
word wraps. -/
theorem writes_of_requests_overlapping :
    let buffer : List UInt8 := [97, 98, 99, 100, 101, 102]
    let forth : List UInt8 := [97, 98, 97, 98, 99, 100]
    let back : List UInt8 := [99, 100, 101, 102, 101, 102]
    buffer.length < Word.limit ∧
      (move buffer 0 2 4 = .ok forth ∧ Overwritten buffer forth 2 4 fun i => buffer[0 + i]?) ∧
      (moveRegion buffer 2 0 4 5 = .ok back ∧ move buffer 2 0 4 = .ok back) ∧
      (∃ after, move buffer 6 6 0 = .ok after ∧ Overwritten buffer after 6 0 fun i => buffer[6 + i]?) ∧
      Refused buffer (move buffer 0xFFFFFFFFFFFFFFFF 0 2) := by
  intro buffer forth back
  have addressable : buffer.length < Word.limit := by decide
  obtain ⟨⟨moves, -⟩, ⟨rawMoves, -⟩, -⟩ := writes_of_requests buffer addressable
  refine ⟨addressable, ⟨rfl, ?_⟩, ⟨rfl, ?_⟩, ?_, ?_⟩
  · obtain ⟨after, met, overwritten⟩ := (moves 0 2 4).met (by decide)
    obtain rfl : forth = after := Except.ok.inj met
    exact overwritten
  · exact ((rawMoves 2 0 4 5 (by decide) (by decide)).2 (by decide)).symm
  · exact (moves 6 6 0).met (by decide)
  · exact (moves 0xFFFFFFFFFFFFFFFF 0 2).refused (by decide)

end Bounded

end Underlay
