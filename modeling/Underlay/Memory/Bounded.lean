import Underlay.Failure
import Underlay.Word

/-!
Bounded copies. Each operation first compares what it is asked to write with the room at the
destination; a request that does not fit is refused and writes nothing. Moves behave as if the
source were read whole before the first byte is written, so ranges may overlap.
-/

namespace Underlay.Bounded

/-- The refusal of a request larger than its destination. -/
def overrun (operation what : String) (count capacity : Nat) : Failure :=
  .raise .value
    (what ++ " " ++ toString count ++ " exceeds destination size " ++ toString capacity)
    operation

/-- The bytes of `dest` with those from `offset` on replaced by `bytes`, as far as they reach. -/
def splice (dest : List UInt8) (offset : Nat) (bytes : List UInt8) : List UInt8 :=
  dest.take offset ++ bytes ++ dest.drop (offset + bytes.length)

/-- What a buffer holds behind a request: what the request gives, or what it held before if it is
refused. -/
def behind (before : List UInt8) (result : Except Failure (List UInt8)) : List UInt8 :=
  result.toOption.getD before

/-- Whether `count` bytes may be copied to the front of a buffer of `capacity` bytes. -/
def checkFit (capacity count : Nat) : Except Failure Unit :=
  if capacity < count then
    .error (overrun "copy_checked" "source size" count capacity)
  else
    .ok ()

/-- Copy all of `src` to the front of `dest`. -/
def copy (dest src : List UInt8) : Except Failure (List UInt8) :=
  (checkFit dest.length src.length).map fun _ => splice dest 0 src

/-- Move `count` bytes inside a buffer. -/
def move (buffer : List UInt8) (src dest count : Nat) : Except Failure (List UInt8) :=
  if src + count ≤ buffer.length ∧ dest + count ≤ buffer.length ∧
      src + count < Word.limit ∧ dest + count < Word.limit then
    .ok (splice buffer dest ((buffer.drop src).take count))
  else
    .error (overrun "move_checked" "move of" count buffer.length)

/-- Set the first `count` bytes. -/
def fill (dest : List UInt8) (byte : UInt8) (count : Nat) : Except Failure (List UInt8) :=
  if dest.length < count then
    .error (overrun "fill_checked" "count" count dest.length)
  else
    .ok (splice dest 0 (List.replicate count byte))

/-- The name under which a copy between two regions fails. -/
def regionOperation (overlapping : Bool) : String :=
  if overlapping then "memmove_safe" else "memcpy_safe"

/-- Whether `srcSize` bytes may be copied into a region of `destSize` bytes; a missing region is
a null pointer. -/
def admitCopy (dest src : Bool) (destSize srcSize : Nat) (overlapping : Bool) :
    Except Failure Unit :=
  if !dest || !src then
    .error (.raise .value "null pointer in copy" (regionOperation overlapping))
  else if destSize < srcSize then
    .error (overrun (regionOperation overlapping) "source size" srcSize destSize)
  else
    .ok ()

/-- Whether `count` bytes may be set in a region of `destSize` bytes. -/
def admitFill (dest : Bool) (destSize count : Nat) : Except Failure Unit :=
  if !dest then
    .error (.raise .value "null pointer in fill" "memset_safe")
  else if destSize < count then
    .error (overrun "memset_safe" "count" count destSize)
  else
    .ok ()

/-- Copy the first `srcSize` bytes of one region to the front of another. -/
def copyRegion (dest src : Option (List UInt8)) (destSize srcSize : Nat) (overlapping : Bool) :
    Except Failure (List UInt8) :=
  (admitCopy dest.isSome src.isSome destSize srcSize overlapping).map fun _ =>
    splice (dest.getD []) 0 ((src.getD []).take srcSize)

/-- Copy inside one buffer: `count` bytes at `src` to the region of `destSize` bytes at `dest`. -/
def moveRegion (buffer : List UInt8) (src dest count destSize : Nat) :
    Except Failure (List UInt8) :=
  (admitCopy true true destSize count true).map fun _ =>
    splice buffer dest ((buffer.drop src).take count)

/-- Set the first `count` bytes of a region. -/
def fillRegion (dest : Option (List UInt8)) (destSize : Nat) (byte : UInt8) (count : Nat) :
    Except Failure (List UInt8) :=
  (admitFill dest.isSome destSize count).map fun _ =>
    splice (dest.getD []) 0 (List.replicate count byte)

theorem length_splice {dest bytes : List UInt8} {offset : Nat}
    (room : offset + bytes.length ≤ dest.length) :
    (splice dest offset bytes).length = dest.length := by
  simp only [splice, List.length_append, List.length_take, List.length_drop]
  omega

theorem getElem?_splice {dest bytes : List UInt8} {offset : Nat}
    (room : offset + bytes.length ≤ dest.length) (i : Nat) :
    (splice dest offset bytes)[i]? =
      if offset ≤ i ∧ i < offset + bytes.length then bytes[i - offset]? else dest[i]? := by
  have front : (dest.take offset).length = offset := by
    rw [List.length_take]
    omega
  rw [splice, List.append_assoc]
  by_cases before : i < offset
  · rw [List.getElem?_append_left (by omega), List.getElem?_take_of_lt before, if_neg (by omega)]
  · rw [List.getElem?_append_right (by omega), front]
    by_cases within : i < offset + bytes.length
    · rw [List.getElem?_append_left (by omega), if_pos (by omega)]
    · rw [List.getElem?_append_right (by omega), List.getElem?_drop, if_neg (by omega)]
      congr 1
      omega

end Underlay.Bounded
