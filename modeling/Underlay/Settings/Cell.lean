import Underlay.Settings

/-!
The cell that caches one setting in a machine word. Two words stand for no value: one while nobody
has looked for it yet, the other while a reader is at work. The first reader claims the cell, reads
the environment and publishes what it found; a setter stores its word at any time. Every load,
store and exchange on the cell is one step, so readers and setters may interleave in any order. A
reader that finds another one at work answers the default and does not wait.
-/

namespace Underlay

/-- The texts of the environment that settings may come from. -/
structure Environment where
  tracking : Option String := none
  poolCapacity : Option String := none
deriving DecidableEq, Repr, Inhabited

namespace Environment

def trackingLevel (e : Environment) : Tracking :=
  (e.tracking.map Tracking.ofText).getD .off

def capacity (e : Environment) : Nat :=
  (e.poolCapacity.map PoolCapacity.ofText).getD PoolCapacity.default

theorem capacity_ne (e : Environment) : e.capacity ≠ 0 ∧ e.capacity ≠ Word.limit - 1 := by
  unfold capacity
  cases e.poolCapacity with
  | none => exact PoolCapacity.default_ne
  | some text => exact PoolCapacity.ofText_ne text

end Environment

namespace Tracking

/-- The word that a level is kept as. -/
def word : Tracking → Nat
  | off => 1
  | stats => 2
  | trace => 3

def ofWord : Nat → Tracking
  | 2 => stats
  | 3 => trace
  | _ => off

theorem ofWord_word (level : Tracking) : ofWord level.word = level := by
  cases level <;> rfl

theorem word_ne (level : Tracking) : level.word ≠ 0 ∧ level.word ≠ 255 := by
  cases level <;> decide

end Tracking

/-- How one setting is kept in a word. No value is kept as one of the words without a value. -/
structure Cell (α : Type) where
  /-- The word while nobody has looked for a value. -/
  unresolved : Nat
  /-- The word while a reader is at work. -/
  resolving : Nat
  /-- The word that a setter stores. -/
  word : α → Nat
  /-- The word that a reader publishes. -/
  found : Environment → Nat
  meaning : Nat → α
  default : α
  distinct : unresolved ≠ resolving
  word_ne (a : α) : word a ≠ unresolved ∧ word a ≠ resolving
  found_ne (e : Environment) : found e ≠ unresolved ∧ found e ≠ resolving

namespace Cell

def tracking : Cell Tracking where
  unresolved := 0
  resolving := 255
  word := Tracking.word
  found e := e.trackingLevel.word
  meaning := Tracking.ofWord
  default := .off
  distinct := by decide
  word_ne := Tracking.word_ne
  found_ne e := e.trackingLevel.word_ne

def poolCapacity : Cell Nat where
  unresolved := 0
  resolving := Word.limit - 1
  word := PoolCapacity.accept
  found := Environment.capacity
  meaning := id
  default := PoolCapacity.default
  distinct := by decide
  word_ne := PoolCapacity.accept_ne
  found_ne := Environment.capacity_ne

variable {α : Type}

/-- What a load means to a reader that does not wait. -/
def read (c : Cell α) (word : Nat) : α :=
  if word = c.unresolved ∨ word = c.resolving then c.default else c.meaning word

/-- Where a reader stands. -/
inductive Reader (α : Type) where
  | start
  | claim
  | lost
  | publish
  | last
  | done (answer : α)
deriving DecidableEq, Repr

namespace Reader

/-- One atomic step of a reader, on the word of the cell. -/
def step (c : Cell α) (e : Environment) : Reader α → Nat → Reader α × Nat
  | start, word =>
      if word = c.resolving then (done c.default, word)
      else if word = c.unresolved then (claim, word)
      else (done (c.meaning word), word)
  | claim, word => if word = c.unresolved then (publish, c.resolving) else (lost, word)
  | lost, word => (done (c.read word), word)
  -- A setter may have stored its word while the environment was being read; that word stays.
  | publish, word => (last, if word = c.resolving then c.found e else word)
  | last, word => (done (c.read word), word)
  | done a, word => (done a, word)

/-- Steps in a row, with nobody else at work. -/
def steps (c : Cell α) (e : Environment) : Nat → Reader α → Nat → Reader α × Nat
  | 0, reader, word => (reader, word)
  | count + 1, reader, word =>
      let (reader, word) := reader.step c e word
      steps c e count reader word

def answer? : Reader α → Option α
  | done a => some a
  | _ => none

end Reader

/-- The answer of a reader that works alone: four steps end it. -/
def get (c : Cell α) (e : Environment) (word : Nat) : α :=
  ((Reader.steps c e 4 .start word).1.answer?).getD c.default

end Cell

/-- The settings that are in force after the first reading of each cell. -/
def Environment.settings (e : Environment) : Settings where
  tracking := Cell.tracking.get e Cell.tracking.unresolved
  poolCapacity := Cell.poolCapacity.get e Cell.poolCapacity.unresolved

end Underlay
