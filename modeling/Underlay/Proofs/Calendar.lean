import Mathlib.Algebra.Ring.Nat
import Mathlib.Order.Monotone.Basic
import Mathlib.Tactic.SplitIfs
import Underlay.Conformance.Instant

/-!
# Instants in the calendar

The calendar is told by the lengths of its months and years. Its dates have a number of days since
the beginning of 1970, which is a sum of such lengths, and a later date has more of them. `ofDays`
finds the date of a number of days by a few divisions in years that begin in March. That it is the
right one goes in two steps: where a day stands in its cycle of four hundred years tells its year,
and where it stands in its year tells its month.
-/

namespace Underlay

namespace Date

/-- Every fourth year has a leap day, but of the full centuries only every fourth. -/
def isLeap (year : Nat) : Bool :=
  year % 4 == 0 && (year % 100 != 0 || year % 400 == 0)

def monthLength (leap : Bool) : Nat → Nat
  | 2 => if leap then 29 else 28
  | 4 | 6 | 9 | 11 => 30
  | _ => 31

def yearLength (leap : Bool) : Nat :=
  ((List.range' 1 12).map (monthLength leap)).sum

/-- The date is one of the calendar. -/
structure Valid (date : Date) : Prop where
  month : 1 ≤ date.month ∧ date.month ≤ 12
  day : 1 ≤ date.day ∧ date.day ≤ monthLength (isLeap date.year) date.month

/-- Days from the beginning of 1970 to that of a year. -/
def daysToYear (year : Nat) : Nat :=
  ((List.range' 1970 (year - 1970)).map fun earlier => yearLength (isLeap earlier)).sum

/-- Days from the beginning of a year to that of a month. -/
def daysToMonth (leap : Bool) (month : Nat) : Nat :=
  ((List.range' 1 (month - 1)).map (monthLength leap)).sum

/-- Days from the beginning of 1970 to a date that is not before it. -/
def daysSince (date : Date) : Nat :=
  daysToYear date.year + daysToMonth (isLeap date.year) date.month + (date.day - 1)

def Before (a b : Date) : Prop :=
  a.year < b.year ∨ a.year = b.year ∧ (a.month < b.month ∨ a.month = b.month ∧ a.day < b.day)

/-! Later dates have more days before them. -/

theorem daysToYear_succ {year : Nat} (late : 1970 ≤ year) :
    daysToYear (year + 1) = daysToYear year + yearLength (isLeap year) := by
  obtain ⟨count, rfl⟩ := Nat.exists_eq_add_of_le late
  have count_succ : 1970 + count + 1 - 1970 = count + 1 := by omega
  rw [daysToYear, daysToYear, count_succ, Nat.add_sub_cancel_left, List.range'_1_concat,
    List.map_append, List.sum_append]
  simp

theorem daysToYear_le {year later : Nat} (late : 1970 ≤ year) (order : year ≤ later) :
    daysToYear year ≤ daysToYear later := by
  induction later, order using Nat.le_induction with
  | base => exact Nat.le_refl _
  | succ later order inductionHypothesis =>
      rw [daysToYear_succ (Nat.le_trans late order)]
      omega

theorem daysToMonth_succ (leap : Bool) {month : Nat} (positive : 1 ≤ month) :
    daysToMonth leap (month + 1) = daysToMonth leap month + monthLength leap month := by
  obtain ⟨count, rfl⟩ := Nat.exists_eq_add_of_le positive
  have count_succ : 1 + count + 1 - 1 = count + 1 := by omega
  rw [daysToMonth, daysToMonth, count_succ, Nat.add_sub_cancel_left, List.range'_1_concat,
    List.map_append, List.sum_append]
  simp

theorem daysToMonth_le (leap : Bool) {month later : Nat} (positive : 1 ≤ month)
    (order : month ≤ later) : daysToMonth leap month ≤ daysToMonth leap later := by
  induction later, order using Nat.le_induction with
  | base => exact Nat.le_refl _
  | succ later order inductionHypothesis =>
      rw [daysToMonth_succ leap (Nat.le_trans positive order)]
      omega

/-- A date lies inside of its month. -/
theorem Valid.daysSince_lt_month {date : Date} (valid : date.Valid) :
    date.daysSince < daysToYear date.year + daysToMonth (isLeap date.year) (date.month + 1) := by
  have inside := valid.day
  rw [daysSince, daysToMonth_succ _ valid.month.1]
  omega

/-- A date lies inside of its year. -/
theorem Valid.daysSince_lt_year {date : Date} (valid : date.Valid) (late : 1970 ≤ date.year) :
    date.daysSince < daysToYear (date.year + 1) := by
  have month : daysToMonth (isLeap date.year) (date.month + 1) ≤ yearLength (isLeap date.year) :=
    daysToMonth_le _ (Nat.le_add_left 1 _) (Nat.succ_le_succ valid.month.2)
  have inside := valid.daysSince_lt_month
  rw [daysToYear_succ late]
  omega

theorem daysSince_lt_of_before {a b : Date} (valid : a.Valid) (late : 1970 ≤ a.year)
    (before : a.Before b) : a.daysSince < b.daysSince := by
  rcases before with year | ⟨year, month | ⟨month, day⟩⟩
  · have inside := valid.daysSince_lt_year late
    have years : daysToYear (a.year + 1) ≤ daysToYear b.year :=
      daysToYear_le (Nat.le_succ_of_le late) year
    rw [daysSince.eq_def b]
    omega
  · have inside := valid.daysSince_lt_month
    have months : daysToMonth (isLeap b.year) (a.month + 1) ≤ daysToMonth (isLeap b.year) b.month :=
      daysToMonth_le _ (Nat.le_add_left 1 _) month
    rw [year] at inside
    rw [daysSince.eq_def b]
    omega
  · have first := valid.day.1
    rw [daysSince, daysSince, year, month]
    omega

theorem before_or_eq_or_before (a b : Date) : a.Before b ∨ a = b ∨ b.Before a := by
  obtain ⟨year, month, day⟩ := a
  obtain ⟨year', month', day'⟩ := b
  simp only [Before, mk.injEq]
  omega

/-! Years that begin in March. -/

/-- Days from the first of March of the year zero to that of a year. -/
def daysToMarch (year : Nat) : Nat :=
  365 * year + year / 4 - year / 100 + year / 400

theorem daysToMarch_succ (year : Nat) :
    daysToMarch (year + 1) = daysToMarch year + yearLength (isLeap (year + 1)) := by
  have length : yearLength (isLeap (year + 1)) = if isLeap (year + 1) then 366 else 365 := by
    cases isLeap (year + 1) <;> rfl
  have centuries : year / 100 ≤ 365 * year + year / 4 := by omega
  rw [length, daysToMarch, daysToMarch, Nat.succ_div, Nat.succ_div, Nat.succ_div]
  simp only [isLeap, Nat.dvd_iff_mod_eq_zero, Bool.and_eq_true, Bool.or_eq_true, beq_iff_eq,
    bne_iff_ne]
  split_ifs <;> omega

/-- A year ends ten months after the first of March that lies in it. -/
theorem daysToYear_eq_daysToMarch {year : Nat} (late : 1969 ≤ year) :
    daysToYear (year + 1) + 719162 = daysToMarch year := by
  induction year, late using Nat.le_induction with
  | base => rfl
  | succ year late inductionHypothesis =>
      rw [daysToYear_succ (Nat.succ_le_succ late), daysToMarch_succ]
      dsimp only [Nat.succ_eq_add_one]
      omega

/-- Where a day stands in its cycle: in a century, there in a group of four years, and in a year
of that. Only the last year of a group may have a leap day, and in the last group of a century
only if the century is the last one. -/
structure Stands (place century group year day : Nat) : Prop where
  century_le : century ≤ 3
  group_le : group ≤ 24
  year_le : year ≤ 3
  day_le : day < 365 ∨ day = 365 ∧ year = 3 ∧ (group < 24 ∨ century = 3)
  place_eq : place = 36524 * century + 1461 * group + 365 * year + day

theorem exists_stands {place : Nat} (inside : place < cycle) :
    ∃ century group year day, Stands place century group year day := by
  unfold cycle at inside
  -- The last day of a cycle would begin a fifth century, the last day of a group a fifth year.
  obtain ⟨century, century_eq⟩ : ∃ n, n = min (place / 36524) 3 := ⟨_, rfl⟩
  obtain ⟨inCentury, inCentury_eq⟩ : ∃ n, n = place - 36524 * century := ⟨_, rfl⟩
  obtain ⟨year, year_eq⟩ : ∃ n, n = min (inCentury % 1461 / 365) 3 := ⟨_, rfl⟩
  refine ⟨century, inCentury / 1461, year, inCentury % 1461 - 365 * year, ?_⟩
  constructor <;> omega

namespace Stands

variable {place century group year day : Nat}

/-- The corrections by leap days take the place to the year that it stands in. -/
theorem yearOfCycle (stands : Stands place century group year day) :
    (place - place / 1460 + place / 36524 - place / 146096) / 365 =
      100 * century + 4 * group + year := by
  obtain ⟨century_le, group_le, year_le, day_le, rfl⟩ := stands
  obtain ⟨inCentury, split⟩ : ∃ n, n = 1461 * group + 365 * year + day := ⟨_, rfl⟩
  generalize whole : 36524 * century + 1461 * group + 365 * year + day = place
  have centuries : place / 36524 = century + place / 146096 ∧ place / 146096 ≤ 1 := by
    have bound : inCentury < 36524 ∨ inCentury = 36524 ∧ century = 3 := by omega
    have parts : place = 36524 * century + inCentury := by omega
    clear split whole day_le
    omega
  have groups : place / 1460 = 25 * century + group ∨
      place / 1460 = 25 * century + group + 1 ∧ year = 3 ∧ 0 < day := by omega
  -- The quotients are replaced by what they are: `omega` does not see through all of them at once.
  rw [centuries.1]
  generalize place / 146096 = last at centuries ⊢
  rcases groups with exact | ⟨late, rfl, positive⟩
  · have corrected : place - place / 1460 + (century + last) - last =
        365 * (100 * century + 4 * group + year) + day := by omega
    rw [corrected]
    omega
  · have corrected : place - place / 1460 + (century + last) - last =
        365 * (100 * century + 4 * group + 3) + (day - 1) := by omega
    rw [corrected]
    omega

/-- The years before the one that it stands in end where the year begins. -/
theorem yearStart (stands : Stands place century group year day) :
    365 * (100 * century + 4 * group + year) + (100 * century + 4 * group + year) / 4 -
      (100 * century + 4 * group + year) / 100 + day = place := by
  obtain ⟨-, group_le, year_le, -, rfl⟩ := stands
  omega

/-- The day is one of the year, which ends with a leap day if the next one is a leap year. -/
theorem day_lt (stands : Stands place century group year day) (cycles : Nat) :
    day < yearLength (isLeap (100 * century + 4 * group + year + cycles * 400 + 1)) := by
  obtain ⟨century_le, group_le, year_le, day_le, -⟩ := stands
  have leap : isLeap (100 * century + 4 * group + year + cycles * 400 + 1) = true ↔
      year = 3 ∧ (group < 24 ∨ century = 3) := by
    simp only [isLeap, Bool.and_eq_true, Bool.or_eq_true, beq_iff_eq, bne_iff_ne]
    omega
  cases decided : isLeap (100 * century + 4 * group + year + cycles * 400 + 1) with
  | true =>
      change day < 366
      omega
  | false =>
      have common : ¬ (year = 3 ∧ (group < 24 ∨ century = 3)) := by
        rw [← leap, decided]
        exact Bool.false_ne_true
      change day < 365
      omega

end Stands

/-- The date of a day in a year that begins in March. -/
def ofMarch (year day : Nat) : Date :=
  let fromMarch := (5 * day + 2) / 153
  let month := if fromMarch < 10 then fromMarch + 3 else fromMarch - 9
  { year := year + if month ≤ 2 then 1 else 0
    month
    day := day - (153 * fromMarch + 2) / 5 + 1 }

/-! The months of such a year, of which the tenth begins a year of the calendar. -/

theorem ofMarch_of_lt {year day : Nat} (early : (5 * day + 2) / 153 < 10) :
    ofMarch year day =
      { year, month := (5 * day + 2) / 153 + 3,
        day := day - (153 * ((5 * day + 2) / 153) + 2) / 5 + 1 } := by
  simp [ofMarch, early]

theorem ofMarch_of_le {year day : Nat} (late : 10 ≤ (5 * day + 2) / 153) (inside : day < 366) :
    ofMarch year day =
      { year := year + 1, month := (5 * day + 2) / 153 - 9,
        day := day - (153 * ((5 * day + 2) / 153) + 2) / 5 + 1 } := by
  have second : (5 * day + 2) / 153 - 9 ≤ 2 := by omega
  simp [ofMarch, Nat.not_lt.mpr late, second]

theorem month_of_lt (leap : Bool) {fromMarch : Nat} (early : fromMarch < 10) :
    daysToMonth leap (fromMarch + 3) + 306 = (153 * fromMarch + 2) / 5 + yearLength leap ∧
      (153 * fromMarch + 2) / 5 + monthLength leap (fromMarch + 3) =
        (153 * (fromMarch + 1) + 2) / 5 := by
  revert leap fromMarch
  decide

theorem month_of_le (leap : Bool) {fromMarch : Nat} (late : 10 ≤ fromMarch)
    (inside : fromMarch < 12) :
    daysToMonth leap (fromMarch - 9) + 306 = (153 * fromMarch + 2) / 5 ∧
      (153 * fromMarch + 2) / 5 + monthLength leap (fromMarch - 9) =
        min ((153 * (fromMarch + 1) + 2) / 5) (yearLength leap) := by
  revert leap fromMarch
  decide

theorem yearLength_le (leap : Bool) : yearLength leap ≤ 366 := by
  cases leap <;> decide

theorem daysToMarch_mono : Monotone daysToMarch := by
  apply monotone_nat_of_le_succ
  intro year
  rw [daysToMarch_succ]
  exact Nat.le_add_right _ _

/-- What comes ten months behind the beginning of March 1969 lies in 1970. -/
theorem le_of_daysBefore_le {year day : Nat} (late : daysBefore ≤ daysToMarch year + day) :
    (day < yearLength (isLeap (year + 1)) → 1969 ≤ year) ∧ (day < 306 → 1970 ≤ year) := by
  have last : daysToMarch 1969 = 719162 := rfl
  unfold daysBefore at late
  constructor
  · intro inside
    by_contra old
    have march := daysToMarch_mono (by omega : year + 1 ≤ 1969)
    rw [daysToMarch_succ] at march
    omega
  · intro early
    by_contra old
    have march := daysToMarch_mono (by omega : year ≤ 1969)
    omega

/-- The date is one of the calendar, and if it does not lie before 1970, then its days since the
beginning of 1970 are those since the first of March of the year zero, but for a constant. -/
theorem ofMarch_spec {year day : Nat} (inside : day < yearLength (isLeap (year + 1))) :
    (ofMarch year day).Valid ∧
      (daysBefore ≤ daysToMarch year + day → 1970 ≤ (ofMarch year day).year ∧
        (ofMarch year day).daysSince + daysBefore = daysToMarch year + day) := by
  have bound := yearLength_le (isLeap (year + 1))
  by_cases early : (5 * day + 2) / 153 < 10
  · obtain ⟨before, length⟩ := month_of_lt (isLeap year) early
    rw [ofMarch_of_lt early]
    refine ⟨⟨?_, ?_⟩, ?_⟩
    · dsimp only
      omega
    · dsimp only
      omega
    · intro late
      have year_le : 1970 ≤ year := (le_of_daysBefore_le late).2 (by omega)
      have years := daysToYear_eq_daysToMarch (Nat.le_of_succ_le year_le)
      rw [daysToYear_succ year_le] at years
      refine ⟨year_le, ?_⟩
      dsimp only [daysSince, daysBefore]
      omega
  · have late : 10 ≤ (5 * day + 2) / 153 := Nat.le_of_not_lt early
    obtain ⟨before, length⟩ := month_of_le (isLeap (year + 1)) late (by omega)
    rw [ofMarch_of_le late (by omega)]
    refine ⟨⟨?_, ?_⟩, ?_⟩
    · dsimp only
      omega
    · dsimp only
      omega
    · intro late
      have year_le : 1969 ≤ year := (le_of_daysBefore_le late).1 inside
      have years := daysToYear_eq_daysToMarch year_le
      refine ⟨Nat.succ_le_succ year_le, ?_⟩
      dsimp only [daysSince, daysBefore]
      omega

theorem daysToMarch_add (year cycles : Nat) (inside : year < 400) :
    daysToMarch (year + cycles * 400) =
      365 * year + year / 4 - year / 100 + cycle * cycles := by
  have small : year / 400 = 0 := Nat.div_eq_of_lt inside
  unfold daysToMarch cycle
  omega

theorem ofDays_spec (days : Nat) :
    (ofDays days).Valid ∧ 1970 ≤ (ofDays days).year ∧ (ofDays days).daysSince = days := by
  obtain ⟨century, group, year, day, stands⟩ :=
    exists_stands (Nat.mod_lt (days + daysBefore) (by decide : 0 < cycle))
  have start := stands.yearStart
  have split := Nat.mod_add_div (days + daysBefore) cycle
  have inside := stands.day_lt ((days + daysBefore) / cycle)
  have bounded : 100 * century + 4 * group + year < 400 := by
    have := stands.century_le
    have := stands.group_le
    have := stands.year_le
    omega
  have march := daysToMarch_add (100 * century + 4 * group + year)
    ((days + daysBefore) / cycle) bounded
  have found : ofDays days = ofMarch
      (100 * century + 4 * group + year + (days + daysBefore) / cycle * 400) day := by
    have dayOfYear : (days + daysBefore) % cycle -
        (365 * (100 * century + 4 * group + year) + (100 * century + 4 * group + year) / 4 -
          (100 * century + 4 * group + year) / 100) = day := by omega
    rw [← dayOfYear, ← stands.yearOfCycle]
    rfl
  obtain ⟨valid, since⟩ := ofMarch_spec inside
  rw [found]
  obtain ⟨late, same⟩ := since (by omega)
  exact ⟨valid, late, by omega⟩

/-- Dates come in the order of their days. -/
theorem before_ofDays_iff (days later : Nat) :
    days < later ↔ (ofDays days).Before (ofDays later) := by
  obtain ⟨valid, late, since⟩ := ofDays_spec days
  obtain ⟨validLater, lateLater, sinceLater⟩ := ofDays_spec later
  constructor
  · intro order
    rcases before_or_eq_or_before (ofDays days) (ofDays later) with before | same | before
    · exact before
    · rw [same] at since
      omega
    · have back := daysSince_lt_of_before validLater lateLater before
      omega
  · intro before
    have order := daysSince_lt_of_before valid late before
    omega

/-! Subtraction that is refused where it would fall below zero. -/

def minus? (a b : Nat) : Option Nat :=
  if b ≤ a then some (a - b) else none

theorem minus?_of_le {a b : Nat} (enough : b ≤ a) : minus? a b = some (a - b) :=
  if_pos enough

def yearOfCycle? (place : Nat) : Option Nat := do
  let grouped ← minus? place (place / 1460)
  let corrected ← minus? (grouped + place / 36524) (place / 146096)
  return corrected / 365

def dayOfYear? (place year : Nat) : Option Nat := do
  let begun ← minus? (365 * year + year / 4) (year / 100)
  minus? place begun

def ofMarch? (year day : Nat) : Option Date := do
  let fromMarch := (5 * day + 2) / 153
  let month ← if fromMarch < 10 then some (fromMarch + 3) else minus? fromMarch 9
  let earlier ← minus? day ((153 * fromMarch + 2) / 5)
  return { year := year + if month ≤ 2 then 1 else 0, month, day := earlier + 1 }

/-- The way of `ofDays`, with every subtraction refused where it would fall below zero. -/
def ofDays? (days : Nat) : Option Date := do
  let shifted := days + daysBefore
  let year ← yearOfCycle? (shifted % cycle)
  let day ← dayOfYear? (shifted % cycle) year
  ofMarch? (year + shifted / cycle * 400) day

theorem yearOfCycle?_of_lt {place : Nat} (inside : place < cycle) :
    yearOfCycle? place =
      some ((place - place / 1460 + place / 36524 - place / 146096) / 365) := by
  have corrected : place / 146096 ≤ place - place / 1460 + place / 36524 := by
    unfold cycle at inside
    omega
  rw [yearOfCycle?, minus?_of_le (Nat.div_le_self _ _), Option.bind_eq_bind, Option.bind_some,
    minus?_of_le corrected]
  rfl

theorem ofMarch?_eq (year day : Nat) : ofMarch? year day = some (ofMarch year day) := by
  have earlier : (153 * ((5 * day + 2) / 153) + 2) / 5 ≤ day := by omega
  unfold ofMarch? ofMarch
  dsimp only
  rw [minus?_of_le earlier]
  split
  · rfl
  · rename_i late
    rw [minus?_of_le (by omega)]
    rfl

/-- No subtraction on the way falls below zero. -/
theorem ofDays?_eq (days : Nat) : ofDays? days = some (ofDays days) := by
  have inside := Nat.mod_lt (days + daysBefore) (by decide : 0 < cycle)
  obtain ⟨century, group, year, day, stands⟩ := exists_stands inside
  have start := stands.yearStart
  rw [ofDays?, yearOfCycle?_of_lt inside, Option.bind_eq_bind, Option.bind_some,
    stands.yearOfCycle, dayOfYear?, minus?_of_le (by omega), Option.bind_eq_bind, Option.bind_some,
    minus?_of_le (by omega), Option.bind_some, ofMarch?_eq, ← stands.yearOfCycle]
  rfl

end Date

/-- A text shows a number in base ten, with zeros in front only up to a width. -/
structure Shows (text : String) (width n : Nat) : Prop where
  digits : ∀ c ∈ text.toList, c.isDigit = true
  value : Nat.ofDigitChars 10 text.toList 0 = n
  wide : width ≤ text.length
  tight : width < text.length → 10 ^ (text.length - 1) ≤ n

theorem shows_decimal {width : Nat} (positive : 0 < width) (n : Nat) :
    Shows (decimal width n) width n := by
  have length : (decimal width n).length = max width (Nat.toDigits 10 n).length := by
    simp only [decimal, String.length_ofList, List.length_append, List.length_replicate]
    omega
  refine ⟨?_, ?_, ?_, ?_⟩
  · intro c inside
    simp only [decimal, String.toList_ofList, List.mem_append, List.mem_replicate] at inside
    rcases inside with ⟨-, rfl⟩ | digit
    · rfl
    · exact Nat.isDigit_of_mem_toDigits (by decide) (by decide) digit
  · rw [decimal, String.toList_ofList, Nat.ofDigitChars_append, Nat.ofDigitChars_replicate_zero,
      Nat.mul_zero]
    exact Nat.ofDigitChars_ten_toDigits
  · rw [length]
    exact Nat.le_max_left _ _
  · intro wider
    rw [length] at wider ⊢
    by_contra small
    have short := (Nat.length_toDigits_le_iff (by decide) (by omega)).mpr (Nat.not_le.mp small)
    omega

namespace Instant

/-- Instants are shown in the calendar: the date is the one that lies as many days behind the
beginning of 1970 as the seconds fill, it goes with the days one to one and in their order, and the
time of the day makes up for the other seconds. -/
theorem calendar_of_render (i : Instant) :
    let days := i.seconds / 86400
    let date := Date.ofDays days
    date.Valid ∧ 1970 ≤ date.year ∧ date.daysSince = days ∧
      (∀ later, days < later ↔ date.Before (Date.ofDays later)) ∧
      (∀ other, date = Date.ofDays other ↔ days = other) ∧
      Date.ofDays? days = some date ∧
      ∃ year month day hour minute second milliseconds : String, ∃ h m s,
        i.render = year ++ "-" ++ month ++ "-" ++ day ++ "T" ++ hour ++ ":" ++ minute ++ ":" ++
          second ++ "." ++ milliseconds ++ "Z" ∧
        Shows year 4 date.year ∧ Shows month 2 date.month ∧ Shows day 2 date.day ∧
        Shows hour 2 h ∧ Shows minute 2 m ∧ Shows second 2 s ∧
        Shows milliseconds 3 i.milliseconds ∧
        h < 24 ∧ m < 60 ∧ s < 60 ∧ 3600 * h + 60 * m + s = i.seconds % 86400 := by
  intro days date
  obtain ⟨valid, late, since⟩ := Date.ofDays_spec days
  refine ⟨valid, late, since, Date.before_ofDays_iff days, ?_, Date.ofDays?_eq days, ?_⟩
  · intro other
    constructor
    · intro same
      rw [← since, ← (Date.ofDays_spec other).2.2]
      exact congrArg Date.daysSince same
    · rintro rfl
      rfl
  · have two (n : Nat) : Shows (decimal 2 n) 2 n := shows_decimal (by decide) n
    refine ⟨_, _, _, _, _, _, _, _, _, _, ?_, shows_decimal (by decide) _, two _, two _,
      two (i.seconds % 86400 / 3600), two (i.seconds % 86400 % 3600 / 60),
      two (i.seconds % 86400 % 60), shows_decimal (by decide) _, ?_⟩
    · simp only [render, Date.render, String.append_assoc]
      rfl
    · omega

example : ({ seconds := 951782400, milliseconds := 5 } : Instant).render =
    "2000-02-29T00:00:00.005Z" := by
  decide +kernel

end Instant

end Underlay
