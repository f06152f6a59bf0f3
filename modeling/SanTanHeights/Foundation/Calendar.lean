import Mathlib.Tactic.NormNum
import SanTanHeights.Foundation.Text

/-!
# Calendar dates

The proleptic Gregorian calendar, counted from the first of January of year
one, and the ISO text of an instant in UTC.  Years and months are both found
by walking over periods of given lengths.
-/

namespace Foundation.Calendar

/-! ## Periods -/

/-- The period in which a day falls and the day within it, counting periods
from `index` and looking past at most `fuel` of them. -/
def locate (length : Nat → Nat) : Nat → Nat → Nat → Nat × Nat
  | 0, index, day => (index, day)
  | fuel + 1, index, day =>
      if day < length index then (index, day)
      else locate length fuel (index + 1) (day - length index)

/-- The days of the periods that `locate` looks at. -/
def total (length : Nat → Nat) : Nat → Nat → Nat
  | 0, index => length index
  | fuel + 1, index => length index + total length fuel (index + 1)

variable {length : Nat → Nat}

theorem le_locate (fuel index day : Nat) : index ≤ (locate length fuel index day).1 := by
  induction fuel generalizing index day with
  | zero => exact Nat.le_refl index
  | succ fuel ih =>
      rw [locate]
      split_ifs
      · exact Nat.le_refl index
      · have later := ih (index + 1) (day - length index)
        omega

theorem locate_le (fuel index day : Nat) : (locate length fuel index day).1 ≤ index + fuel := by
  induction fuel generalizing index day with
  | zero => exact Nat.le_refl index
  | succ fuel ih =>
      rw [locate]
      split_ifs
      · exact Nat.le_add_right index (fuel + 1)
      · have later := ih (index + 1) (day - length index)
        omega

/-- A day that the periods reach falls within its period. -/
theorem locate_lt {fuel index day : Nat} (reached : day < total length fuel index) :
    (locate length fuel index day).2 < length (locate length fuel index day).1 := by
  induction fuel generalizing index day with
  | zero => exact reached
  | succ fuel ih =>
      rw [total] at reached
      rw [locate]
      split_ifs with within
      · exact within
      · apply ih
        omega

/-- Different days are located differently. -/
theorem locate_inj {fuel index day other : Nat}
    (same : locate length fuel index day = locate length fuel index other) :
    day = other := by
  induction fuel generalizing index day other with
  | zero => exact (Prod.mk.inj same).2
  | succ fuel ih =>
      have after := fun day : Nat =>
        @le_locate length fuel (index + 1) (day - length index)
      rw [locate, locate] at same
      split_ifs at same with within otherWithin otherWithin
      · exact (Prod.mk.inj same).2
      · have passed := after other
        rw [← same] at passed
        omega
      · have passed := after day
        rw [same] at passed
        omega
      · have rest := ih same
        omega

/-! ## Years and months -/

def isLeap (year : Nat) : Bool :=
  year % 4 = 0 ∧ (year % 100 ≠ 0 ∨ year % 400 = 0)

def daysInYear (year : Nat) : Nat :=
  if isLeap year then 366 else 365

def daysInMonth (year month : Nat) : Nat :=
  if month = 2 then if isLeap year then 29 else 28
  else if month ∈ [4, 6, 9, 11] then 30
  else 31

/-- `_days_before_year`. -/
def daysBeforeYear (year : Nat) : Nat :=
  365 * (year - 1) + (year - 1) / 4 - (year - 1) / 100 + (year - 1) / 400

theorem daysBeforeYear_succ (year : Nat) :
    daysBeforeYear (year + 2) = daysBeforeYear (year + 1) + daysInYear (year + 1) := by
  have fewer := Nat.div_le_self year 100
  have byFour : (year + 1) / 4 = _ := Nat.succ_div
  have byHundred : (year + 1) / 100 = _ := Nat.succ_div
  have byFourHundred : (year + 1) / 400 = _ := Nat.succ_div
  simp only [Nat.dvd_iff_mod_eq_zero] at byFour byHundred byFourHundred
  have last : year + 2 - 1 = year + 1 := by omega
  have hundreds : (year + 1) % 400 = 0 → (year + 1) % 100 = 0 := by omega
  have fours : (year + 1) % 100 = 0 → (year + 1) % 4 = 0 := by omega
  unfold daysBeforeYear daysInYear isLeap
  rw [last, Nat.add_sub_cancel, byFour, byHundred, byFourHundred]
  simp only [decide_eq_true_eq]
  clear byFour byHundred byFourHundred last
  generalize (year + 1) % 4 = four at *
  generalize (year + 1) % 100 = hundred at *
  generalize (year + 1) % 400 = fourHundred at *
  generalize year / 4 = fourths at *
  generalize year / 100 = hundredths at *
  generalize year / 400 = fourHundredths at *
  split_ifs <;> omega

theorem daysBeforeYear_add_total (fuel year : Nat) :
    daysBeforeYear (year + 1) + total daysInYear fuel (year + 1) =
      daysBeforeYear (year + fuel + 2) := by
  induction fuel generalizing year with
  | zero => exact (daysBeforeYear_succ year).symm
  | succ fuel ih =>
      have rest := ih (year + 1)
      have same : year + (fuel + 1) + 2 = year + 1 + fuel + 2 := by omega
      rw [total, same, ← rest, ← Nat.add_assoc, ← daysBeforeYear_succ]

theorem total_daysInMonth (year : Nat) : total (daysInMonth year) 11 1 = daysInYear year := by
  cases leap : isLeap year <;>
    simp [total, daysInMonth, daysInYear, leap]

theorem daysInMonth_le (year month : Nat) : daysInMonth year month ≤ 31 := by
  unfold daysInMonth
  split_ifs <;> omega

/-- `_MAXORDINAL`. -/
def maxOrdinal : Nat := 3652059

/-- A date by its year, its month and the days before it in the month. -/
structure Date where
  year : Nat
  month : Nat
  day : Nat
  deriving DecidableEq

/-- The date some days after the first. -/
def dateOf (ordinal : Nat) : Date :=
  let inYear := locate daysInYear 9998 1 ordinal
  let inMonth := locate (daysInMonth inYear.1) 11 1 inYear.2
  ⟨inYear.1, inMonth.1, inMonth.2⟩

example : dateOf 424 = ⟨2, 3, 0⟩ := by
  decide +kernel

theorem dateOf_injective : Function.Injective dateOf := by
  intro ordinal other same
  simp only [dateOf, Date.mk.injEq] at same
  obtain ⟨year, month, day⟩ := same
  apply locate_inj (Prod.ext year _)
  rw [year] at month day
  exact locate_inj (Prod.ext month day)

/-- Within the calendar the parts of a date fit their notation. -/
theorem dateOf_bounded {ordinal : Nat} (within : ordinal < maxOrdinal) :
    (dateOf ordinal).year < 10000 ∧ (dateOf ordinal).month < 100 ∧
      (dateOf ordinal).day + 1 < 100 := by
  have reached : ordinal < total daysInYear 9998 1 := by
    have years := daysBeforeYear_add_total 9998 0
    simp only [Nat.zero_add, Nat.reduceAdd] at years
    have start : daysBeforeYear 1 = 0 := by rfl
    have stop : daysBeforeYear 10000 = maxOrdinal := by rfl
    omega
  have inYear := locate_lt reached
  rw [← total_daysInMonth] at inYear
  have inMonth := locate_lt inYear
  have yearLe := @locate_le daysInYear 9998 1 ordinal
  have monthLe := @locate_le
    (daysInMonth (locate daysInYear 9998 1 ordinal).1) 11 1
    (locate daysInYear 9998 1 ordinal).2
  have dayLe := daysInMonth_le (dateOf ordinal).year (dateOf ordinal).month
  refine ⟨Nat.lt_succ_of_le yearLe, ?_, ?_⟩
  · exact Nat.lt_of_le_of_lt monthLe (by decide)
  · exact Nat.lt_of_lt_of_le (Nat.succ_lt_succ inMonth)
      (Nat.le_trans (Nat.succ_le_succ dayLe) (by decide))

/-! ## Texts -/

/-- The last `count` decimal digits of a number. -/
def fixedDigits : Nat → Nat → List Char
  | 0, _ => []
  | count + 1, number =>
      fixedDigits count (number / 10) ++ [Nat.digitChar (number % 10)]

@[simp] theorem length_fixedDigits (count number : Nat) :
    (fixedDigits count number).length = count := by
  induction count generalizing number with
  | zero => rfl
  | succ count ih =>
      rw [fixedDigits, List.length_append, ih]
      rfl

theorem digitChar_inj {left right : Nat} (leftSmall : left < 10) (rightSmall : right < 10)
    (same : Nat.digitChar left = Nat.digitChar right) : left = right := by
  have all : ∀ left < 10, ∀ right < 10,
      Nat.digitChar left = Nat.digitChar right → left = right := by decide
  exact all left leftSmall right rightSmall same

theorem fixedDigits_inj {count left right : Nat}
    (leftSmall : left < 10 ^ count) (rightSmall : right < 10 ^ count)
    (same : fixedDigits count left = fixedDigits count right) :
    left = right := by
  induction count generalizing left right with
  | zero => omega
  | succ count ih =>
      obtain ⟨front, last⟩ := List.append_inj' same rfl
      have quotient := ih
        (Nat.div_lt_of_lt_mul (by omega)) (Nat.div_lt_of_lt_mul (by omega))
        front
      have digit := digitChar_inj (Nat.mod_lt left (by decide))
        (Nat.mod_lt right (by decide)) (List.singleton_inj.mp last)
      omega

theorem ne_plus_of_mem_fixedDigits {count number : Nat} {char : Char}
    (present : char ∈ fixedDigits count number) : char ≠ '+' := by
  induction count generalizing number with
  | zero => cases present
  | succ count ih =>
      rw [fixedDigits, List.mem_append, List.mem_singleton] at present
      rcases present with front | rfl
      · exact ih front
      · have all : ∀ digit < 10, Nat.digitChar digit ≠ '+' := by decide
        exact all _ (Nat.mod_lt number (by decide))

/-- The microseconds of a day. -/
def microsPerDay : Nat := 86400000000

/-- `isoformat` of an instant in UTC, without the offset at its end. -/
def isoLocal (instant : Nat) : List Char :=
  let date := dateOf (instant / microsPerDay)
  let micros := instant % microsPerDay
  let seconds := micros / 1000000
  fixedDigits 4 date.year ++ '-' ::
    (fixedDigits 2 date.month ++ '-' :: (fixedDigits 2 (date.day + 1) ++ 'T' ::
        (fixedDigits 2 (seconds / 3600) ++ ':' ::
          (fixedDigits 2 (seconds / 60 % 60) ++ ':' :: (fixedDigits 2 (seconds % 60) ++
              if micros % 1000000 = 0 then []
              else '.' :: fixedDigits 6 (micros % 1000000))))))

/-- `instant.isoformat()`, in UTC. -/
def isoformat (instant : Nat) : String :=
  String.ofList (isoLocal instant ++ ['+', '0', '0', ':', '0', '0'])

theorem ne_plus_of_mem_isoLocal
    {instant : Nat} {char : Char} (present : char ∈ isoLocal instant) :
    char ≠ '+' := by
  have digits : ∀ {count number : Nat},
      char ∈ fixedDigits count number → char ≠ '+' :=
    fun present => ne_plus_of_mem_fixedDigits present
  unfold isoLocal at present
  simp only [List.mem_append, List.mem_cons] at present
  rcases present with year | rfl | month | rfl | day | rfl | hour | rfl |
    minute | rfl | second | micros
  · exact digits year
  · decide
  · exact digits month
  · decide
  · exact digits day
  · decide
  · exact digits hour
  · decide
  · exact digits minute
  · decide
  · exact digits second
  · split_ifs at micros
    · cases micros
    · rcases List.mem_cons.mp micros with rfl | micros
      · decide
      · exact digits micros

/-- An instant of the calendar, in microseconds. -/
structure Instant where
  micros : Nat
  within : micros < maxOrdinal * microsPerDay
  deriving DecidableEq

theorem Instant.day_lt (instant : Instant) : instant.micros / microsPerDay < maxOrdinal := by
  apply Nat.div_lt_of_lt_mul
  rw [Nat.mul_comm]
  exact instant.within

/-- The text of an instant tells it. -/
theorem isoLocal_injective :
    Function.Injective fun instant : Instant => isoLocal instant.micros := by
  rintro ⟨left, leftWithin⟩ ⟨right, rightWithin⟩ same
  have leftDate := dateOf_bounded (Instant.day_lt ⟨left, leftWithin⟩)
  have rightDate := dateOf_bounded (Instant.day_lt ⟨right, rightWithin⟩)
  rw [Instant.mk.injEq]
  have leftRest := Nat.mod_lt left (show 0 < microsPerDay by decide)
  have rightRest := Nat.mod_lt right (show 0 < microsPerDay by decide)
  unfold isoLocal at same
  dsimp only at same
  obtain ⟨year, same⟩ := List.append_inj same (by simp)
  obtain ⟨month, same⟩ := List.append_inj ((List.cons_inj_right _).mp same) (by simp)
  obtain ⟨day, same⟩ := List.append_inj ((List.cons_inj_right _).mp same) (by simp)
  obtain ⟨hour, same⟩ := List.append_inj ((List.cons_inj_right _).mp same) (by simp)
  obtain ⟨minute, same⟩ := List.append_inj ((List.cons_inj_right _).mp same) (by simp)
  obtain ⟨second, micros⟩ := List.append_inj ((List.cons_inj_right _).mp same) (by simp)
  have sameDate : dateOf (left / microsPerDay) =
      dateOf (right / microsPerDay) := by
    have sameYear := fixedDigits_inj leftDate.1 rightDate.1 year
    have sameMonth := fixedDigits_inj leftDate.2.1 rightDate.2.1 month
    have sameDay := fixedDigits_inj leftDate.2.2 rightDate.2.2 day
    cases leftParts : dateOf (left / microsPerDay)
    cases rightParts : dateOf (right / microsPerDay)
    simp only [leftParts, rightParts] at sameYear sameMonth sameDay
    rw [sameYear, sameMonth, Nat.succ.inj sameDay]
  have sameDays := dateOf_injective sameDate
  unfold microsPerDay at leftRest rightRest sameDays hour minute second micros
  have sameHour := fixedDigits_inj (by omega) (by omega) hour
  have sameMinute := fixedDigits_inj (by omega) (by omega) minute
  have sameSecond := fixedDigits_inj (by omega) (by omega) second
  have sameMicros : left % 86400000000 % 1000000 =
      right % 86400000000 % 1000000 := by
    split_ifs at micros with leftWhole rightWhole rightWhole
    · omega
    · exact fixedDigits_inj (by omega) (by omega) ((List.cons_inj_right _).mp micros)
  omega

/-! ## Replacing the offset -/

/-- A pattern that begins with a character that the text before it lacks is
replaced at the end of the text. -/
theorem replaceChars_append {first : Char} {pattern replacement front : List Char} {fuel : Nat}
    (absent : ∀ char ∈ front, char ≠ first) (enough : front.length < fuel) :
    Text.replaceChars (first :: pattern) replacement fuel
        (front ++ first :: pattern) =
      front ++ replacement := by
  induction front generalizing fuel with
  | nil =>
      obtain ⟨fuel, rfl⟩ := Nat.exists_eq_succ_of_ne_zero (Nat.ne_of_gt enough)
      rw [List.nil_append, Text.replaceChars, if_pos (List.prefix_refl _),
        List.drop_length, List.nil_append]
      cases fuel <;> simp [Text.replaceChars]
  | cons char front ih =>
      obtain ⟨fuel, rfl⟩ := Nat.exists_eq_succ_of_ne_zero
        (Nat.ne_of_gt (Nat.lt_of_le_of_lt (Nat.zero_le _) enough))
      have differs := absent char List.mem_cons_self
      rw [List.cons_append, Text.replaceChars, if_neg, ih]
      · rfl
      · exact fun other present => absent other (List.mem_cons_of_mem _ present)
      · exact Nat.lt_of_succ_lt_succ enough
      · intro starts
        exact differs (List.cons_prefix_cons.mp starts).1.symm

/-- `instant.isoformat().replace('+00:00', 'Z')` ends in `Z`. -/
theorem replace_isoformat (instant : Nat) :
    Text.replace "+00:00" "Z" (isoformat instant) = String.ofList (isoLocal instant ++ ['Z']) := by
  have pattern : "+00:00".toList = ['+', '0', '0', ':', '0', '0'] := by rfl
  have replacement : "Z".toList = ['Z'] := by rfl
  unfold Text.replace isoformat
  rw [pattern, replacement, String.toList_ofList]
  congr 1
  apply replaceChars_append
  · exact fun char present => ne_plus_of_mem_isoLocal present
  · rw [List.length_append]
    exact Nat.lt_add_of_pos_right (by decide)

end Foundation.Calendar
