/-
This file holds lengths of time, exact to the nanosecond, and their text. The
same type serves as a moment of the virtual clock: the time since its start.
The clock itself shows whole milliseconds only.
-/

namespace Taskyard

/-- A length of time, or the moment that far after the start of the clock. -/
@[ext]
structure Duration where
  nanos : Nat
deriving DecidableEq, Repr

namespace Duration

def zero : Duration := ⟨0⟩

def ofMillis (millis : Nat) : Duration := ⟨millis * 1000000⟩

def ofSeconds (seconds : Nat) : Duration := ⟨seconds * 1000000000⟩

/-- Whole seconds and the nanoseconds beyond them. -/
def ofParts (seconds nanos : Nat) : Duration := ⟨seconds * 1000000000 + nanos⟩

/-- The whole seconds. -/
def seconds (span : Duration) : Nat := span.nanos / 1000000000

/-- The nanoseconds beyond the whole seconds. -/
def subseconds (span : Duration) : Nat := span.nanos % 1000000000

/-- The whole milliseconds. -/
def millis (span : Duration) : Nat := span.nanos / 1000000

/-- The first whole millisecond at or after a moment: when its timer fires. -/
def firstTick (moment : Duration) : Duration := ofMillis ((moment.nanos + 999999) / 1000000)

instance : Add Duration := ⟨fun first second => ⟨first.nanos + second.nanos⟩⟩

instance : Sub Duration := ⟨fun first second => ⟨first.nanos - second.nanos⟩⟩

instance : LE Duration := ⟨fun first second => first.nanos ≤ second.nanos⟩

instance : LT Duration := ⟨fun first second => first.nanos < second.nanos⟩

instance (first second : Duration) : Decidable (first ≤ second) :=
  inferInstanceAs (Decidable (first.nanos ≤ second.nanos))

instance (first second : Duration) : Decidable (first < second) :=
  inferInstanceAs (Decidable (first.nanos < second.nanos))

/-- The earlier of two moments. -/
def earlier (first second : Duration) : Duration := if first ≤ second then first else second

/-- A moment of the machine's clock counts its seconds in 63 bits. -/
def momentSeconds : Nat := Nat.pow 2 63

/-- Whether the clock can show a moment: a whole millisecond to which it can count. -/
def isShown (moment : Duration) : Bool :=
  decide (moment.firstTick = moment) && decide (moment.seconds < momentSeconds)

/-- The moment a length of time after another, unless the clock cannot count so far. -/
def after? (moment span : Duration) : Option Duration :=
  if (moment + span).seconds < momentSeconds then some (moment + span) else none

/-- The moment at which a sleep is over. One that the clock cannot count to is over after thirty
years. -/
def timer (moment span : Duration) : Duration :=
  (moment.after? span).getD (moment + ofSeconds (86400 * 365 * 30))

theorem isShown_iff {moment : Duration} :
    moment.isShown = true ↔ moment.firstTick = moment ∧ moment.seconds < momentSeconds := by
  simp only [isShown, Bool.and_eq_true, decide_eq_true_eq]

theorem after?_eq_some_iff {moment span later : Duration} : moment.after? span = some later ↔
    (moment + span).seconds < momentSeconds ∧ moment + span = later := by
  simp only [after?, Option.ite_none_right_eq_some, Option.some.injEq]

theorem timer_of_countable {moment span : Duration}
    (countable : (moment + span).seconds < momentSeconds) : moment.timer span = moment + span := by
  rw [timer, after?, if_pos countable, Option.getD_some]

theorem timer_of_uncountable {moment span : Duration}
    (uncountable : momentSeconds ≤ (moment + span).seconds) :
    moment.timer span = moment + ofSeconds (86400 * 365 * 30) := by
  rw [timer, after?, if_neg (Nat.not_lt.mpr uncountable), Option.getD_none]

theorem le_iff {first second : Duration} : first ≤ second ↔ first.nanos ≤ second.nanos := Iff.rfl

theorem lt_iff {first second : Duration} : first < second ↔ first.nanos < second.nanos := Iff.rfl

theorem not_le {first second : Duration} : ¬first ≤ second ↔ second < first := Nat.not_le

/-- A timer does not fire before its moment. -/
theorem le_firstTick (moment : Duration) : moment ≤ moment.firstTick := by
  simp only [le_iff, firstTick, ofMillis]
  omega

/-- A timer fires at the first whole millisecond that is not before its moment. -/
theorem firstTick_le_ofMillis {moment : Duration} {count : Nat} :
    moment.firstTick ≤ ofMillis count ↔ moment ≤ ofMillis count := by
  simp only [le_iff, firstTick, ofMillis]
  omega

theorem firstTick_le_firstTick {first second : Duration} (order : first ≤ second) :
    first.firstTick ≤ second.firstTick :=
  firstTick_le_ofMillis.mpr (Nat.le_trans order second.le_firstTick)

/-- A whole millisecond that is not before a moment, nor after the first one, is the first one. -/
theorem eq_firstTick {moment now : Duration} (whole : now.firstTick = now) (passed : moment ≤ now)
    (onTime : now ≤ moment.firstTick) : now = moment.firstTick :=
  Duration.ext (Nat.le_antisymm onTime (whole ▸ firstTick_le_firstTick passed))

/-- A timer is not set to a moment that has passed. -/
theorem le_timer (moment span : Duration) : moment ≤ moment.timer span := by
  unfold timer after?
  split
  · exact Nat.le_add_right moment.nanos span.nanos
  · exact Nat.le_add_right moment.nanos _

theorem earlier_le_left (first second : Duration) : first.earlier second ≤ first := by
  simp only [earlier, le_iff]
  split <;> omega

theorem earlier_le_right (first second : Duration) : first.earlier second ≤ second := by
  simp only [earlier, le_iff]
  split <;> omega

/-! ### Text -/

/-- The digits after the point, `width` places wide, without trailing zeros. -/
def fractionDigits (width value : Nat) : List Char :=
  let digits := Nat.toDigits 10 value
  let padded := List.replicate (width - digits.length) '0' ++ digits
  (padded.reverse.dropWhile (· == '0')).reverse

/-- A count of `10 ^ width` parts of a unit, as whole units and an exact fraction. -/
def inUnits (width : Nat) (parts : Nat) (unit : String) : String :=
  let unitParts := Nat.pow 10 width
  let whole := toString (parts / unitParts)
  match fractionDigits width (parts % unitParts) with
  | [] => whole ++ unit
  | digits => whole ++ "." ++ String.ofList digits ++ unit

/-- The text of a length of time: the largest unit that fits into it, and the exact fraction. -/
def text (span : Duration) : String :=
  if 1000000000 ≤ span.nanos then inUnits 9 span.nanos "s"
  else if 1000000 ≤ span.nanos then inUnits 6 span.nanos "ms"
  else if 1000 ≤ span.nanos then inUnits 3 span.nanos "µs"
  else inUnits 0 span.nanos "ns"

end Duration

end Taskyard
