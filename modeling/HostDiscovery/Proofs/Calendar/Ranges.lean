import HostDiscovery.Release
import Mathlib.Data.List.Basic
import Mathlib.Data.Nat.Init

/-! Times that there are. Numbers become a time exactly if there is such a day and such a time on
it. The days of such times are counted without a gap, so that a later day has a greater number, and
all that is read off a time has a name. -/
namespace HostDiscovery.CalendarTime

structure InRange (t : CalendarTime) : Prop where
  year : 1 ≤ t.year ∧ t.year ≤ 9999
  month : 1 ≤ t.month ∧ t.month ≤ 12
  day : 1 ≤ t.day ∧ t.day ≤ monthLength t.year t.month
  hour : t.hour ≤ 23
  minute : t.minute ≤ 59
  second : t.second ≤ 59
  microsecond : t.microsecond ≤ 999999

def numbers (t : CalendarTime) : List Int :=
  [t.year, t.month, t.day, t.hour, t.minute, t.second, t.microsecond]

variable {t u : CalendarTime}

lemma fault?_eq_none_iff {year month day hour minute second microsecond : Int} :
    fault? year month day hour minute second microsecond = none ↔
      (1 ≤ year ∧ year ≤ 9999) ∧ (1 ≤ month ∧ month ≤ 12) ∧
        (1 ≤ day ∧ day ≤ monthLength year.toNat month.toNat) ∧ (0 ≤ hour ∧ hour ≤ 23) ∧
          (0 ≤ minute ∧ minute ≤ 59) ∧ (0 ≤ second ∧ second ≤ 59) ∧
            0 ≤ microsecond ∧ microsecond ≤ 999999 := by
  simp only [fault?, Bool.or_eq_true, decide_eq_true_eq]
  split_ifs <;> simp <;> omega

/-- What is left out among the numbers counts as zero. -/
theorem ofNumbers_eq_ok_iff (given : List Int) : ofNumbers given = .ok t ↔
    t.InRange ∧ t.numbers = (List.range 7).map fun i => (given[i]?).getD 0 := by
  have hparts : ((List.range 7).map fun i => (given[i]?).getD 0) =
      [(given[0]?).getD 0, (given[1]?).getD 0, (given[2]?).getD 0, (given[3]?).getD 0,
        (given[4]?).getD 0, (given[5]?).getD 0, (given[6]?).getD 0] := rfl
  rw [hparts]
  unfold ofNumbers
  dsimp only
  generalize (given[0]?).getD 0 = year, (given[1]?).getD 0 = month, (given[2]?).getD 0 = day,
    (given[3]?).getD 0 = hour, (given[4]?).getD 0 = minute, (given[5]?).getD 0 = second,
    (given[6]?).getD 0 = microsecond
  constructor
  · intro h
    split at h
    · cases h
    next hfault =>
      obtain ⟨hyear, hmonth, hday, hhour, hminute, hsecond, hmicrosecond⟩ :=
        fault?_eq_none_iff.mp hfault
      obtain rfl := Except.ok.inj h
      refine ⟨⟨?_, ?_, ?_, ?_, ?_, ?_, ?_⟩, ?_⟩
      all_goals simp [numbers]; omega
  · rintro ⟨hrange, hnumbers⟩
    simp only [numbers, List.cons.injEq, and_true] at hnumbers
    obtain ⟨rfl, rfl, rfl, rfl, rfl, rfl, rfl⟩ := hnumbers
    obtain ⟨hyear, hmonth, hday, hhour, hminute, hsecond, hmicrosecond⟩ := hrange
    have hnone : fault? t.year t.month t.day t.hour t.minute t.second t.microsecond = none := by
      rw [fault?_eq_none_iff]
      simp only [Int.toNat_natCast]
      omega
    rw [hnone]
    rfl

lemma daysOfMonths_succ (year months : Nat) :
    daysOfMonths year (months + 1) = daysOfMonths year months + monthLength year (months + 1) := by
  rw [daysOfMonths, List.take_add_one, List.foldl_append, ← daysOfMonths, monthLength,
    Nat.add_sub_cancel]
  cases (monthLengths year)[months]? <;> rfl

lemma daysOfMonths_le (year : Nat) {months later : Nat} (h : months ≤ later) :
    daysOfMonths year months ≤ daysOfMonths year later := by
  induction later, h using Nat.le_induction with
  | base => exact Nat.le_refl _
  | succ later _ ih =>
    rw [daysOfMonths_succ]
    exact Nat.le_trans ih (Nat.le_add_right _ _)

lemma yearLength_eq (year : Nat) : yearLength year = if isLeap year then 366 else 365 := by
  cases hleap : isLeap year <;> simp [yearLength, daysOfMonths, monthLengths, hleap]

lemma daysBefore_succ {year : Nat} (h : 1 ≤ year) :
    daysBefore (year + 1) = daysBefore year + yearLength year := by
  obtain ⟨past, rfl⟩ := Nat.exists_eq_add_of_le' h
  have hle : past / 100 ≤ past / 4 := Nat.div_le_div_left (by decide) (by decide)
  rw [yearLength_eq]
  simp only [daysBefore, Nat.add_sub_cancel]
  rw [Nat.succ_div, Nat.succ_div, Nat.succ_div]
  simp only [Nat.dvd_iff_mod_eq_zero]
  cases hleap : isLeap (past + 1) with
  | true =>
    simp only [isLeap, Bool.and_eq_true, Bool.or_eq_true, decide_eq_true_eq] at hleap
    rw [if_pos rfl]
    split_ifs <;> omega
  | false =>
    simp only [isLeap, Bool.and_eq_false_iff, Bool.or_eq_false_iff, decide_eq_false_iff_not]
      at hleap
    rw [if_neg Bool.false_ne_true]
    split_ifs <;> omega

lemma daysBefore_le {year later : Nat} (hyear : 1 ≤ year) (h : year ≤ later) :
    daysBefore year ≤ daysBefore later := by
  induction later, h using Nat.le_induction with
  | base => exact Nat.le_refl _
  | succ later hlater ih =>
    rw [daysBefore_succ (Nat.le_trans hyear hlater)]
    exact Nat.le_trans ih (Nat.le_add_right _ _)

lemma yearDay_lt (h : t.InRange) : t.yearDay < daysOfMonths t.year t.month := by
  obtain ⟨months, hmonths⟩ := Nat.exists_eq_add_of_le' h.month.1
  have hday := h.day
  rw [yearDay, hmonths, Nat.add_sub_cancel, daysOfMonths_succ]
  rw [hmonths] at hday
  omega

/-- A later day has a greater number. -/
theorem dayNumber_lt (ht : t.InRange)
    (h : t.year < u.year ∨ t.year = u.year ∧
      (t.month < u.month ∨ t.month = u.month ∧ t.day < u.day)) :
    t.dayNumber < u.dayNumber := by
  obtain hyear | ⟨hyear, hmonth | ⟨hmonth, hday⟩⟩ := h
  · have hend : t.yearDay < yearLength t.year :=
      Nat.lt_of_lt_of_le (yearDay_lt ht) (daysOfMonths_le t.year ht.month.2)
    calc t.dayNumber < daysBefore t.year + yearLength t.year := Nat.add_lt_add_left hend _
      _ = daysBefore (t.year + 1) := (daysBefore_succ ht.year.1).symm
      _ ≤ daysBefore u.year := daysBefore_le (Nat.le_add_left 1 _) hyear
      _ ≤ u.dayNumber := Nat.le_add_right _ _
  · have hbegin : t.yearDay < u.yearDay :=
      calc t.yearDay < daysOfMonths t.year t.month := yearDay_lt ht
        _ ≤ daysOfMonths t.year (u.month - 1) := daysOfMonths_le _ (Nat.le_sub_one_of_lt hmonth)
        _ ≤ u.yearDay := by rw [hyear]; exact Nat.le_add_right _ _
    rw [dayNumber, dayNumber, hyear]
    exact Nat.add_lt_add_left hbegin _
  · have hday' := ht.day
    rw [dayNumber, dayNumber, yearDay, yearDay, hyear, hmonth]
    omega

/-- What is shown of a time that there is: a month and a day of the week by their names, and an hour
of the clock. -/
theorem shown_of_inRange (h : t.InRange) :
    t.monthName ∈ monthNames ∧ t.dayName ∈ dayNames ∧ 1 ≤ t.clockHour ∧ t.clockHour ≤ 12 := by
  have hmonth : t.month - 1 < monthNames.length := by
    have := h.month
    simp only [monthNames, List.length_cons, List.length_nil]
    omega
  have hweekday : t.weekday < dayNames.length := Nat.mod_lt _ (by decide)
  refine ⟨?_, ?_, ?_⟩
  · rw [monthName, List.getElem?_eq_getElem hmonth]
    exact List.getElem_mem hmonth
  · rw [dayName, List.getElem?_eq_getElem hweekday]
    exact List.getElem_mem hweekday
  · unfold clockHour
    split_ifs <;> omega

theorem inRange_current : Release.current.date.InRange := by
  constructor <;> decide

end HostDiscovery.CalendarTime
