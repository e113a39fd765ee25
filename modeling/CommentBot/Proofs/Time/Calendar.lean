import CommentBot.Time.Calendar

/-!
# Days and their numbers

A cycle of 400 years has four centuries, a century has 25 groups of four years, and a longer day may follow the last
year of a group only. `exists_cycleDay` finds the place of a day in its cycle, from which all parts of its date follow.

1. `toDayNumber_ofDayNumber`: the day with a number has that number.
2. `isValid_ofDayNumber`: it is a day of the calendar.
-/

namespace CommentBot.Time

/-- The place of a day in a cycle of 400 years: century, group of four years, year and day, all counted from zero. The
years begin in March. -/
structure CycleDay where
  century : Int
  group : Int
  year : Int
  day : Int
  century_bounds : 0 ≤ century ∧ century ≤ 3
  group_bounds : 0 ≤ group ∧ group ≤ 24
  year_bounds : 0 ≤ year ∧ year ≤ 3
  day_bounds : 0 ≤ day ∧ day ≤ 365
  /-- Only the last year of a group has so many days, unless a century ends with it that does not end the cycle. -/
  leap : day = 365 → year = 3 ∧ (group = 24 → century = 3)

namespace CycleDay

/-- The number of the day in the cycle. -/
def number (p : CycleDay) : Int := 36524 * p.century + 1461 * p.group + 365 * p.year + p.day

/-- The number of the year in the cycle. -/
def yearOfCycle (p : CycleDay) : Int := 100 * p.century + 4 * p.group + p.year

theorem yearOfCycle_bounds (p : CycleDay) : 0 ≤ p.yearOfCycle ∧ p.yearOfCycle < 400 := by
  obtain ⟨b, q, z, d, hb, hq, hz, hd, hleap⟩ := p
  unfold yearOfCycle
  dsimp only
  omega

/-- The days of the years before. -/
theorem number_eq (p : CycleDay) :
    p.number = p.yearOfCycle * 365 + p.yearOfCycle / 4 - p.yearOfCycle / 100 + p.day := by
  obtain ⟨b, q, z, d, hb, hq, hz, hd, hleap⟩ := p
  unfold number yearOfCycle
  dsimp only
  have hfour : (100 * b + 4 * q + z) / 4 = 25 * b + q := by omega
  have hhundred : (100 * b + 4 * q + z) / 100 = b := by omega
  omega

/-- The year, from the number of the day. -/
theorem yearOfCycle_eq (p : CycleDay) :
    (p.number - p.number / 1460 + p.number / 36524 - p.number / 146096) / 365 = p.yearOfCycle := by
  obtain ⟨b, q, z, d, hb, hq, hz, hd, hleap⟩ := p
  unfold number yearOfCycle
  dsimp only
  by_cases hlast : 36524 * b + 1461 * q + 365 * z + d = 146096
  · omega
  · have hcycle : (36524 * b + 1461 * q + 365 * z + d) / 146096 = 0 := by omega
    have hcentury : (36524 * b + 1461 * q + 365 * z + d) / 36524 = b := by omega
    have hgroup : (36524 * b + 1461 * q + 365 * z + d) / 1460 = 25 * b + q ∨
      (36524 * b + 1461 * q + 365 * z + d) / 1460 = 25 * b + q + 1 := by omega
    rw [hcycle, hcentury]
    rcases hgroup with h | h
    · omega
    · omega

/-- The year with the number of cycles before it has a leap day next February. -/
theorem isLeapYear_of_leap (p : CycleDay) (h : p.day = 365) (cycle : Int) :
    isLeapYear (p.yearOfCycle + cycle * 400 + 1) = true := by
  obtain ⟨b, q, z, d, hb, hq, hz, hd, hleap⟩ := p
  obtain ⟨hz', hq'⟩ := hleap h
  unfold isLeapYear yearOfCycle
  simp only [Bool.and_eq_true, Bool.or_eq_true, beq_iff_eq, bne_iff_ne]
  by_cases hlast : q = 24
  · have := hq' hlast
    omega
  · omega

end CycleDay

/-- Each day of a cycle has its place. -/
theorem exists_cycleDay {n : Int} (h : 0 ≤ n ∧ n < 146097) : ∃ p : CycleDay, p.number = n := by
  by_cases hlast : n = 146096
  · exact ⟨⟨3, 24, 3, 365, by decide, by decide, by decide, by decide, by decide⟩, hlast.symm⟩
  · by_cases hleap : n % 36524 % 1461 = 1460
    · refine ⟨⟨n / 36524, n % 36524 / 1461, 3, 365, by omega, by omega, by omega, by omega, by omega⟩, ?_⟩
      unfold CycleDay.number
      dsimp only
      omega
    · refine ⟨⟨n / 36524, n % 36524 / 1461, n % 36524 % 1461 / 365, n % 36524 % 1461 % 365, by omega, by omega,
        by omega, by omega, by omega⟩, ?_⟩
      unfold CycleDay.number
      dsimp only
      omega

/-! ## Months -/

/-- The day of a year that begins in March; days are counted from zero. -/
def dateInYear (year day : Int) : Date :=
  let month := (5 * day + 2) / 153
  { year := year + (if 10 ≤ month then 1 else 0)
    month := (if 10 ≤ month then month - 9 else month + 3).toNat
    day := (day - (153 * month + 2) / 5 + 1).toNat }

theorem ofDayNumber_eq {n : Int} {p : CycleDay} (hp : p.number = (n + 719468) % 146097) :
    Date.ofDayNumber n = dateInYear (p.yearOfCycle + (n + 719468) / 146097 * 400) p.day := by
  have hday : p.number - (365 * p.yearOfCycle + p.yearOfCycle / 4 - p.yearOfCycle / 100) = p.day := by
    rw [p.number_eq]
    omega
  unfold Date.ofDayNumber dateInYear
  dsimp only
  simp only [← hp, p.yearOfCycle_eq, hday]

theorem toDayNumber_dateInYear {year day : Int} (h : 0 ≤ day ∧ day ≤ 365) : (dateInYear year day).toDayNumber =
    year / 400 * 146097 + (year % 400 * 365 + year % 400 / 4 - year % 400 / 100 + day) - 719468 := by
  obtain ⟨m, hm⟩ : ∃ m, m = (5 * day + 2) / 153 := ⟨_, rfl⟩
  have hbounds : 0 ≤ m ∧ m ≤ 11 := by omega
  unfold Date.toDayNumber dateInYear
  dsimp only
  rw [← hm]
  have hmonth : (((if 10 ≤ m then m - 9 else m + 3).toNat + 9) % 12 : Nat) = m.toNat := by
    split <;> omega
  have hyear : (if (if 10 ≤ m then m - 9 else m + 3).toNat ≤ 2 then year + (if 10 ≤ m then 1 else 0) - 1
      else year + (if 10 ≤ m then 1 else 0)) = year := by
    split <;> split <;> omega
  rw [hmonth, hyear]
  omega

theorem isValid_dateInYear {year day : Int} (h : 0 ≤ day ∧ day ≤ 365)
    (hleap : day = 365 → isLeapYear (year + 1) = true) : (dateInYear year day).isValid = true := by
  obtain ⟨m, hm⟩ : ∃ m, m = (5 * day + 2) / 153 := ⟨_, rfl⟩
  unfold Date.isValid dateInYear
  dsimp only
  rw [← hm]
  have hcases : m = 0 ∨ m = 1 ∨ m = 2 ∨ m = 3 ∨ m = 4 ∨ m = 5 ∨ m = 6 ∨ m = 7 ∨ m = 8 ∨ m = 9 ∨ m = 10 ∨ m = 11 := by
    omega
  simp only [Bool.and_eq_true, decide_eq_true_eq]
  rcases hcases with rfl | rfl | rfl | rfl | rfl | rfl | rfl | rfl | rfl | rfl | rfl | rfl
  case inr.inr.inr.inr.inr.inr.inr.inr.inr.inr.inr =>
    by_cases hlast : day = 365
    · simp [daysInMonth, hleap hlast]
      omega
    · have hfebruary : 28 ≤ daysInMonth (year + 1) 2 := by
        show 28 ≤ if isLeapYear (year + 1) then 29 else 28
        split <;> omega
      simp
      omega
  all_goals
    simp [daysInMonth]
    omega

/-! ## Days -/

/-- The day with a number has that number. -/
theorem toDayNumber_ofDayNumber (n : Int) : (Date.ofDayNumber n).toDayNumber = n := by
  obtain ⟨p, hp⟩ := exists_cycleDay (n := (n + 719468) % 146097) (by omega)
  have hyear := p.yearOfCycle_bounds
  have hdiv : (p.yearOfCycle + (n + 719468) / 146097 * 400) / 400 = (n + 719468) / 146097 := by omega
  have hmod : (p.yearOfCycle + (n + 719468) / 146097 * 400) % 400 = p.yearOfCycle := by omega
  have hnumber := p.number_eq
  rw [ofDayNumber_eq hp, toDayNumber_dateInYear p.day_bounds, hdiv, hmod]
  omega

/-- It is a day of the calendar. -/
theorem isValid_ofDayNumber (n : Int) : (Date.ofDayNumber n).isValid = true := by
  obtain ⟨p, hp⟩ := exists_cycleDay (n := (n + 719468) % 146097) (by omega)
  rw [ofDayNumber_eq hp]
  exact isValid_dateInYear p.day_bounds fun h => p.isLeapYear_of_leap h _

end CommentBot.Time
