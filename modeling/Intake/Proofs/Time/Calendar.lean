import Intake.Time.Calendar

/-! The date of a day count is one of the calendar, and has that day count. -/

namespace Intake

namespace Date

/-- The days of a cycle before one of its years. Years start in March. -/
def daysBeforeYear (year : Nat) : Nat := 365 * year + year / 4 - year / 100

/-- The year of a cycle in which a day of it lies. -/
def yearOfCycle (day : Nat) : Nat := (day - day / 1460 + day / 36524 - day / 146096) / 365

/-- A day lies in a year of a group of four, in a group of a century, in a century of the cycle. Only the
last year of a group may have a leap day. -/
structure Lies (day century group year rest : Nat) : Prop where
  century_lt : century < 4
  group_lt : group < 25
  year_lt : year < 4
  rest_lt : rest < 366
  /-- The last group of a century has no leap day, unless the century is the last one. -/
  leapDay : rest = 365 → year = 3 ∧ (group = 24 → century = 3)
  whole : day = 36524 * century + 1461 * group + 365 * year + rest

/-- Every day of a cycle lies somewhere. -/
theorem exists_lies {day : Nat} (inside : day < 146097) :
    ∃ century group year rest, Lies day century group year rest := by
  -- The last day of the cycle would start a fifth century, and that of a group a fifth year.
  let ofCentury := day - 36524 * min 3 (day / 36524)
  let ofGroup := ofCentury % 1461
  refine ⟨min 3 (day / 36524), ofCentury / 1461, min 3 (ofGroup / 365),
    ofGroup - 365 * min 3 (ofGroup / 365), ?_, ?_, ?_, ?_, ?_, ?_⟩ <;> omega

variable {day century group year rest : Nat}

/-- The year of a day is counted from the start of the cycle. -/
theorem Lies.yearOfCycle_eq (lies : Lies day century group year rest) :
    yearOfCycle day = 100 * century + 4 * group + year := by
  obtain ⟨atCentury, atGroup, atYear, atRest, leapDay, whole⟩ := lies
  unfold yearOfCycle
  rcases Nat.lt_or_ge day 146096 with before | last
  · -- Taking off one day in four years and adding one in a hundred leaves years of 365 days.
    have centuries : day / 36524 = century := by omega
    have cycles : day / 146096 = 0 := by omega
    have groups : day / 1460 =
        25 * century + group + (24 * century + group + 365 * year + rest) / 1460 := by omega
    have few : (24 * century + group + 365 * year + rest) / 1460 ≤ 1 := by omega
    rw [centuries, cycles, groups]
    omega
  · -- The last day of the cycle is the leap day of its last year.
    obtain rfl : century = 3 := by omega
    obtain rfl : group = 24 := by omega
    obtain rfl : year = 3 := by omega
    obtain rfl : rest = 365 := by omega
    rw [whole]

/-- The days before the year of a day, and those of the year before it, are the days before it. -/
theorem Lies.daysBeforeYear_eq (lies : Lies day century group year rest) :
    day = daysBeforeYear (100 * century + 4 * group + year) + rest := by
  -- The leap days passed are one for each group and each century but the last ones.
  obtain ⟨atCentury, atGroup, atYear, atRest, leapDay, whole⟩ := lies
  unfold daysBeforeYear
  omega

/-- A leap day comes before the end of February of a leap year. -/
theorem Lies.leap (lies : Lies day century group year rest) (leapDay : rest = 365) (cycle : Int) :
    isLeapYear (((100 * century + 4 * group + year : Nat) : Int) + cycle * 400 + 1) = true := by
  -- The last day of a leap year has the year's number among those that the rule of 4, 100 and 400
  -- keeps.
  obtain ⟨atCentury, atGroup, atYear, atRest, leaps, whole⟩ := lies
  obtain ⟨rfl, last⟩ := leaps leapDay
  simp only [isLeapYear, Bool.and_eq_true, Bool.or_eq_true, decide_eq_true_eq]
  omega

/-- Every day of a cycle is a day of one of its years, and the last one of it only in a leap year. -/
theorem exists_year {day : Nat} (inside : day < 146097) :
    ∃ rest, yearOfCycle day < 400 ∧ rest < 366 ∧ day = daysBeforeYear (yearOfCycle day) + rest ∧
      (rest = 365 → ∀ cycle : Int, isLeapYear (yearOfCycle day + cycle * 400 + 1) = true) := by
  -- The place of the day in centuries, groups of four and years gives the year, and its rest the day in
  -- it.
  obtain ⟨century, group, year, rest, lies⟩ := exists_lies inside
  refine ⟨rest, ?_, lies.rest_lt, ?_, ?_⟩ <;> rw [lies.yearOfCycle_eq]
  · obtain ⟨atCentury, atGroup, atYear, _⟩ := lies
    omega
  · exact lies.daysBeforeYear_eq
  · exact lies.leap

/-- The month of a day of a year that starts in March, counted from there. -/
def monthFromMarch (rest : Nat) : Nat := (5 * rest + 2) / 153

/-- The date of a day of a year that starts in March. -/
def ofMarchYear (year : Int) (rest : Nat) : Date :=
  let fromMarch := monthFromMarch rest
  if fromMarch < 10 then ⟨year, fromMarch + 3, rest - daysBeforeMonth fromMarch + 1⟩
  else ⟨year + 1, fromMarch - 9, rest - daysBeforeMonth fromMarch + 1⟩

/-- A date is that of a day of a year that starts in March. -/
theorem exists_ofMarchYear (days : Int) : ∃ (cycle : Int) (year rest : Nat),
    ofDays days = ofMarchYear (year + cycle * 400) rest ∧ year < 400 ∧ rest < 366 ∧
      days + 719468 = cycle * 146097 + daysBeforeYear year + rest ∧
      (rest = 365 → isLeapYear (year + cycle * 400 + 1) = true) := by
  -- Days are counted from a cycle that starts in March, and within it the year is found as above.
  let shifted := days + 719468
  let ofCycle := (shifted % 146097).toNat
  have inside : ofCycle < 146097 := by omega
  obtain ⟨rest, atYear, atRest, split, leap⟩ := exists_year inside
  refine ⟨shifted / 146097, yearOfCycle ofCycle, rest, ?_, atYear, atRest, by omega, fun last => leap last _⟩
  have ofYear : ofCycle - daysBeforeYear (yearOfCycle ofCycle) = rest := by omega
  rw [← ofYear]
  rfl

/-- A day lies between the start of its month and that of the next one. -/
theorem month_bounds (rest : Nat) : daysBeforeMonth (monthFromMarch rest) ≤ rest ∧
    rest < daysBeforeMonth (monthFromMarch rest + 1) := by
  unfold daysBeforeMonth monthFromMarch
  omega

/-- A year has twelve months. -/
theorem monthFromMarch_lt {rest : Nat} (inside : rest < 366) : monthFromMarch rest < 12 := by
  unfold monthFromMarch
  omega

/-- Only February is longer in some years than in others. -/
theorem daysInMonth_of_ne {month : Nat} (other : month ≠ 2) (year : Int) :
    daysInMonth year month = daysInMonth 0 month := by
  simp only [daysInMonth, if_neg other]

/-- No month has more than 31 days. -/
theorem daysInMonth_le (year : Int) (month : Nat) : daysInMonth year month ≤ 31 := by
  unfold daysInMonth
  split
  · split <;> decide
  · split <;> decide

/-- From March to December the next month starts when the days of a month are over. -/
theorem daysBeforeMonth_succ_of_early : ∀ month, month < 10 →
    daysBeforeMonth (month + 1) - daysBeforeMonth month = daysInMonth 0 (month + 3) := by
  decide

/-- The date of a day of a year is one of the calendar, where the last day of a leap year is one. -/
theorem ofMarchYear_isValid {year : Int} {rest : Nat} (inside : rest < 366)
    (leap : rest = 365 → isLeapYear (year + 1) = true) : (ofMarchYear year rest).isValid = true := by
  have bounds := month_bounds rest
  have months := monthFromMarch_lt inside
  unfold ofMarchYear
  dsimp only
  split
  · rename_i early
    have length := daysBeforeMonth_succ_of_early _ early
    simp only [isValid, Bool.and_eq_true, decide_eq_true_eq]
    rw [daysInMonth_of_ne (by omega), ← length]
    omega
  · -- January has 31 days, and the year ends with February, which has a day more in a leap year.
    have length : rest - daysBeforeMonth (monthFromMarch rest) + 1 ≤
        daysInMonth (year + 1) (monthFromMarch rest - 9) := by
      rcases (show monthFromMarch rest = 10 ∨ monthFromMarch rest = 11 by omega) with january | february
      · rw [january] at bounds ⊢
        rw [daysInMonth_of_ne (by decide)]
        unfold daysBeforeMonth at *
        show _ ≤ 31
        omega
      · rw [february]
        unfold daysBeforeMonth daysInMonth
        split
        · split
          · omega
          · rename_i common
            have notLast : rest ≠ 365 := fun last => common (leap last)
            omega
        · contradiction
    simp only [isValid, Bool.and_eq_true, decide_eq_true_eq]
    omega

/-- The days to the date of a day of a year. -/
theorem toDays_ofMarchYear {cycle : Int} {year rest : Nat} (ofCycle : year < 400) (inside : rest < 366) :
    (ofMarchYear (year + cycle * 400) rest).toDays =
      cycle * 146097 + daysBeforeYear year + rest - 719468 := by
  have bounds := month_bounds rest
  have months := monthFromMarch_lt inside
  have years : ((year : Int) + cycle * 400) / 400 = cycle ∧ ((year : Int) + cycle * 400) % 400 = year := by
    omega
  unfold ofMarchYear toDays daysBeforeYear
  dsimp only
  -- The months before March belong to the year that started before them.
  split <;> dsimp only
  · have month : monthFromMarch rest + 3 - 3 = monthFromMarch rest := Nat.add_sub_cancel _ _
    rw [if_pos (by omega), if_pos (by omega), month, years.1, years.2]
    omega
  · have month : monthFromMarch rest - 9 + 9 = monthFromMarch rest := Nat.sub_add_cancel (by omega)
    rw [if_neg (by omega), if_neg (by omega), month, Int.add_sub_cancel, years.1, years.2]
    omega

/-- The date of a day count is one of the calendar. -/
theorem ofDays_isValid (days : Int) : (ofDays days).isValid = true := by
  obtain ⟨cycle, year, rest, date, _, inside, _, leap⟩ := exists_ofMarchYear days
  rw [date]
  exact ofMarchYear_isValid inside leap

/-- The date of a day count has that day count. -/
@[simp] theorem toDays_ofDays (days : Int) : (ofDays days).toDays = days := by
  obtain ⟨cycle, year, rest, date, ofCycle, inside, split, _⟩ := exists_ofMarchYear days
  rw [date, toDays_ofMarchYear ofCycle inside]
  omega

/-- The last two months of a year that starts in March belong to the next one. -/
theorem ofMarchYear_year (year : Int) (rest : Nat) :
    (ofMarchYear year rest).year = if rest < 306 then year else year + 1 := by
  -- There are 306 days from March to December.
  unfold ofMarchYear monthFromMarch
  dsimp only
  split <;> split <;> first | rfl | omega

/-- A year starts 365 days after the one before it, or later. -/
theorem daysBeforeYear_of_lt {year later : Nat} (order : year < later) :
    daysBeforeYear year + 365 ≤ daysBeforeYear later := by
  -- Where a century starts, and takes off a day, so does a group of four years, and adds one.
  have centuries : ∀ n, n / 100 = n / 4 / 25 := fun n => (Nat.div_div_eq_div_mul n 4 25).symm
  have groups : year / 4 = later / 4 ∨ year / 4 < later / 4 := by omega
  unfold daysBeforeYear
  rw [centuries year, centuries later]
  rcases groups with same | before
  · rw [same]
    omega
  · omega

/-- The days of a cycle are those before its last year, and its last year. -/
theorem daysBeforeYear_le {year : Nat} (ofCycle : year < 400) : daysBeforeYear year ≤ 145731 := by
  unfold daysBeforeYear
  omega

/-- Later days lie in no earlier years. -/
theorem year_ofDays_mono {earlier later : Int} (order : earlier ≤ later) :
    (ofDays earlier).year ≤ (ofDays later).year := by
  obtain ⟨cycle, year, rest, date, ofCycle, inside, split, _⟩ := exists_ofMarchYear earlier
  obtain ⟨cycle', year', rest', date', ofCycle', inside', split', _⟩ := exists_ofMarchYear later
  rcases Int.le_iff_eq_or_lt.mp order with same | before
  · subst same
    exact Int.le_refl _
  · -- The years go with the days, and within a year the months do.
    have cycles : cycle ≤ cycle' := by
      have := daysBeforeYear_le ofCycle'
      omega
    have years : cycle = cycle' → year ≤ year' := by
      intro same
      refine Nat.le_of_not_lt fun later => ?_
      have := daysBeforeYear_of_lt later
      omega
    have days : cycle = cycle' → year = year' → rest ≤ rest' := by
      rintro same rfl
      omega
    rw [date, date', ofMarchYear_year, ofMarchYear_year]
    split <;> split <;> omega

end Date

end Intake
