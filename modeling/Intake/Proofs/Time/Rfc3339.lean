import Intake.Proofs.Text.Digits
import Intake.Proofs.Time.Calendar
import Intake.Time.Rfc3339

/-! The text of an instant is read as that instant. -/

namespace Intake

namespace Rfc3339

section Readers

variable {α β : Type}

/-- A reader that takes a value off the front of some characters and leaves the others. -/
def Reads (reader : Reader α) (cs : List Char) (value : α) (rest : List Char) : Prop :=
  reader.run cs = some (value, rest)

/-- A reader goes on with what another one leaves. -/
theorem Reads.bind {first : Reader α} {second : α → Reader β} {cs middle rest : List Char} {value : α}
    {last : β} (before : Reads first cs value middle) (after : Reads (second value) middle last rest) :
    Reads (first >>= second) cs last rest := by
  -- What the first reader leaves is what the second one reads from.
  unfold Reads at *
  rw [StateT.run_bind, before]
  exact after

/-- A value at hand leaves all characters. -/
theorem reads_pure (value : α) (cs : List Char) : Reads (pure value) cs value cs := rfl

/-- The characters can be looked at. -/
theorem reads_get (cs : List Char) : Reads get cs cs cs := rfl

/-- The characters can be set to others. -/
theorem reads_set (cs rest : List Char) : Reads (set rest) cs () rest := rfl

end Readers

variable {rest : List Char}

/-- Where no blank stands, none is passed over. -/
theorem reads_blanks (visible : ∀ c ∈ rest.head?, isBlank c = false) : Reads blanks rest () rest := by
  show some ((), dropBlanks rest) = some ((), rest)
  rw [dropBlanks_of_head visible]

/-- A given character is passed over where it stands. -/
theorem reads_literal (c : Char) (rest : List Char) : Reads (literal c) (c :: rest) () rest := by
  refine (reads_get _).bind ?_
  dsimp only
  rw [if_pos rfl]
  exact reads_set _ _

/-- Where a mark stands, no blank does. -/
theorem visible_cons {c : Char} (visible : isBlank c = false) (cs : List Char) :
    ∀ d ∈ (c :: cs).head?, isBlank d = false := by
  intro d first
  obtain rfl : c = d := by simpa using first
  exact visible

/-- A mark that is no digit ends a number. -/
theorem endsDigits_cons {c : Char} (other : c.isDigit = false) (cs : List Char) : EndsDigits (c :: cs) := by
  intro d first
  obtain rfl : c = d := by simpa using first
  exact other

/-- A mark that is no blank is passed over where it stands. -/
theorem Reads.mark {β : Type} {c : Char} {next : Reader β} {value : β} {last : List Char}
    (visible : isBlank c = false) (after : Reads next rest value last) :
    Reads (do blanks; literal c; next) (c :: rest) value last :=
  (reads_blanks (visible_cons visible rest)).bind ((reads_literal c rest).bind after)

/-- A padded number starts with a digit. -/
theorem exists_paddedDigits (width n : Nat) :
    ∃ c cs, paddedDigits width n = c :: cs ∧ c.isDigit = true := by
  obtain ⟨c, cs, written⟩ := List.exists_cons_of_length_pos (length_paddedDigits_pos width n)
  exact ⟨c, cs, written, isDigit_of_mem_paddedDigits (written ▸ List.mem_cons_self)⟩

/-- A padded number starts with no blank. -/
theorem paddedDigits_visible (width n : Nat) (rest : List Char) :
    ∀ c ∈ (paddedDigits width n ++ rest).head?, isBlank c = false := by
  -- There is at least one digit, and a digit is no blank.
  obtain ⟨d, ds, written, digit⟩ := exists_paddedDigits width n
  intro c first
  rw [written] at first
  obtain rfl : d = c := by simpa using first
  exact isBlank_of_isDigit digit

/-- A padded number is read up to the first character that is no digit, if so many digits are allowed. -/
theorem reads_digits {width n limit : Nat} (ends : EndsDigits rest)
    (fits : (paddedDigits width n).length ≤ limit) :
    Reads (digits limit) (paddedDigits width n ++ rest) n rest := by
  -- There are digits to read, so the reader does not refuse, and it stops where they end.
  refine (reads_get _).bind ?_
  rw [readDigits_paddedDigits ends fits]
  dsimp only
  rw [if_neg (Nat.ne_of_gt (length_paddedDigits_pos width n))]
  exact (reads_set _ _).bind (reads_pure _ _)

/-- A number of two digits is read. -/
theorem reads_number {n : Nat} (ends : EndsDigits rest) (small : n < 100) :
    Reads (number 2) (paddedDigits 2 n ++ rest) n rest := by
  have length := length_paddedDigits (show 0 < 2 by decide) small
  exact (reads_blanks (paddedDigits_visible 2 n rest)).bind (reads_digits ends (Nat.le_of_eq length))

/-- A year of four digits is read, as it starts with no sign. -/
theorem reads_plain_year {y : Nat} (small : y < 10000) (ends : EndsDigits rest) :
    Reads year (paddedDigits 4 y ++ rest) y rest := by
  have length := length_paddedDigits (show 0 < 4 by decide) small
  have counted : Reads (digits 4) (paddedDigits 4 y ++ rest) y rest := reads_digits ends (Nat.le_of_eq length)
  obtain ⟨c, cs, written, digit⟩ := exists_paddedDigits 4 y
  refine (reads_blanks (paddedDigits_visible 4 y rest)).bind ((reads_get _).bind ?_)
  -- Neither of the signs is a digit.
  split
  · rename_i signed
    rw [written] at signed
    cases signed
    cases digit
  · rename_i signed
    rw [written] at signed
    cases signed
    cases digit
  · exact counted.bind (reads_pure _ _)

/-- A year behind a sign is read, however many digits it has. -/
theorem reads_signed_year {c : Char} {y : Int} (sign : c = '-' ∧ y ≤ 0 ∨ c = '+' ∧ 0 ≤ y)
    (ends : EndsDigits rest) : Reads year (c :: (paddedDigits 4 y.natAbs ++ rest)) y rest := by
  -- The sign is read first. It only says which integer of that size was meant.
  have counted : Reads (digits (paddedDigits 4 y.natAbs ++ rest).length) (paddedDigits 4 y.natAbs ++ rest)
      y.natAbs rest := by
    refine reads_digits ends ?_
    rw [List.length_append]
    exact Nat.le_add_right _ _
  rcases sign with ⟨rfl, negative⟩ | ⟨rfl, positive⟩
  all_goals
    refine (reads_blanks (visible_cons rfl _)).bind ((reads_get _).bind ((reads_set _ _).bind (counted.bind ?_)))
  · rw [show -((y.natAbs : Nat) : Int) = y by omega]
    exact reads_pure _ _
  · rw [show ((y.natAbs : Nat) : Int) = y by omega]
    exact reads_pure _ _

/-- A year is read up to the first character that is no digit. -/
theorem reads_year (y : Int) (ends : EndsDigits rest) : Reads year ((yearText y).toList ++ rest) y rest := by
  -- Years of four digits have no sign, all others are written with one.
  unfold yearText
  split
  · rename_i plain
    have read := reads_plain_year (y := y.toNat) (by omega) ends
    rw [String.toList_ofList]
    rwa [Int.toNat_of_nonneg plain.1] at read
  · rw [String.toList_append, String.toList_ofList]
    split
    · exact reads_signed_year (.inl ⟨rfl, by omega⟩) ends
    · exact reads_signed_year (.inr ⟨rfl, by omega⟩) ends

/-- A fraction of so many digits is read in nanoseconds. -/
theorem reads_some_fraction {width n nanos : Nat} (positive : 0 < width) (fits : width ≤ 9)
    (small : n < 10 ^ width) (scaled : n * 10 ^ (9 - width) = nanos) (ends : EndsDigits rest) :
    Reads fraction ('.' :: (paddedDigits width n ++ rest)) nanos rest := by
  have length := length_paddedDigits positive small
  -- The reader skips further digits, of which there are none.
  have nothing : rest.dropWhile (fun c => (digitValue? c).isSome) = rest := by
    cases rest with
    | nil => rfl
    | cons c cs => simp [digitValue?_of_not_isDigit (ends c rfl)]
  refine (reads_get _).bind ?_
  split
  · rename_i pointed
    cases pointed
    rw [readDigits_paddedDigits ends (by rw [length]; exact fits), length]
    dsimp only
    rw [if_neg (Nat.ne_of_gt positive), nothing, ← scaled]
    exact (reads_set _ _).bind (reads_pure _ _)
  · rename_i pointless
    exact absurd rfl (pointless _)

/-- A fraction of a second takes no characters, or a point and the digits of a count of its last unit. -/
theorem fractionText_cases {n : Nat} (small : n < 1000000000) :
    n = 0 ∧ (fractionText n).toList = [] ∨
    ∃ width count, 0 < width ∧ width ≤ 9 ∧ count < 10 ^ width ∧ count * 10 ^ (9 - width) = n ∧
      (fractionText n).toList = '.' :: paddedDigits width count := by
  have point : ∀ digits, ("." ++ String.ofList digits).toList = '.' :: digits := by
    intro digits
    rw [String.toList_append, String.toList_ofList, String.toList_ofList]
    rfl
  -- The fraction has the fewest digits, by threes, that say it in full.
  unfold fractionText
  split
  · rename_i zero
    exact .inl ⟨zero, rfl⟩
  · right
    split
    · rename_i millis
      exact ⟨3, n / 1000000, by decide, by decide, show n / 1000000 < 1000 by omega,
        show n / 1000000 * 1000000 = n by omega, point _⟩
    · split
      · rename_i micros
        exact ⟨6, n / 1000, by decide, by decide, show n / 1000 < 1000000 by omega,
          show n / 1000 * 1000 = n by omega, point _⟩
      · exact ⟨9, n, by decide, by decide, small, Nat.mul_one n, point _⟩

/-- A fraction of a second is read as the nanoseconds it was written for. -/
theorem reads_fraction {n : Nat} (small : n < 1000000000) (ends : EndsDigits rest)
    (whole : ∀ c ∈ rest.head?, c ≠ '.') : Reads fraction ((fractionText n).toList ++ rest) n rest := by
  rcases fractionText_cases small with ⟨rfl, written⟩ | ⟨width, count, positive, fits, few, scaled, written⟩
  · -- Nothing is written for a whole second.
    rw [written, List.nil_append]
    refine (reads_get _).bind ?_
    split
    · exact absurd rfl (whole '.' rfl)
    · exact reads_pure _ _
  · rw [written]
    exact reads_some_fraction positive fits few scaled ends

/-- The characters of a date. -/
def dateChars (d : Date) : List Char :=
  (yearText d.year).toList ++ '-' :: (paddedDigits 2 d.month ++ '-' :: paddedDigits 2 d.day)

/-- The characters of a time of day. -/
def timeChars (time : TimeOfDay) : List Char :=
  paddedDigits 2 time.hour ++ ':' :: (paddedDigits 2 time.minute ++
    ':' :: (paddedDigits 2 time.second ++ (fractionText time.nanos).toList))

/-- A date of the calendar is read up to the time of day behind it. -/
theorem reads_date {d : Date} (valid : d.isValid = true) :
    Reads date (dateChars d ++ 'T' :: rest) d rest := by
  -- A valid month and a valid day have two digits.
  have bounds : d.month < 100 ∧ d.day < 100 := by
    have length := Date.daysInMonth_le d.year d.month
    simp only [Date.isValid, Bool.and_eq_true, decide_eq_true_eq] at valid
    omega
  have day : EndsDigits ('T' :: rest) := endsDigits_cons rfl rest
  simp only [dateChars, List.append_assoc, List.cons_append]
  refine (reads_year _ (endsDigits_cons rfl _)).bind (.mark rfl ?_)
  refine (reads_number (endsDigits_cons rfl _) bounds.1).bind (.mark rfl ?_)
  refine (reads_number day bounds.2).bind ((reads_get _).bind ?_)
  dsimp only
  rw [if_pos (.inl rfl)]
  exact (reads_set _ _).bind (reads_pure _ _)

/-- A time of day as it can be written. -/
structure TimeOfDay.InDigits (time : TimeOfDay) : Prop where
  hour : time.hour < 100
  minute : time.minute < 100
  second : time.second < 100
  nanos : time.nanos < 1000000000

/-- A time of day is read up to the mark for the place behind it. -/
theorem reads_timeOfDay {time : TimeOfDay} (written : time.InDigits) :
    Reads timeOfDay (timeChars time ++ 'Z' :: rest) time ('Z' :: rest) := by
  have place : EndsDigits ('Z' :: rest) := endsDigits_cons rfl rest
  -- Behind the seconds stands the point of a fraction or the mark for the place.
  have seconds : EndsDigits ((fractionText time.nanos).toList ++ 'Z' :: rest) := by
    rcases fractionText_cases written.nanos with ⟨_, text⟩ | ⟨_, _, _, _, _, _, text⟩
    · rw [text]
      exact place
    · rw [text]
      exact endsDigits_cons rfl _
  simp only [timeChars, List.append_assoc, List.cons_append]
  refine (reads_number (endsDigits_cons rfl _) written.hour).bind (.mark rfl ?_)
  refine (reads_number (endsDigits_cons rfl _) written.minute).bind (.mark rfl ?_)
  refine (reads_number seconds written.second).bind ((reads_fraction written.nanos place ?_).bind ?_)
  · intro c first
    obtain rfl : 'Z' = c := by simpa using first
    decide
  · exact (reads_blanks (visible_cons rfl rest)).bind (reads_pure _ _)

/-- The mark for Greenwich is read as no distance from there. -/
theorem reads_offset : Reads offset ['Z'] 0 [] := rfl

variable (t : Instant)

/-- The date of an instant at Greenwich. -/
def dateOf : Date := Date.ofDays (t.nanos / 1000000000 / 86400)

/-- The time of day of an instant at Greenwich. -/
def timeOf : TimeOfDay where
  hour := (t.nanos / 1000000000 % 86400).toNat / 3600
  minute := (t.nanos / 1000000000 % 86400).toNat / 60 % 60
  second := if t.leap then (t.nanos / 1000000000 % 86400).toNat % 60 + 1
    else (t.nanos / 1000000000 % 86400).toNat % 60
  nanos := (t.nanos % 1000000000).toNat

/-- An instant is written as its date and its time of day. -/
theorem text_toList : (text t).toList = dateChars (dateOf t) ++ 'T' :: (timeChars (timeOf t) ++ ['Z']) := by
  -- The marks between the fields are strings of one character.
  have marks : "-".toList = ['-'] ∧ ":".toList = [':'] ∧ "T".toList = ['T'] ∧ "Z".toList = ['Z'] := by decide
  obtain ⟨hyphen, colon, parting, place⟩ := marks
  simp only [text, dateChars, dateOf, timeChars, timeOf, twoDigits, toString, String.toList_append,
    String.toList_ofList, hyphen, colon, parting, place, List.append_assoc, List.cons_append, List.nil_append]

/-- The time of day of an instant is one of a clock. -/
theorem timeOf_bounds : (timeOf t).hour ≤ 23 ∧ (timeOf t).minute ≤ 59 ∧ (timeOf t).second ≤ 60 ∧
    (timeOf t).nanos < 1000000000 := by
  -- A leap second makes it a sixtieth second, and all else are remainders.
  unfold timeOf
  dsimp only
  refine ⟨by omega, by omega, ?_, by omega⟩
  split <;> omega

/-- The days to an instant lie between the first and the last one of the calendar. -/
theorem dateOf_year : -262143 ≤ (dateOf t).year ∧ (dateOf t).year ≤ 262142 := by
  -- Dates ascend with the instants, so that the ends of the instants bound the years.
  have after := t.after
  have before := t.before
  unfold Instant.firstNanos at after
  unfold Instant.lastNanos at before
  have first : (Date.ofDays (Date.toDays ⟨-262143, 1, 1⟩)).year = -262143 := by decide
  have last : (Date.ofDays (Date.toDays ⟨262142, 12, 31⟩)).year = 262142 := by decide
  constructor
  · rw [← first]
    exact Date.year_ofDays_mono (by omega)
  · rw [← last]
    exact Date.year_ofDays_mono (by omega)

/-- The sixtieth second of a minute is a leap second, and it follows the last one. -/
theorem timeOf_second : decide ((timeOf t).second = 60) = t.leap ∧
    (if (timeOf t).second = 60 then 59 else (timeOf t).second) =
      (t.nanos / 1000000000 % 86400).toNat % 60 := by
  -- Only an instant that ends its minute can lie in a leap second.
  have ends := t.endsMinute
  unfold timeOf
  dsimp only
  split
  · rename_i leaps
    have last := ends leaps
    have sixtieth : (t.nanos / 1000000000 % 86400).toNat % 60 + 1 = 60 := by omega
    rw [if_pos sixtieth, leaps]
    exact ⟨decide_eq_true sixtieth, by omega⟩
  · rename_i plain
    have earlier : (t.nanos / 1000000000 % 86400).toNat % 60 ≠ 60 := by omega
    rw [if_neg earlier, Bool.eq_false_iff.mpr plain]
    exact ⟨decide_eq_false earlier, rfl⟩

/-- An instant has its own parts. -/
theorem ofParts?_parts : Instant.ofParts? t.nanos t.leap = some t :=
  dif_pos ⟨t.after, t.before, t.endsMinute⟩

/-- A condition that holds is no hindrance. -/
theorem guard_pos {p : Prop} [Decidable p] (holds : p) : (guard p : Option Unit) = some () := if_pos holds

/-- The instant of a date and a time of day is the one that has them. -/
theorem instant?_of : instant? (dateOf t) (timeOf t) 0 = some t := by
  have valid : (dateOf t).isValid = true := Date.ofDays_isValid _
  have years := dateOf_year t
  obtain ⟨hour, minute, second, _⟩ := timeOf_bounds t
  obtain ⟨leap, last⟩ := timeOf_second t
  -- The days, hours, minutes and seconds add up to those the parts were taken from.
  have days : (dateOf t).toDays = t.nanos / 1000000000 / 86400 := Date.toDays_ofDays _
  have whole : (t.nanos / 1000000000 / 86400 * 86400 + ((timeOf t).hour : Int) * 3600 +
      ((timeOf t).minute : Int) * 60 + (((t.nanos / 1000000000 % 86400).toNat % 60 : Nat) : Int) - 0) *
        1000000000 + ((timeOf t).nanos : Int) = t.nanos := by
    unfold timeOf
    dsimp only
    omega
  have place : (-86400 : Int) < 0 ∧ (0 : Int) < 86400 := by decide
  unfold instant?
  rw [guard_pos valid, guard_pos years, guard_pos ⟨hour, minute, second⟩, guard_pos place]
  simp only [Option.bind_eq_bind, Option.bind_some, leap, last, days, whole]
  exact ofParts?_parts t

/-- The text of an instant is read as that instant. -/
@[simp] theorem parse?_text : parse? (text t) = some t := by
  obtain ⟨hour, minute, second, nanos⟩ := timeOf_bounds t
  have written : (timeOf t).InDigits := ⟨by omega, by omega, by omega, nanos⟩
  -- The three parts are read one after the other, and nothing is left behind the offset.
  have read : Reads (do
      let date ← date
      let time ← timeOfDay
      let offset ← offset
      return (date, time, offset)) (text t).toList (dateOf t, timeOf t, 0) [] := by
    rw [text_toList]
    refine (reads_date (Date.ofDays_isValid _)).bind ?_
    exact (reads_timeOfDay written).bind (reads_offset.bind (reads_pure _ _))
  unfold parse?
  rw [read]
  exact instant?_of t

end Rfc3339

end Intake
