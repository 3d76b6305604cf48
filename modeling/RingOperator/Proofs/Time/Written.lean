import Mathlib.Data.List.TakeDrop
import Mathlib.Data.List.TakeWhile
import Mathlib.Tactic.SplitIfs
import RingOperator.Proofs.Text.Numeral
import RingOperator.Time.Written

/-!
# Instants that are read back

An instant is told by its date and time in any zone (`writeIn`), and it is read back from
each of these texts as the same instant (`read_writeIn`). Each part of the text is read up
to the next mark: a number of fixed width (`Reader.number_padded`), a year with or without a
sign (`Reader.year_text`), the fraction of the second, whose missing digits are zeros
(`Reader.nanos_fraction`), and the offset of the zone (`Reader.offset_text`). What the
calendar makes of the date is the day that it was made from.
-/

namespace RingOperator

open Text

theorem Text.not_isBlank_of_isDigit {c : Char} (digit : c.isDigit = true) : isBlank c = false := by
  obtain ⟨least, greatest⟩ : 48 ≤ c.toNat ∧ c.toNat ≤ 57 := by
    simpa [Char.isDigit, UInt32.le_iff_toNat_le] using digit
  simp [isBlank, inRanges, blankRanges]
  omega

/-- The months of a date are twelve, and its days at most thirty-one. -/
theorem Calendar.date_bounds (n : Int) : (1 ≤ (date n).month ∧ (date n).month ≤ 12) ∧
    1 ≤ (date n).day ∧ (date n).day ≤ 31 := by
  obtain ⟨-, day⟩ := count_bounds n
  have month : 0 ≤ monthOfDay (count n).day ∧ monthOfDay (count n).day < 12 := by
    unfold monthOfDay
    omega
  simp only [date, Count.date]
  split_ifs <;> simp only [monthOfDay, daysBeforeMonth] at * <;> omega

/-- A day earlier or later is at most one era away. -/
theorem Calendar.year_near {m n : Int} (near : m - 1 ≤ n ∧ n ≤ m + 1) :
    (date m).year - 801 ≤ (date n).year ∧ (date n).year ≤ (date m).year + 801 := by
  obtain ⟨before, -⟩ := count_bounds m
  obtain ⟨after, -⟩ := count_bounds n
  have eras : (count m).era - 1 ≤ (count n).era ∧ (count n).era ≤ (count m).era + 1 := by
    simp only [count]
    omega
  simp only [date, Count.date]
  split_ifs <;> simp only <;> omega

namespace Instant

/-! ## Zones -/

/-- The offset of a zone from UTC. -/
inductive Zone where
  /-- The letter for UTC, capital or small. -/
  | letter (capital : Bool)
  | east (hours : Fin 24) (minutes : Fin 60)
  | west (hours : Fin 24) (minutes : Fin 60)
  deriving DecidableEq

namespace Zone

/-- How many seconds the zone is ahead of UTC. -/
def seconds : Zone → Int
  | letter _ => 0
  | east hours minutes => hours.val * 3600 + minutes.val * 60
  | west hours minutes => -(hours.val * 3600 + minutes.val * 60)

/-- The mark of the zone. -/
def text : Zone → String
  | letter true => "Z"
  | letter false => "z"
  | east hours minutes => "+" ++ pair hours.val ++ ":" ++ pair minutes.val
  | west hours minutes => "-" ++ pair hours.val ++ ":" ++ pair minutes.val

theorem seconds_bounds (zone : Zone) : -86400 < zone.seconds ∧ zone.seconds < 86400 := by
  cases zone <;> simp only [seconds] <;> omega

end Zone

/-- An instant by the date and time of a zone. -/
def writeIn (zone : Zone) (t : Instant) : String := (t.addSeconds zone.seconds).civil ++ zone.text

/-- The year of an instant in UTC. -/
def year (t : Instant) : Int := (Calendar.date (t.second / secondsPerDay)).year

/-- An instant of a clock: a year of four digits, and leap seconds only at the end of a minute. -/
structure IsCivil (t : Instant) : Prop where
  year : 0 ≤ t.year ∧ t.year ≤ 9999
  nano : t.nano < 2 * nanosPerSecond
  leap : t.isLeap = true → t.second % 60 = 59

namespace Reader

variable {rest : List Char} {n : Nat}

theorem trimStart_digits {cs : List Char} (digits : ∀ c ∈ cs, c.isDigit = true) (some' : cs ≠ []) :
    trimStart (cs ++ rest) = cs ++ rest := by
  obtain ⟨c, cs, rfl⟩ := List.exists_cons_of_ne_nil some'
  exact List.dropWhile_cons_of_neg (by
    simp [not_isBlank_of_isDigit (digits c List.mem_cons_self)])

theorem number_padded {width : Nat} (positive : 0 < width) (h : n < 10 ^ width) :
    number width ((Numeral.padded width n).toList ++ rest) = some (n, rest) := by
  have digits (c : Char) (among : c ∈ (Numeral.padded width n).toList) : c.isDigit = true :=
    Numeral.isDigit_of_mem_padded among
  have length := Numeral.length_padded positive h
  have taken : ((Numeral.padded width n).toList ++ rest).take width =
      (Numeral.padded width n).toList := List.take_left' length
  rw [number, trimStart_digits digits (Numeral.padded_ne_nil width n)]
  simp only [taken, List.takeWhile_eq_self_iff.2 digits, List.isEmpty_eq_false_iff.2
    (Numeral.padded_ne_nil width n), Bool.false_eq_true, if_false, Numeral.value_padded,
    List.drop_left]

theorem number_pair {i : Int} (bounds : 0 ≤ i ∧ i < 100) :
    number 2 ((pair i).toList ++ rest) = some (i.toNat, rest) :=
  number_padded (by decide) (by omega)

theorem unlimited_padded {width : Nat} (stop : ∀ c ∈ rest.head?, c.isDigit = false) :
    year.unlimited ((Numeral.padded width n).toList ++ rest) = some (n, rest) := by
  obtain ⟨taken, left⟩ :=
    Numeral.takeWhile_append (fun c => @Numeral.isDigit_of_mem_padded width n c) stop
  rw [year.unlimited, List.span_eq_takeWhile_dropWhile, taken, left]
  simp only [List.isEmpty_eq_false_iff.2 (Numeral.padded_ne_nil width n), Bool.false_eq_true,
    if_false, Numeral.value_padded]

/-- A year of four digits is read as a number of at most four. -/
theorem year_padded (h : n < 10 ^ 4) :
    year ((Numeral.padded 4 n).toList ++ rest) = some ((n : Int), rest) := by
  have digits (c : Char) (among : c ∈ (Numeral.padded 4 n).toList) : c.isDigit = true :=
    Numeral.isDigit_of_mem_padded among
  have unsigned (sign : Char) (cs : List Char) (h : sign.isDigit = false) :
      (Numeral.padded 4 n).toList ++ rest ≠ sign :: cs := fun same => by
    have front : sign ∈ (Numeral.padded 4 n).toList := by
      rw [← List.cons_head_tail (Numeral.padded_ne_nil 4 n), List.cons_append] at same
      exact (List.cons_eq_cons.1 same).1 ▸ List.head_mem _
    exact absurd (digits sign front) (by simp [h])
  rw [year, trimStart_digits digits (Numeral.padded_ne_nil 4 n)]
  split
  · rename_i same
    exact absurd same (unsigned '-' _ rfl)
  · rename_i same
    exact absurd same (unsigned '+' _ rfl)
  · rw [number_padded (by decide) h, Option.map_some]

/-- A year behind its sign is read up to what is no digit. -/
theorem year_signed (stop : ∀ c ∈ rest.head?, c.isDigit = false) :
    year ('-' :: ((Numeral.padded 4 n).toList ++ rest)) = some (-(n : Int), rest) ∧
      year ('+' :: ((Numeral.padded 4 n).toList ++ rest)) = some ((n : Int), rest) := by
  have solid (sign : Char) (h : isBlank sign = false) (cs : List Char) :
      trimStart (sign :: cs) = sign :: cs := List.dropWhile_cons_of_neg (by simp [h])
  rw [year, year, solid '-' (by decide), solid '+' (by decide)]
  simp only [unlimited_padded stop, Option.map_some, and_self]

/-- A year is read up to the mark behind it, whether it has a sign or four digits. -/
theorem year_text (y : Int) (stop : ∀ c ∈ rest.head?, c.isDigit = false) :
    year ((yearText y).toList ++ rest) = some (y, rest) := by
  obtain ⟨minus, plus⟩ := @year_signed rest y.natAbs stop
  rw [yearText]
  split_ifs with four negative
  · rw [year_padded (by omega), Int.toNat_of_nonneg four.1]
  · rw [String.toList_append, List.append_assoc]
    rw [show -(y.natAbs : Int) = y by omega] at minus
    exact minus
  · rw [String.toList_append, List.append_assoc]
    rw [show (y.natAbs : Int) = y by omega, show y.natAbs = y.toNat by omega] at plus
    exact plus

theorem mark_cons {c : Char} (solid : isBlank c = false) : mark c (c :: rest) = some rest := by
  rw [mark, trimStart, List.dropWhile_cons_of_neg (by simp [solid])]
  exact if_pos rfl

theorem nanos_padded {width : Nat} (positive : 0 < width) (short : width ≤ 9)
    (h : n < 10 ^ width) (stop : ∀ c ∈ rest.head?, c.isDigit = false) :
    nanos ('.' :: ((Numeral.padded width n).toList ++ rest)) =
      some (n * 10 ^ (9 - width), rest) := by
  have digits (c : Char) (among : c ∈ (Numeral.padded width n).toList) : c.isDigit = true :=
    Numeral.isDigit_of_mem_padded among
  have length := Numeral.length_padded positive h
  have nine : ((Numeral.padded width n).toList ++ rest).take 9 =
      (Numeral.padded width n).toList ++ rest.take (9 - width) := by
    rw [List.take_append, length, List.take_of_length_le (by omega)]
  obtain ⟨taken, -⟩ := @Numeral.takeWhile_append _ (rest.take (9 - width)) digits (by
    cases rest with
    | nil => simp
    | cons c rest =>
      cases 9 - width with
      | zero => simp
      | succ k => exact stop)
  obtain ⟨-, left⟩ := Numeral.takeWhile_append digits stop
  rw [nanos, nine, taken, left]
  simp only [List.isEmpty_eq_false_iff.2 (Numeral.padded_ne_nil width n), Bool.false_eq_true,
    if_false, Numeral.value_padded, length, Nat.pow_eq]

/-- The fraction of a second is read as its nanoseconds. -/
theorem nanos_fraction {nano : Nat} (h : nano < nanosPerSecond)
    (stop : ∀ c ∈ rest.head?, c.isDigit = false ∧ c ≠ '.') :
    nanos ((Instant.fraction nano).toList ++ rest) = some (nano, rest) := by
  have ends (c : Char) (front : c ∈ rest.head?) : c.isDigit = false := (stop c front).1
  rw [nanosPerSecond] at h
  rw [Instant.fraction]
  split_ifs with none' millis micros
  · subst none'
    cases rest with
    | nil => rfl
    | cons c rest =>
      have other := (stop c rfl).2
      simp [nanos, other]
  · rw [String.toList_append, List.append_assoc]
    refine (nanos_padded (by decide) (by decide) (by omega) ends).trans ?_
    congr 2
    omega
  · rw [String.toList_append, List.append_assoc]
    refine (nanos_padded (by decide) (by decide) (by omega) ends).trans ?_
    congr 2
    omega
  · rw [String.toList_append, List.append_assoc]
    exact (@nanos_padded rest nano 9 (by decide) (by decide) (by omega) ends).trans
      (by rw [Nat.sub_self, Nat.pow_zero, Nat.mul_one])

theorem toList_pair {n : Nat} (h : n < 100) : (pair n).toList =
    [Numeral.digitChar (n / 10), Numeral.digitChar (n % 10)] := by
  rw [pair, Int.toNat_natCast, Numeral.toList_padded, Numeral.digits]
  split_ifs with small
  · rw [Nat.div_eq_of_lt small, Nat.mod_eq_of_lt small]
    rfl
  · rw [Numeral.digits, if_pos (by omega)]
    rfl

/-- Hours and minutes are read as seconds. -/
theorem offsetDigits_pair (hours : Fin 24) (minutes : Fin 60) :
    offsetDigits ((pair hours.val).toList ++ ':' :: (pair minutes.val).toList) =
      some ((hours.val : Int) * 3600 + minutes.val * 60, []) := by
  have digit (n : Nat) : (Numeral.digitChar (n % 10)).isDigit = true :=
    Numeral.isDigit_digitChar (Nat.mod_lt n (by decide))
  have tens (n : Nat) (h : n < 100) : (Numeral.digitChar (n / 10)).isDigit = true :=
    Numeral.isDigit_digitChar (by omega)
  have value (n : Nat) (h : n < 100) :
      Numeral.value [Numeral.digitChar (n / 10), Numeral.digitChar (n % 10)] = n := by
    rw [← toList_pair h]
    exact Numeral.value_padded 2 n
  have solid : ¬ (Numeral.digitChar (minutes.val / 10) = ':' ∨
      isBlank (Numeral.digitChar (minutes.val / 10)) = true) := by
    rintro (same | blank)
    · exact absurd (same ▸ tens minutes.val (by omega)) (by decide)
    · rw [not_isBlank_of_isDigit (tens minutes.val (by omega))] at blank
      cases blank
  rw [toList_pair (by omega), toList_pair (by omega), List.cons_append, List.cons_append,
    List.nil_append, offsetDigits, List.dropWhile_cons_of_pos (by decide),
    List.dropWhile_cons_of_neg (by simpa using solid)]
  have few : Numeral.digitValue (Numeral.digitChar (minutes.val / 10)) < 6 := by
    rw [Numeral.digitValue_digitChar (by omega)]
    omega
  simp only [digit, tens hours.val (by omega), tens minutes.val (by omega), few, Bool.and_self,
    decide_true, if_true, value hours.val (by omega), value minutes.val (by omega)]

theorem offset_east (cs : List Char) : offset ('+' :: cs) = offsetDigits cs := by
  rw [offset, trimStart, List.dropWhile_cons_of_neg (by decide)]
  rfl

theorem offset_west (cs : List Char) :
    offset ('-' :: cs) = (offsetDigits cs).map fun (n, rest) => (-n, rest) := by
  rw [offset, trimStart, List.dropWhile_cons_of_neg (by decide)]
  rfl

theorem offset_text (zone : Zone) : offset zone.text.toList = some (zone.seconds, []) := by
  have spelled (sign : Char) (hours : Fin 24) (minutes : Fin 60) :
      (String.singleton sign ++ pair hours.val ++ ":" ++ pair minutes.val).toList =
        sign :: ((pair hours.val).toList ++ ':' :: (pair minutes.val).toList) := by
    simp
  rcases zone with (_ | _) | ⟨hours, minutes⟩ | ⟨hours, minutes⟩
  · decide
  · decide
  · refine (congrArg offset (spelled '+' hours minutes)).trans ?_
    rw [offset_east, offsetDigits_pair]
    rfl
  · refine (congrArg offset (spelled '-' hours minutes)).trans ?_
    rw [offset_west, offsetDigits_pair]
    rfl

theorem exists_text (zone : Zone) : ∃ c cs, zone.text.toList = c :: cs ∧ c.isDigit = false ∧
    c ≠ '.' := by
  rcases zone with (_ | _) | _ | _
  · exact ⟨'z', [], rfl, rfl, by decide⟩
  · exact ⟨'Z', [], rfl, rfl, by decide⟩
  · exact ⟨'+', _, by simp [Zone.text]; rfl, rfl, by decide⟩
  · exact ⟨'-', _, by simp [Zone.text]; rfl, rfl, by decide⟩

end Reader

/-! ## Instants -/

/-- A date, a time of day and a zone as they are written. -/
def spelling (date : Calendar.Date) (hour minute second : Int) (nano : Nat) (zone : Zone) :
    String :=
  yearText date.year ++ "-" ++ pair date.month ++ "-" ++ pair date.day ++ "T" ++ pair hour ++
    ":" ++ pair minute ++ ":" ++ pair second ++ fraction nano ++ zone.text

open Reader in
/-- What is spelled is read part by part. -/
theorem read_spelling {date : Calendar.Date} {hour minute second : Int} {nano : Nat}
    (month : 0 ≤ date.month ∧ date.month < 100) (day : 0 ≤ date.day ∧ date.day < 100)
    (hours : 0 ≤ hour ∧ hour < 24) (minutes : 0 ≤ minute ∧ minute < 60)
    (seconds : 0 ≤ second ∧ second ≤ 60) (nanos : nano < nanosPerSecond) (zone : Zone)
    {n : Int} (dated : Calendar.day? date = some n) (covered : isCovered date.year = true)
    {t : Instant} (same : t = {
      second := n * secondsPerDay + hour * 3600 + minute * 60 +
        (if second = 60 then 59 else second) - zone.seconds
      nano := nano + if second = 60 then nanosPerSecond else 0 })
    (utc : isCovered t.year = true) :
    read (spelling date hour minute second nano zone) = some t := by
  obtain ⟨mark', text', spelled, stops⟩ := exists_text zone
  have whole : (spelling date hour minute second nano zone).toList =
      (yearText date.year).toList ++ '-' :: ((pair date.month).toList ++
        '-' :: ((pair date.day).toList ++ 'T' :: ((pair hour).toList ++
          ':' :: ((pair minute).toList ++ ':' :: ((pair second).toList ++
            ((fraction nano).toList ++ mark' :: text')))))) := by
    simp only [spelling, String.toList_append, String.reduceToList, List.append_assoc,
      List.cons_append, List.nil_append, ← spelled]
  have offset' := offset_text zone
  rw [spelled] at offset'
  have date' : (⟨date.year, date.month.toNat, date.day.toNat⟩ : Calendar.Date) = date := by
    rw [Int.toNat_of_nonneg month.1, Int.toNat_of_nonneg day.1]
  have bounds := zone.seconds_bounds
  rw [read, whole]
  refine Option.bind_eq_some_iff.2 ⟨_, year_text _ (by simp), ?_⟩
  refine Option.bind_eq_some_iff.2 ⟨_, mark_cons (by decide), ?_⟩
  refine Option.bind_eq_some_iff.2 ⟨_, number_pair month, ?_⟩
  refine Option.bind_eq_some_iff.2 ⟨_, mark_cons (by decide), ?_⟩
  refine Option.bind_eq_some_iff.2 ⟨_, number_pair day, ?_⟩
  refine Option.bind_eq_some_iff.2 ⟨_, rfl, ?_⟩
  refine Option.bind_eq_some_iff.2 ⟨_, number_pair ⟨hours.1, by omega⟩, ?_⟩
  refine Option.bind_eq_some_iff.2 ⟨_, mark_cons (by decide), ?_⟩
  refine Option.bind_eq_some_iff.2 ⟨_, number_pair ⟨minutes.1, by omega⟩, ?_⟩
  refine Option.bind_eq_some_iff.2 ⟨_, mark_cons (by decide), ?_⟩
  refine Option.bind_eq_some_iff.2 ⟨_, number_pair ⟨seconds.1, by omega⟩, ?_⟩
  refine Option.bind_eq_some_iff.2 ⟨_, nanos_fraction nanos fun c (front : c ∈
    (mark' :: text').head?) => Option.some.inj front ▸ stops, ?_⟩
  refine Option.bind_eq_some_iff.2 ⟨_, offset', ?_⟩
  dsimp only
  rw [date']
  refine Option.bind_eq_some_iff.2 ⟨_, dated, ?_⟩
  -- The time of day was read as natural numbers.
  have sixty : second.toNat = 60 ↔ second = 60 := by omega
  have shown : (((if second = 60 then 59 else second.toNat) : Nat) : Int) =
      if second = 60 then 59 else second := by
    split_ifs <;> omega
  simp only [sixty, shown, Int.toNat_of_nonneg hours.1, Int.toNat_of_nonneg minutes.1]
  rw [if_pos, same]
  · rfl
  · rw [same] at utc
    exact ⟨rfl, covered, by omega, by omega, by omega, bounds.1, bounds.2, utc⟩

/-- An instant is read as it is written in any zone, as long as its year is covered in UTC and in
the zone. -/
theorem read_writeIn_of_covered (zone : Zone) {t : Instant} (nano : t.nano < 2 * nanosPerSecond)
    (leap : t.isLeap = true → t.second % 60 = 59) (covered : Reader.isCovered t.year = true)
    (there : Reader.isCovered (t.addSeconds zone.seconds).year = true) :
    read (t.writeIn zone) = some t := by
  obtain ⟨second, nanos⟩ := t
  -- Zones are whole minutes apart, so the second of the minute is the same in all of them.
  have minutes : zone.seconds % 60 = 0 := by
    cases zone <;> simp only [Zone.seconds] <;> omega
  have bounds := Calendar.date_bounds ((second + zone.seconds) / secondsPerDay)
  change Reader.isCovered (Calendar.date ((second + zone.seconds) / secondsPerDay)).year = true
    at there
  have inDay : 0 ≤ (second + zone.seconds) % secondsPerDay ∧
      (second + zone.seconds) % secondsPerDay < 86400 := by
    rw [secondsPerDay]
    omega
  have whole : writeIn zone ⟨second, nanos⟩ = spelling
      (Calendar.date ((second + zone.seconds) / secondsPerDay))
      ((second + zone.seconds) % secondsPerDay / 3600)
      ((second + zone.seconds) % secondsPerDay / 60 % 60)
      ((second + zone.seconds) % secondsPerDay % 60 + if isLeap ⟨second, nanos⟩ then 1 else 0)
      (nanos % nanosPerSecond) zone := rfl
  rw [whole]
  simp only [isLeap, decide_eq_true_eq] at leap nano
  have shown : (second + zone.seconds) % secondsPerDay % 60 = second % 60 := by
    rw [secondsPerDay]
    omega
  refine read_spelling (by omega) (by omega) (by omega) (by omega) ?_ (Nat.mod_lt _ (by decide))
    zone (Calendar.day?_date _) there ?_ covered
  · split_ifs <;> omega
  · simp only [isLeap, decide_eq_true_eq, shown]
    rw [Instant.mk.injEq]
    by_cases late : nanosPerSecond ≤ nanos
    -- A leap second is written as second sixty, and its nanoseconds from zero on.
    · have sixty : second % 60 + 1 = 60 := by
        have last := leap late
        omega
      simp only [late, if_true, sixty]
      simp only [secondsPerDay, nanosPerSecond] at *
      omega
    · have other : second % 60 + 0 ≠ 60 := by omega
      simp only [late, if_false, other]
      simp only [secondsPerDay, nanosPerSecond] at *
      omega

/-- So it is if the year has four digits in UTC, whatever it has in the zone. -/
theorem read_writeIn (zone : Zone) {t : Instant} (civil : t.IsCivil) :
    read (t.writeIn zone) = some t := by
  have year := civil.year
  have day : t.second / secondsPerDay - 1 ≤ (t.second + zone.seconds) / secondsPerDay ∧
      (t.second + zone.seconds) / secondsPerDay ≤ t.second / secondsPerDay + 1 := by
    have bounds := zone.seconds_bounds
    rw [secondsPerDay]
    omega
  have near := Calendar.year_near day
  have covered (y : Int) (h : -262143 ≤ y ∧ y ≤ 262142) : Reader.isCovered y = true := by
    simp [Reader.isCovered, h]
  refine read_writeIn_of_covered zone civil.nano civil.leap (covered _ (by omega)) (covered _ ?_)
  rw [Instant.year] at year
  change -262143 ≤ (Calendar.date ((t.second + zone.seconds) / secondsPerDay)).year ∧
    (Calendar.date ((t.second + zone.seconds) / secondsPerDay)).year ≤ 262142
  omega

theorem writeIn_utc (t : Instant) : t.writeIn (.letter true) = t.write := by
  rw [writeIn, Zone.seconds, addSeconds, Int.add_zero]
  rfl

theorem read_write {t : Instant} (civil : t.IsCivil) : read t.write = some t := by
  rw [← writeIn_utc]
  exact read_writeIn _ civil


end Instant

end RingOperator
