import Mathlib.Data.List.TakeWhile
import TenantSearch.Proofs.Calendar
import TenantSearch.Proofs.DecimalDigits

/-! Times and their texts. The forms that are read are spelled out, and reading accepts exactly
these; a time that is read can be written, is read back from what is written, and is the only one
with that text. -/
namespace TenantSearch.Timestamp
open Text (decimal Digits digits?_eq_some literal?_eq_some)

/-! ## Fractions -/

/-- The text of a fraction of a second and its whole nanoseconds: what follows the ninth digit is
cut off. -/
inductive Fraction : Text → ℕ → Prop
  | none : Fraction [] 0
  | some {digits : Text} (given : digits ≠ []) (all : ∀ c ∈ digits, c.isDigit = true) :
      Fraction ('.' :: digits) (decimal digits * 10 ^ 9 / 10 ^ digits.length)

private theorem nanoseconds_eq {digits : Text} (all : ∀ c ∈ digits, c.isDigit = true) :
    nanoseconds digits = decimal digits * 10 ^ 9 / 10 ^ digits.length := by
  rw [nanoseconds]
  generalize filled : digits ++ List.replicate 9 '0' = shifted
  have number : decimal shifted = decimal digits * 10 ^ 9 := by
    rw [← filled, Text.decimal_append, Text.decimal_replicate_zero, List.length_replicate,
      Nat.add_zero]
  have every : ∀ c ∈ shifted.drop 9, c.isDigit = true := by
    intro c member
    rw [← filled] at member
    rcases List.mem_append.mp (List.mem_of_mem_drop member) with digit | zero
    · exact all c digit
    · rw [List.eq_of_mem_replicate zero]
      rfl
  -- The digits behind the ninth one are fewer than a unit of it.
  have rest := Text.decimal_lt every
  have size : (shifted.drop 9).length = digits.length := by simp [← filled]
  rw [size] at rest
  have parts := Text.decimal_append (shifted.take 9) (shifted.drop 9)
  rw [List.take_append_drop, size, number] at parts
  rw [parts, Nat.add_comm, Nat.add_mul_div_right _ _ (Nat.pow_pos (by decide)),
    Nat.div_eq_of_lt rest, Nat.zero_add]

private theorem exists_of_fraction? {text rest : Text} {nanosecond : ℕ}
    (read : fraction? text = some (nanosecond, rest)) :
    ∃ fraction, Fraction fraction nanosecond ∧ text = fraction ++ rest := by
  unfold fraction? at read
  split at read
  · next after =>
    simp only at read
    split at read
    · contradiction
    · next given =>
      obtain ⟨rfl, rfl⟩ := Prod.mk.inj (Option.some.inj read)
      have all : ∀ c ∈ after.takeWhile Char.isDigit, c.isDigit = true :=
        fun c member => List.mem_takeWhile_imp member
      refine ⟨'.' :: after.takeWhile Char.isDigit, ?_, ?_⟩
      · rw [nanoseconds_eq all]
        exact .some (by simpa using given) all
      · rw [List.cons_append, List.takeWhile_append_dropWhile]
  · obtain ⟨rfl, rfl⟩ := Prod.mk.inj (Option.some.inj read)
    exact ⟨[], .none, rfl⟩

private theorem fraction?_append {fraction rest : Text} {nanosecond : ℕ}
    (spelled : Fraction fraction nanosecond)
    (ends : ∀ c ∈ rest.head?, c ≠ '.' ∧ c.isDigit = false) :
    fraction? (fraction ++ rest) = some (nanosecond, rest) := by
  cases spelled with
  | none =>
    cases rest with
    | nil => rfl
    | cons c after => simp [fraction?, (ends c rfl).1]
  | @some digits given all =>
    have stop : rest.takeWhile Char.isDigit = [] := by
      cases rest with
      | nil => rfl
      | cons c after => simp [(ends c rfl).2]
    have taken : (digits ++ rest).takeWhile Char.isDigit = digits := by
      rw [List.takeWhile_append_of_pos all, stop, List.append_nil]
    have dropped : (digits ++ rest).dropWhile Char.isDigit = rest := by
      have whole := @List.takeWhile_append_dropWhile _ Char.isDigit (digits ++ rest)
      rw [taken] at whole
      exact List.append_cancel_left whole
    rw [List.cons_append, fraction?, taken, dropped, nanoseconds_eq all]
    simp [given]

/-! ## Offsets -/

/-- The text of an offset from UTC and its minutes. -/
inductive Offset : Text → ℤ → Prop
  | upper : Offset ['Z'] 0
  | lower : Offset ['z'] 0
  | ahead {hours minutes : Text} {hour minute : ℕ} (first : Digits 2 hours hour)
      (second : Digits 2 minutes minute) (short : hour ≤ 23) (below : minute ≤ 59) :
      Offset ('+' :: hours ++ ':' :: minutes) (60 * hour + minute)
  | behind {hours minutes : Text} {hour minute : ℕ} (first : Digits 2 hours hour)
      (second : Digits 2 minutes minute) (short : hour ≤ 23) (below : minute ≤ 59) :
      Offset ('-' :: hours ++ ':' :: minutes) (-(60 * hour + minute))

private theorem offset?_signed {sign : Char} {hours minutes : Text} {hour minute : ℕ}
    (first : Digits 2 hours hour) (second : Digits 2 minutes minute) (short : hour ≤ 23)
    (below : minute ≤ 59) : offset? (sign :: hours ++ ':' :: minutes) =
      if sign = '+' then some (60 * (hour : ℤ) + minute)
      else if sign = '-' then some (-(60 * (hour : ℤ) + minute))
      else none := by
  have hoursRead : Text.digits? 2 (hours ++ ':' :: minutes) = some (hour, ':' :: minutes) :=
    digits?_eq_some.mpr ⟨hours, first, rfl⟩
  have minutesRead : Text.digits? 2 minutes = some (minute, []) :=
    digits?_eq_some.mpr ⟨minutes, second, (List.append_nil minutes).symm⟩
  have inside : ¬ (23 < hour) ∧ ¬ (59 < minute) := by omega
  unfold offset?
  split
  · next alone => simp at alone
  · next alone => simp at alone
  · next apart after same =>
    obtain ⟨rfl, rfl⟩ := List.cons.inj same
    simp [hoursRead, minutesRead, Text.literal?, inside]
  · next empty => simp at empty

theorem offset?_eq_some {text : Text} {offset : ℤ} :
    offset? text = some offset ↔ Offset text offset := by
  constructor
  · intro read
    unfold offset? at read
    split at read
    · obtain rfl := Option.some.inj read
      exact .upper
    · obtain rfl := Option.some.inj read
      exact .lower
    · simp only [Option.bind_eq_bind, Option.bind_eq_some_iff, Prod.exists, digits?_eq_some,
        literal?_eq_some] at read
      obtain ⟨hour, _, ⟨hours, first, rfl⟩, _, rfl, minute, tail, ⟨minutes, second, rfl⟩, read⟩ :=
        read
      split at read
      · contradiction
      · next inside =>
        simp only [Bool.or_eq_true, Bool.not_eq_true', decide_eq_true_eq, not_or, not_lt,
          Bool.not_eq_false, List.isEmpty_iff] at inside
        obtain ⟨⟨rfl, short⟩, below⟩ := inside
        rw [List.append_nil]
        split at read
        · next ahead =>
          obtain rfl := Option.some.inj read
          rw [ahead]
          exact .ahead first second short below
        · split at read
          · next behind =>
            obtain rfl := Option.some.inj read
            rw [behind]
            exact .behind first second short below
          · contradiction
    · contradiction
  · intro spelled
    cases spelled with
    | upper | lower => rfl
    | ahead first second short below => rw [offset?_signed first second short below, if_pos rfl]
    | behind first second short below =>
      rw [offset?_signed first second short below, if_neg (by decide), if_pos rfl]

private theorem Offset.head {text : Text} {offset : ℤ} (spelled : Offset text offset) :
    ∀ c ∈ text.head?, c ≠ '.' ∧ c.isDigit = false := by
  cases spelled <;> simp

private theorem Offset.short {text : Text} {offset : ℤ} (spelled : Offset text offset) :
    offset.natAbs < 1440 := by
  cases spelled <;> omega

/-! ## Times -/

/-- A date of the calendar with four digits for the year, a time of day, and an offset of less than
a day. -/
structure Valid (time : Timestamp) : Prop where
  year : time.year ≤ 9999
  month : 1 ≤ time.month ∧ time.month ≤ 12
  day : 1 ≤ time.day ∧ time.day ≤ daysInMonth time.year time.month
  hour : time.hour ≤ 23
  minute : time.minute ≤ 59
  second : time.second ≤ 59
  nanosecond : time.nanosecond < 10 ^ 9
  offset : time.offset.natAbs < 1440

def BeforeMonth (time : Timestamp) : Prop :=
  ∃ year month, 1 ≤ month ∧ month ≤ 12 ∧ time.utcMinutes + 1 = 1440 * dayNumber year month 1

private theorem Valid.endsMonth_iff {time : Timestamp} (valid : time.Valid) :
    time.endsMonth = true ↔ time.BeforeMonth :=
  Timestamp.endsMonth_iff valid.month valid.day.2 valid.hour valid.minute valid.offset

/-- What the seconds and the nanoseconds of a text stand for. A leap second stands for the last
nanosecond before it, and only in the last minute of a month. -/
inductive Counts (second nanosecond : ℕ) (time : Timestamp) : Prop
  | plain (same : second = time.second) (exact : nanosecond = time.nanosecond)
  | leap (sixty : second = 60) (last : time.second = 59) (held : time.nanosecond = 999999999)
      (ends : time.BeforeMonth)

/-- The texts that are read as times, and the times that they stand for. -/
inductive Spells : Text → Timestamp → Prop
  | intro {time : Timestamp} {year month day hour minute second fraction offset : Text}
      {separator : Char} {seconds nanoseconds : ℕ}
      (years : Digits 4 year time.year) (months : Digits 2 month time.month)
      (days : Digits 2 day time.day) (ascii : separator.toNat < 128)
      (hours : Digits 2 hour time.hour) (minutes : Digits 2 minute time.minute)
      (count : Digits 2 second seconds) (part : Fraction fraction nanoseconds)
      (ahead : Offset offset time.offset) (valid : time.Valid)
      (counts : Counts seconds nanoseconds time) :
      Spells (year ++ '-' :: (month ++ '-' :: (day ++ separator :: (hour ++ ':' :: (minute ++
        ':' :: (second ++ (fraction ++ offset))))))) time

private theorem Spells.valid {text : Text} {time : Timestamp} (spelled : Spells text time) :
    time.Valid := by
  obtain ⟨_, _, _, _, _, _, _, _, _, valid, _⟩ := spelled
  exact valid

private theorem separator?_eq_some {text rest : Text} :
    separator? text = some rest ↔ ∃ c : Char, c.toNat < 128 ∧ text = c :: rest := by
  cases text with
  | nil => simp [separator?]
  | cons c others =>
    by_cases ascii : c.toNat < 128 <;> simp [separator?, ascii]

private theorem Fraction.lt {text : Text} {nanosecond : ℕ} (spelled : Fraction text nanosecond) :
    nanosecond < 10 ^ 9 := by
  cases spelled with
  | none => decide
  | some given all =>
    have below := Text.decimal_lt all
    rw [Nat.div_lt_iff_lt_mul (Nat.pow_pos (by decide)), Nat.mul_comm]
    exact Nat.mul_lt_mul_of_pos_left below (by decide)

/-- What is read as a time is spelled as one. -/
theorem spells_of_parse? {text : Text} {time : Timestamp} (read : parse? text = some time) :
    Spells text time := by
  unfold parse? at read
  obtain ⟨year, _, _, years, rfl, afterYear⟩ := Text.exists_of_digits? read
  obtain ⟨_, rfl, fromMonth⟩ := Text.exists_of_literal? afterYear
  obtain ⟨month, _, _, months, rfl, afterMonth⟩ := Text.exists_of_digits? fromMonth
  obtain ⟨_, rfl, fromDay⟩ := Text.exists_of_literal? afterMonth
  obtain ⟨day, _, _, days, rfl, afterDay⟩ := Text.exists_of_digits? fromDay
  obtain ⟨_, between, fromHour⟩ := Option.bind_eq_some_iff.mp afterDay
  obtain ⟨_, ascii, rfl⟩ := separator?_eq_some.mp between
  obtain ⟨hour, _, _, hours, rfl, afterHour⟩ := Text.exists_of_digits? fromHour
  obtain ⟨_, rfl, fromMinute⟩ := Text.exists_of_literal? afterHour
  obtain ⟨minute, _, _, minutes, rfl, afterMinute⟩ := Text.exists_of_digits? fromMinute
  obtain ⟨_, rfl, fromSecond⟩ := Text.exists_of_literal? afterMinute
  obtain ⟨second, _, _, count, rfl, afterSecond⟩ := Text.exists_of_digits? fromSecond
  obtain ⟨⟨nanosecond, _⟩, found, fromOffset⟩ := Option.bind_eq_some_iff.mp afterSecond
  obtain ⟨_, part, rfl⟩ := exists_of_fraction? found
  obtain ⟨offset, placed, checked⟩ := Option.bind_eq_some_iff.mp fromOffset
  have ahead := offset?_eq_some.mp placed
  simp only at checked
  split at checked
  · contradiction
  next dated =>
  split at checked
  · contradiction
  next timed =>
  simp only [Bool.or_eq_true, decide_eq_true_eq, not_or, not_lt] at dated timed
  obtain ⟨⟨⟨january, december⟩, first⟩, last⟩ := dated
  obtain ⟨⟨clock, within⟩, sixty⟩ := timed
  have four : year ≤ 9999 := Nat.le_of_lt_succ years.lt
  split at checked
  · next below =>
    obtain rfl := Option.some.inj checked
    exact .intro years months days ascii hours minutes count part ahead
      ⟨four, ⟨january, december⟩, ⟨first, last⟩, clock, within, Nat.le_of_lt_succ below, part.lt,
        ahead.short⟩ (.plain rfl rfl)
  · next above =>
    split at checked
    · next ends =>
      obtain rfl := Option.some.inj checked
      have valid : Timestamp.Valid ⟨year, month, day, hour, minute, 59, 999999999, offset⟩ :=
        ⟨four, ⟨january, december⟩, ⟨first, last⟩, clock, within, le_rfl, by norm_num, ahead.short⟩
      exact .intro years months days ascii hours minutes count part ahead valid
        (.leap (by omega) rfl rfl (valid.endsMonth_iff.mp ends))
    · contradiction

/-- Every spelling of a time is read as that time. -/
theorem parse?_of_spells {text : Text} {time : Timestamp} (spelled : Spells text time) :
    parse? text = some time := by
  obtain ⟨years, months, days, ascii, hours, minutes, count, part, ahead, valid, counts⟩ := spelled
  unfold parse?
  refine (Text.bind_found (years.digits?_append _) _).trans ?_
  refine (Text.bind_found (Text.literal?_cons _ _) _).trans ?_
  refine (Text.bind_found (months.digits?_append _) _).trans ?_
  refine (Text.bind_found (Text.literal?_cons _ _) _).trans ?_
  refine (Text.bind_found (days.digits?_append _) _).trans ?_
  refine (Text.bind_found (separator?_eq_some.mpr ⟨_, ascii, rfl⟩) _).trans ?_
  refine (Text.bind_found (hours.digits?_append _) _).trans ?_
  refine (Text.bind_found (Text.literal?_cons _ _) _).trans ?_
  refine (Text.bind_found (minutes.digits?_append _) _).trans ?_
  refine (Text.bind_found (Text.literal?_cons _ _) _).trans ?_
  refine (Text.bind_found (count.digits?_append _) _).trans ?_
  refine (Text.bind_found (fraction?_append part ahead.head) _).trans ?_
  refine (Text.bind_found (offset?_eq_some.mpr ahead) _).trans ?_
  have ended := valid.endsMonth_iff
  obtain ⟨_, month, day, hour, minute, below, _, _⟩ := valid
  have dated : ¬ (decide (time.month < 1) || decide (12 < time.month) || decide (time.day < 1) ||
      decide (daysInMonth time.year time.month < time.day)) = true := by
    simp only [Bool.or_eq_true, decide_eq_true_eq]
    omega
  have timed {second : ℕ} (short : second ≤ 60) :
      ¬ (decide (23 < time.hour) || decide (59 < time.minute) || decide (60 < second)) = true := by
    simp only [Bool.or_eq_true, decide_eq_true_eq]
    omega
  cases counts with
  | plain same exact =>
    rw [same, exact, if_neg dated, if_neg (timed (by omega)), if_pos (by omega)]
  | leap sixty last held ends =>
    have whole : (⟨time.year, time.month, time.day, time.hour, time.minute, 59, 999999999,
        time.offset⟩ : Timestamp) = time := by
      rw [← last, ← held]
    rw [sixty, if_neg dated, if_neg (timed le_rfl), if_neg (by omega), whole,
      if_pos (ended.mpr ends)]

theorem parse?_eq_some {text : Text} {time : Timestamp} :
    parse? text = some time ↔ Spells text time :=
  ⟨spells_of_parse?, parse?_of_spells⟩

/-! ## Writing -/

private theorem exists_withoutFinalZeros (digits : Text) :
    ∃ count, digits = withoutFinalZeros digits ++ List.replicate count '0' := by
  have zeros : ∀ c ∈ digits.reverse.takeWhile (· == '0'), c = '0' := by
    intro c member
    have counted := List.mem_takeWhile_imp member
    exact beq_iff_eq.mp counted
  refine ⟨(digits.reverse.takeWhile (· == '0')).length, ?_⟩
  calc digits
    _ = (digits.reverse.takeWhile (· == '0') ++ digits.reverse.dropWhile (· == '0')).reverse := by
      rw [List.takeWhile_append_dropWhile, List.reverse_reverse]
    _ = withoutFinalZeros digits ++ (digits.reverse.takeWhile (· == '0')).reverse := by
      rw [List.reverse_append, withoutFinalZeros]
    _ = withoutFinalZeros digits ++
        List.replicate (digits.reverse.takeWhile (· == '0')).length '0' := by
      rw [List.eq_replicate_of_mem zeros, List.length_replicate, List.reverse_replicate]

private theorem fraction_written {nanosecond : ℕ} (below : nanosecond < 10 ^ 9) :
    Fraction (if nanosecond = 0 then [] else
      '.' :: withoutFinalZeros (Text.padded 9 nanosecond)) nanosecond := by
  split
  · next nothing =>
    rw [nothing]
    exact .none
  · next some =>
    have nine := Text.digits_padded (by decide) below
    obtain ⟨count, whole⟩ := exists_withoutFinalZeros (Text.padded 9 nanosecond)
    generalize withoutFinalZeros (Text.padded 9 nanosecond) = digits at whole
    have size := nine.length
    have value := nine.value
    have all := nine.all
    rw [whole] at size value all
    rw [List.length_append, List.length_replicate] at size
    rw [Text.decimal_append, Text.decimal_replicate_zero, Nat.add_zero, List.length_replicate]
      at value
    have exact : decimal digits * 10 ^ 9 / 10 ^ digits.length = nanosecond := by
      rw [← size, Nat.pow_add, Nat.mul_comm (10 ^ digits.length), ← Nat.mul_assoc, value,
        Nat.mul_div_cancel _ (Nat.pow_pos (by decide))]
    rw [← exact]
    refine .some ?_ fun c member => all c (List.mem_append_left _ member)
    rintro rfl
    exact some (by rw [← value, decimal, List.foldl_nil, Nat.zero_mul])

private theorem offset_written {offset : ℤ} (short : offset.natAbs < 1440) :
    Offset (if offset = 0 then ['Z'] else
      (if offset < 0 then '-' else '+') :: Text.padded 2 (offset.natAbs / 60) ++
        ':' :: Text.padded 2 (offset.natAbs % 60)) offset := by
  split
  · next nothing =>
    rw [nothing]
    exact .upper
  · next some =>
    have hour : offset.natAbs / 60 ≤ 23 := by omega
    have minute : offset.natAbs % 60 ≤ 59 := by omega
    have hours : Digits 2 (Text.padded 2 (offset.natAbs / 60)) (offset.natAbs / 60) :=
      Text.digits_padded (by decide) (by omega)
    have minutes : Digits 2 (Text.padded 2 (offset.natAbs % 60)) (offset.natAbs % 60) :=
      Text.digits_padded (by decide) (by omega)
    split
    · next behind =>
      have same : -(60 * (offset.natAbs / 60 : ℕ) + (offset.natAbs % 60 : ℕ)) = offset := by omega
      have spelled := Offset.behind hours minutes hour minute
      rwa [same] at spelled
    · next ahead =>
      have same : 60 * (offset.natAbs / 60 : ℕ) + (offset.natAbs % 60 : ℕ) = offset := by omega
      have spelled := Offset.ahead hours minutes hour minute
      rwa [same] at spelled

/-- What is written of a time spells it. -/
theorem spells_render {time : Timestamp} (valid : time.Valid) : Spells time.render time := by
  have pair {number most : ℕ} (below : number ≤ most) (two : most < 10 ^ 2) :
      Digits 2 (Text.padded 2 number) number :=
    Text.digits_padded (by decide) (below.trans_lt two)
  have four : Digits 4 (Text.padded 4 time.year) time.year :=
    Text.digits_padded (by decide) (Nat.lt_succ_of_le valid.year)
  have ascii : 'T'.toNat < 128 := by decide
  have spelled := Spells.intro four (pair valid.month.2 (by decide))
    (pair (valid.day.2.trans (daysInMonth_le _ _)) (by decide)) ascii
    (pair valid.hour (by decide)) (pair valid.minute (by decide)) (pair valid.second (by decide))
    (fraction_written valid.nanosecond) (offset_written valid.offset) valid (.plain rfl rfl)
  simpa only [render, List.append_assoc, List.cons_append] using spelled

theorem render?_eq_some {time : Timestamp} (valid : time.Valid) :
    time.render? = some time.render := by
  have year := valid.year
  have offset := valid.offset
  rw [render?, if_neg]
  simp only [Bool.or_eq_true, decide_eq_true_eq]
  omega

theorem Valid.eq_of_instant {time other : Timestamp} (valid : time.Valid) (right : other.Valid)
    (offsets : other.offset = time.offset) (same : other.instant = time.instant) :
    other = time := by
  obtain ⟨_, months, days, hour, minute, second, nanosecond, _⟩ := valid
  obtain ⟨_, months', days', hour', minute', second', nanosecond', _⟩ := right
  simp only [instant, utcMinutes] at same
  have nanoseconds : other.nanosecond = time.nanosecond := by omega
  have seconds : other.second = time.second := by omega
  have minutes : other.minute = time.minute := by omega
  have hours : other.hour = time.hour := by omega
  have dates : dayNumber other.year other.month other.day =
      dayNumber time.year time.month time.day := by omega
  obtain ⟨years, months, days⟩ := dayNumber_inj months' days' months days dates
  cases other
  cases time
  simp_all

/-- Exactly the spellings of times are read. A time that is read can be written; what is written is
read as the same time, whatever the text was that it had been read from, and it is written for no
other time, so that the same point in time at the same offset always has the same text. -/
theorem times_written (text : Text) : (∀ time, parse? text = some time ↔ Spells text time) ∧
    ∀ time, parse? text = some time → ∃ written, time.render? = some written ∧
      parse? written = some time ∧
      ∀ text' time', parse? text' = some time' →
        (time'.render? = some written ↔ time' = time) ∧
        (time'.instant = time.instant ∧ time'.offset = time.offset → time' = time) := by
  refine ⟨fun time => parse?_eq_some, fun time read => ?_⟩
  have valid := (parse?_eq_some.mp read).valid
  have again : parse? time.render = some time := parse?_of_spells (spells_render valid)
  refine ⟨time.render, render?_eq_some valid, again, fun text' time' read' => ?_⟩
  have valid' := (parse?_eq_some.mp read').valid
  refine ⟨⟨fun written => ?_, ?_⟩,
    fun ⟨instants, offsets⟩ => valid.eq_of_instant valid' offsets instants⟩
  · have texts : time'.render = time.render :=
      Option.some.inj ((render?_eq_some valid').symm.trans written)
    have again' : parse? time'.render = some time' := parse?_of_spells (spells_render valid')
    rw [texts, again] at again'
    exact (Option.some.inj again').symm
  · rintro rfl
    exact render?_eq_some valid

/-- A leap second, which is at half past six in the evening five and a half hours behind UTC, and
another text of the nanosecond before it. -/
theorem times_written_leap_second :
    let time : Timestamp := ⟨2016, 12, 31, 18, 29, 59, 999999999, -330⟩
    parse? "2016-12-31 18:29:60.25-05:30".toList = some time ∧
      Spells "2016-12-31 18:29:60.25-05:30".toList time ∧
      parse? "2016-12-31t18:29:59.9999999999-05:30".toList = some time ∧
      ∃ written, time.render? = some written ∧ parse? written = some time := by
  intro time
  have leap : parse? "2016-12-31 18:29:60.25-05:30".toList = some time := by decide +kernel
  have before : parse? "2016-12-31t18:29:59.9999999999-05:30".toList = some time := by
    decide +kernel
  obtain ⟨spellings, writing⟩ := times_written "2016-12-31 18:29:60.25-05:30".toList
  obtain ⟨written, _, again, only⟩ := writing time leap
  exact ⟨leap, (spellings time).mp leap, before, written, (only _ _ before).1.mpr rfl, again⟩

/-- A text with a leap second in the middle of a month is not read. -/
example : parse? "2016-12-30T23:59:60Z".toList = none := by decide +kernel

end TenantSearch.Timestamp
