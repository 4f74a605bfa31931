import BelleSip.Foundation.Calendar
import BelleSip.Sip.UriRoundTrip

/-
This file models the header Date, and proves when its time is recovered from its text and which texts are rejected.
-/

namespace BelleSip

open Foundation

namespace HeaderDate

def days : List CString := ["Sun", "Mon", "Tue", "Wed", "Thu", "Fri", "Sat"].map asciiBytes

def months : List CString :=
  ["Jan", "Feb", "Mar", "Apr", "May", "Jun", "Jul", "Aug", "Sep", "Oct", "Nov", "Dec"].map asciiBytes

/-- The fields of a broken-down time are within their ranges. -/
def Normal (time : Tm) : Prop :=
  0 ≤ time.sec ∧ time.sec < 60 ∧ 0 ≤ time.min ∧ time.min < 60 ∧ 0 ≤ time.hour ∧ time.hour < 24 ∧ 1 ≤ time.mday ∧
    time.mday ≤ 31 ∧ 0 ≤ time.mon ∧ time.mon < 12

/-- The time zone of the process, with `mktime` and the variable `timezone`. The variable has one value for all times,
and the standard time of the zone may have changed. -/
structure Zone where
  timezone : Int
  /-- The seconds that the standard time is west of UTC when the clocks of the zone show a time. -/
  standard : Tm → Int
  mktime : Tm → Int
  converts : ∀ time, Normal time → time.isdst = 0 → mktime time = Calendar.timegm time + standard time

/-- This is `%i`. -/
def percentI (value : Int) : CString := asciiBytes (toString value)

/-- This is `%02i`. -/
def percent02i (value : Int) : CString := if 0 ≤ value ∧ value < 10 then 48 :: percentI value else percentI value

/-- This is the text of `belle_sip_header_date_set_time`. -/
def setTime (seconds : Int) : CString :=
  let time := Calendar.gmtime seconds
  (days[time.wday.toNat]?).getD [] ++ 44 :: 32 :: percentI time.mday ++ 32 :: (months[time.mon.toNat]?).getD [] ++
    32 :: percentI (1900 + time.year) ++ 32 :: percent02i time.hour ++ 58 :: percent02i time.min ++
    58 :: percent02i time.sec ++ asciiBytes " GMT"

/-- What `sscanf` has stored, with the number of the bytes that it writes into `tmp2`. -/
structure DateFields where
  wday : CString := []
  month : CString := []
  mday : Int := 0
  year : Int := 0
  hour : Int := 0
  min : Int := 0
  sec : Int := 0
  written : Nat := 0
deriving DecidableEq, Repr

def skipSpaces (text : CString) : CString := text.dropWhile isSpaceByte

def unsigned : CString → CString
  | [] => []
  | sign :: rest => if sign = 45 ∨ sign = 43 then rest else sign :: rest

/-- The conversion `%d`, with the text that follows the number. -/
def scanInt (text : CString) : Option (Int × CString) :=
  let number := skipSpaces text
  let rest := (unsigned number).dropWhile isDigitByte
  if (unsigned number).takeWhile isDigitByte = [] then none
  else some (atoiBytes (number.take (number.length - rest.length)), rest)

/-- The directives `%3c,%d` read the day of the month. -/
def scanDay (date : CString) : Option (Int × CString) :=
  if (date.drop 3).head? = some 44 then scanInt (date.drop 4) else none

/-- The word behind the day. -/
def monthWord (date : CString) : CString :=
  match scanDay date with
  | some (_, rest) => (skipSpaces rest).takeWhile (!isSpaceByte ·)
  | none => []

/-- The directives `:%d`. -/
def scanColon (text : CString) : Option (Int × CString) := if text.head? = some 58 then scanInt text.tail else none

/-- The directives `%d %d:%d:%d`. -/
def scanClock (fields : DateFields) (text : CString) : DateFields :=
  match scanInt text with
  | none => fields
  | some (year, text) =>
      match scanInt text with
      | none => { fields with year }
      | some (hour, text) =>
          match scanColon text with
          | none => { fields with year, hour }
          | some (min, text) =>
              match scanColon text with
              | none => { fields with year, hour, min }
              | some (sec, _) => { fields with year, hour, min, sec }

/-- This is `sscanf` with the format of `belle_sip_header_date_get_time`; `%16s` writes a terminator, too. -/
def scanDate (date : CString) : DateFields :=
  match scanDay date with
  | none => { wday := date.take 3 }
  | some (mday, rest) =>
      if monthWord date = [] then { wday := date.take 3, mday }
      else
        scanClock
          { wday := date.take 3, mday, month := (monthWord date).take 16
            written := ((monthWord date).take 16).length + 1 }
          ((skipSpaces rest).drop ((monthWord date).take 16).length)

/-- The two loops that look for the names. -/
def DateFields.time (fields : DateFields) : Option Tm := do
  let wday ← days.idxOf? fields.wday
  let mon ← months.idxOf? fields.month
  return { sec := fields.sec, min := fields.min, hour := fields.hour, mday := fields.mday, mon := mon
           year := fields.year - 1900, wday := wday, isdst := 0 }

/-- This is `belle_sip_header_date_get_time`, as if its two buffers were large enough. -/
def getTime (zone : Zone) (date : CString) : Int :=
  match (scanDate date).time with
  | none => -1
  | some time =>
      if zone.mktime time = -1 then -1 else zone.mktime time - zone.timezone

/-- The scan stays inside its two buffers of 16 bytes. -/
def Bounded (date : CString) : Prop := (scanDate date).wday.length ≤ 16 ∧ (scanDate date).written ≤ 16

/-- The standard time at the clock reading of a time is `timezone` seconds west of UTC, and the time is not taken for an
error. -/
def Zone.Recovers (zone : Zone) (seconds : Int) : Prop :=
  if seconds + zone.standard (Calendar.gmtime seconds) = -1 then zone.standard (Calendar.gmtime seconds) = 0
  else zone.standard (Calendar.gmtime seconds) = zone.timezone

/-- A date of the calendar with a time of the day. -/
structure CalendarDate where
  wday : Nat
  mday : Nat
  mon : Nat
  year : Nat
  hour : Nat
  min : Nat
  sec : Nat
  within : wday < 7 ∧ mon < 12 ∧ year ≤ 9999 ∧ hour < 24 ∧ min < 60 ∧ sec ≤ 60
  inCalendar : Calendar.civil (Calendar.epochDay year mon mday) = ((year : Int), (mon : Int), (mday : Int))

/-- A number with zeros in front. -/
def padded (width number : Nat) : CString :=
  List.replicate (width - (percentI number).length) 48 ++ percentI number

/-- The text of a date as the grammar has it, with a day of one or two digits. -/
def CalendarDate.text (date : CalendarDate) (width : Nat) : CString :=
  (days[date.wday]?).getD [] ++ 44 :: 32 :: padded width date.mday ++ 32 :: (months[date.mon]?).getD [] ++
    32 :: padded 4 date.year ++ 32 :: padded 2 date.hour ++ 58 :: padded 2 date.min ++ 58 :: padded 2 date.sec ++
    asciiBytes " GMT"

/-- The text is that of a date; its day has two digits, or as few as the setter writes. -/
def Valid (date : CString) : Prop := ∃ fields : CalendarDate, date = fields.text 1 ∨ date = fields.text 2

def Blank (text : CString) : Prop := ∀ byte ∈ text, isSpaceByte byte = true

/-- A text that does not go on with a digit. -/
def Stops (rest : CString) : Prop := ∀ byte ∈ rest.head?, isDigitByte byte = false

/-- Digits, perhaps with a sign. -/
def IsNumber (number : CString) : Prop :=
  ∃ sign digits, number = sign ++ digits ∧ (sign = [] ∨ sign = [45] ∨ sign = [43]) ∧ digits ≠ [] ∧
    ∀ byte ∈ digits, isDigitByte byte = true

/-- The text begins with three bytes, a comma, a number and a word. -/
structure Opens (date wday word rest : CString) : Prop where
  parts : ∃ before number between, date = wday ++ 44 :: (before ++ (number ++ (between ++ (word ++ rest)))) ∧
    Blank before ∧ IsNumber number ∧ Blank between ∧ Stops (between ++ (word ++ rest))
  three : wday.length = 3
  nonempty : word ≠ []
  visible : ∀ byte ∈ word, isSpaceByte byte = false
  whole : ∀ byte ∈ rest.head?, isSpaceByte byte = true

/-- The text begins with the name of a day, a comma, a number and the name of a month. -/
def Named (date : CString) : Prop := ∃ wday ∈ days, ∃ month ∈ months, ∃ rest, Opens date wday month rest

/-- The year has four digits. -/
def FourDigitYear (seconds : Int) : Prop :=
  1000 ≤ (Calendar.gmtime seconds).year + 1900 ∧ (Calendar.gmtime seconds).year + 1900 ≤ 9999

section Scan
variable {before number rest : CString}

theorem digit_plain (byte : UInt8) :
    isDigitByte byte = true → isSpaceByte byte = false ∧ byte ≠ 45 ∧ byte ≠ 43 := by
  revert byte
  apply Percent.all_bytes
  decide +kernel

theorem unsigned_sign {sign : CString} (isSign : sign = [] ∨ sign = [45] ∨ sign = [43]) {digits : CString}
    (nonempty : digits ≠ []) (allDigits : ∀ byte ∈ digits, isDigitByte byte = true) (rest : CString) :
    unsigned (sign ++ (digits ++ rest)) = digits ++ rest ∧
      skipSpaces (sign ++ (digits ++ rest)) = sign ++ (digits ++ rest) := by
  obtain ⟨first, others, rfl⟩ := List.exists_cons_of_ne_nil nonempty
  obtain ⟨visible, minus, plus⟩ := digit_plain first (allDigits first List.mem_cons_self)
  rcases isSign with rfl | rfl | rfl
  · constructor
    · simp [unsigned, minus, plus]
    · simp [skipSpaces, visible]
  · exact ⟨rfl, rfl⟩
  · exact ⟨rfl, rfl⟩

/-- The conversion `%d` reads a number behind blanks. -/
theorem scanInt_number (blank : Blank before) (isNumber : IsNumber number) (stops : Stops rest) :
    scanInt (before ++ (number ++ rest)) = some (atoiBytes number, rest) := by
  obtain ⟨sign, digits, rfl, isSign, nonempty, allDigits⟩ := isNumber
  obtain ⟨signless, visible⟩ := unsigned_sign isSign nonempty allDigits rest
  obtain ⟨takes, drops⟩ := span_append allDigits stops
  have skipped : skipSpaces (before ++ (sign ++ digits ++ rest)) = sign ++ (digits ++ rest) := by
    rw [skipSpaces, List.dropWhile_append_of_pos blank, List.append_assoc]
    exact visible
  rw [scanInt, skipped, signless, takes, drops, if_neg nonempty, ← List.append_assoc, List.length_append,
    Nat.add_sub_cancel, List.take_left]

/-- Where the conversion `%d` reads a number, one stands behind blanks. -/
theorem scanInt_some {text : CString} {value : Int} (scanned : scanInt text = some (value, rest)) :
    ∃ before number, text = before ++ (number ++ rest) ∧ Blank before ∧ IsNumber number ∧ Stops rest := by
  rw [scanInt] at scanned
  split at scanned
  next => cases scanned
  next nonempty =>
    obtain ⟨-, rfl⟩ := Prod.mk.inj (Option.some.inj scanned)
    have signed : ∃ sign, skipSpaces text = sign ++ unsigned (skipSpaces text) ∧
        (sign = [] ∨ sign = [45] ∨ sign = [43]) := by
      cases skipSpaces text with
      | nil => exact ⟨[], rfl, .inl rfl⟩
      | cons first others =>
          by_cases isSign : first = 45 ∨ first = 43
          · refine ⟨[first], ?_, ?_⟩
            · rw [unsigned, if_pos isSign]
              rfl
            · simpa using isSign
          · refine ⟨[], ?_, .inl rfl⟩
            rw [unsigned, if_neg isSign]
            rfl
    obtain ⟨sign, split, isSign⟩ := signed
    have digits := List.takeWhile_append_dropWhile (p := isDigitByte) (l := unsigned (skipSpaces text))
    have blanks := List.takeWhile_append_dropWhile (p := isSpaceByte) (l := text)
    refine ⟨text.takeWhile isSpaceByte, sign ++ (unsigned (skipSpaces text)).takeWhile isDigitByte, ?_, ?_, ?_, ?_⟩
    · rw [List.append_assoc, digits, ← split]
      exact blanks.symm
    · exact fun byte among => List.mem_takeWhile_imp (p := isSpaceByte) among
    · exact ⟨sign, _, rfl, isSign, nonempty, fun byte among => List.mem_takeWhile_imp (p := isDigitByte) among⟩
    · intro byte first
      have stop := List.head?_dropWhile_not isDigitByte (unsigned (skipSpaces text))
      rw [Option.mem_def.mp first] at stop
      simpa using stop

theorem isNumber_percentI (value : Nat) : IsNumber (percentI value) := by
  refine ⟨[], percentI value, rfl, .inl rfl, ?_, asciiBytes_digits value⟩
  rw [percentI, asciiBytes, port_toList]
  simp [Nat.toDigits_ne_nil]

theorem isNumber_percent02i (value : Nat) : IsNumber (percent02i value) := by
  obtain ⟨sign, digits, same, isSign, nonempty, allDigits⟩ := isNumber_percentI value
  rw [percent02i]
  split
  · refine ⟨[], 48 :: percentI value, rfl, .inl rfl, List.cons_ne_nil _ _, fun byte among => ?_⟩
    rcases List.mem_cons.mp among with rfl | later
    · decide
    · exact asciiBytes_digits value byte later
  · exact isNumber_percentI value

theorem atoiBytes_percent02i {value : Nat} (small : value < 2147483648) : atoiBytes (percent02i value) = value := by
  rw [percent02i]
  split
  next low =>
    have each : ∀ digit < 10, atoiBytes (48 :: percentI (digit : Nat)) = digit := by decide +kernel
    exact each value (by omega)
  next => exact atoiBytes_port small

/-- A number behind a blank. -/
theorem scanInt_percentI {value : Nat} (small : value < 2147483648) (stops : Stops rest) :
    scanInt (32 :: (percentI value ++ rest)) = some ((value : Int), rest) := by
  have blank : Blank [32] := fun byte among => by rw [List.mem_singleton.mp among]; rfl
  rw [← List.singleton_append, scanInt_number blank (isNumber_percentI value) stops, percentI, atoiBytes_port small]

theorem scanInt_percent02i {value : Nat} (small : value < 2147483648) (stops : Stops rest) :
    scanInt (percent02i value ++ rest) = some ((value : Int), rest) := by
  have none_ : Blank [] := fun _ among => absurd among List.not_mem_nil
  rw [← List.nil_append (percent02i value ++ rest), scanInt_number none_ (isNumber_percent02i value) stops,
    atoiBytes_percent02i small]

theorem scanInt_blank (text : CString) : scanInt (32 :: text) = scanInt text := rfl

theorem stops_cons {first : UInt8} (plain : isDigitByte first = false) (others : CString) :
    Stops (first :: others) := by
  intro byte same
  cases same
  exact plain

/-- The text of a time in the format of the header. -/
def dateText (wday month : CString) (mday year hour min sec : Nat) : CString :=
  wday ++ 44 :: 32 :: (percentI mday ++ 32 :: (month ++ 32 :: (percentI year ++ 32 :: (percent02i hour ++
    58 :: (percent02i min ++ 58 :: (percent02i sec ++ asciiBytes " GMT"))))))

variable {wday month : CString} {mday year hour min sec : Nat}

theorem scanDay_dateText (threeLetters : wday.length = 3) (int : mday < 2147483648) :
    scanDay (dateText wday month mday year hour min sec) =
      some ((mday : Int), 32 :: (month ++ 32 :: (percentI year ++ 32 :: (percent02i hour ++
        58 :: (percent02i min ++ 58 :: (percent02i sec ++ asciiBytes " GMT")))))) := by
  have comma : (dateText wday month mday year hour min sec).drop 3 = 44 :: 32 :: (percentI mday ++ 32 :: (month ++
      32 :: (percentI year ++ 32 :: (percent02i hour ++ 58 :: (percent02i min ++
        58 :: (percent02i sec ++ asciiBytes " GMT")))))) := by
    rw [dateText, List.drop_append_of_le_length (Nat.le_of_eq threeLetters.symm), ← threeLetters, List.drop_length]
    rfl
  have behind := congrArg (List.drop 1) comma
  rw [List.drop_drop] at behind
  rw [scanDay, comma, List.head?_cons, if_pos rfl, behind, List.drop_one, List.tail_cons,
    scanInt_percentI int (stops_cons (by decide) _)]

/-- The clock is scanned up to the zone. -/
theorem scanClock_text (fields : DateFields) (yearInt : year < 2147483648) (hourInt : hour < 2147483648)
    (minInt : min < 2147483648) (secInt : sec < 2147483648) :
    scanClock fields (32 :: (percentI year ++ 32 :: (percent02i hour ++ 58 :: (percent02i min ++
      58 :: (percent02i sec ++ asciiBytes " GMT"))))) = { fields with year, hour, min, sec } := by
  have scanColon_text : ∀ {value : Nat} {rest : CString}, value < 2147483648 → Stops rest →
      scanColon (58 :: (percent02i value ++ rest)) = some ((value : Int), rest) := scanInt_percent02i
  rw [scanClock, scanInt_percentI yearInt (stops_cons (by decide) _)]
  dsimp only
  rw [scanInt_blank, scanInt_percent02i hourInt (stops_cons (by decide) _)]
  dsimp only
  rw [scanColon_text minInt (stops_cons (by decide) _)]
  dsimp only
  have zone : Stops (asciiBytes " GMT") := stops_cons (by decide) (asciiBytes "GMT")
  rw [scanColon_text secInt zone]

/-- The word behind some blanks. -/
theorem word_text {between word : CString} (blank : Blank between) (nonempty : word ≠ [])
    (visible : ∀ byte ∈ word, isSpaceByte byte = false) (whole : ∀ byte ∈ rest.head?, isSpaceByte byte = true) :
    skipSpaces (between ++ (word ++ rest)) = word ++ rest ∧
      (word ++ rest).takeWhile (!isSpaceByte ·) = word ∧ (word ++ rest).dropWhile (!isSpaceByte ·) = rest := by
  obtain ⟨first, more, split⟩ := List.exists_cons_of_ne_nil nonempty
  have plain : isSpaceByte first = false := visible first (split ▸ List.mem_cons_self)
  constructor
  · rw [skipSpaces, List.dropWhile_append_of_pos blank, split, List.cons_append, List.dropWhile_cons, plain]
    rfl
  · exact span_append (fun byte among => by rw [visible byte among]; rfl) fun byte head => by rw [whole byte head]; rfl

theorem scanDate_dateText (threeLetters : wday.length = 3) (alsoMonth : month.length = 3)
    (visible : ∀ byte ∈ month, isSpaceByte byte = false) (mdayInt : mday < 2147483648)
    (yearInt : year < 2147483648) (hourInt : hour < 2147483648) (minInt : min < 2147483648)
    (secInt : sec < 2147483648) : scanDate (dateText wday month mday year hour min sec) =
      { wday, month, mday, year, hour, min, sec, written := 4 } := by
  have day := @scanDay_dateText wday month mday year hour min sec threeLetters mdayInt
  have nonempty : month ≠ [] := by
    rintro rfl
    cases alsoMonth
  have blank : Blank [32] := fun byte among => by rw [List.mem_singleton.mp among]; rfl
  obtain ⟨skips, takes, -⟩ := @word_text (32 :: (percentI year ++ 32 :: (percent02i hour ++ 58 :: (percent02i min ++
    58 :: (percent02i sec ++ asciiBytes " GMT"))))) [32] month blank nonempty visible fun byte head => by
      rw [← Option.some.inj head]
      rfl
  rw [List.singleton_append] at skips
  have word : monthWord (dateText wday month mday year hour min sec) = month := by
    rw [monthWord, day]
    dsimp only
    rw [skips, takes]
  have first : (dateText wday month mday year hour min sec).take 3 = wday := by
    rw [dateText, List.take_append_of_le_length (Nat.le_of_eq threeLetters.symm), ← threeLetters, List.take_length]
  have short : month.take 16 = month := List.take_of_length_le (by omega)
  rw [scanDate, day, word, first, short]
  dsimp only
  rw [if_neg nonempty, skips, List.drop_left, scanClock_text _ yearInt hourInt minInt secInt, alsoMonth]

end Scan

theorem names_length : (days ++ months).all (fun name => name.length = 3 && name.all (!isSpaceByte ·)) = true := by
  decide

theorem name_facts {name : CString} (among : name ∈ days ++ months) :
    name.length = 3 ∧ ∀ byte ∈ name, isSpaceByte byte = false := by
  have facts := List.all_eq_true.mp names_length name among
  simpa using facts

theorem days_found : ∀ index < 7, (days[index]?).getD [] ∈ days ++ months ∧
    days.idxOf? ((days[index]?).getD []) = some index := by decide

theorem months_found : ∀ index < 12, (months[index]?).getD [] ∈ days ++ months ∧
    months.idxOf? ((months[index]?).getD []) = some index := by decide

/-- The setter writes the fields of the time. -/
theorem setTime_fields {seconds : Int} (year : FourDigitYear seconds) :
    ∃ wday mday mon year hour min sec : Nat, (wday < 7 ∧ mon < 12 ∧ year ≤ 9999 ∧ hour < 24 ∧ min < 60 ∧ sec ≤ 60) ∧
      mday ≤ 31 ∧ 1000 ≤ year ∧ Calendar.gmtime seconds = { sec, min, hour, mday, mon, year := year - 1900, wday } ∧
      setTime seconds = dateText ((days[wday]?).getD []) ((months[mon]?).getD []) mday year hour min sec := by
  have ranges := Calendar.gmtime_ranges seconds
  have isdst : (Calendar.gmtime seconds).isdst = 0 := rfl
  rw [FourDigitYear] at year
  rw [setTime]
  generalize Calendar.gmtime seconds = time at *
  obtain ⟨sec, min, hour, mday, mon, yearOf, wday, dst⟩ := time
  dsimp only at *
  obtain ⟨secNumber, rfl⟩ := @Int.eq_ofNat_of_zero_le sec (by omega)
  obtain ⟨minNumber, rfl⟩ := @Int.eq_ofNat_of_zero_le min (by omega)
  obtain ⟨hourNumber, rfl⟩ := @Int.eq_ofNat_of_zero_le hour (by omega)
  obtain ⟨mdayNumber, rfl⟩ := @Int.eq_ofNat_of_zero_le mday (by omega)
  obtain ⟨monNumber, rfl⟩ := @Int.eq_ofNat_of_zero_le mon (by omega)
  obtain ⟨wdayNumber, rfl⟩ := @Int.eq_ofNat_of_zero_le wday (by omega)
  obtain ⟨yearNumber, isYear⟩ := @Int.eq_ofNat_of_zero_le (1900 + yearOf) (by omega)
  refine ⟨wdayNumber, mdayNumber, monNumber, yearNumber, hourNumber, minNumber, secNumber, ⟨by omega, by omega,
    by omega, by omega, by omega, by omega⟩, by omega, by omega, ?_, ?_⟩
  · rw [isdst]
    congr 1
    omega
  · rw [isYear]
    simp [dateText]

/-- The text of a time is scanned as its fields. -/
theorem time_setTime {seconds : Int} (year : FourDigitYear seconds) :
    (scanDate (setTime seconds)).time = some (Calendar.gmtime seconds) := by
  obtain ⟨wday, mday, mon, year, hour, min, sec, within, small, -, isTime, isText⟩ := setTime_fields year
  obtain ⟨dayName, dayIndex⟩ := days_found wday (by omega)
  obtain ⟨monthName, monthIndex⟩ := months_found mon (by omega)
  have scan := @scanDate_dateText _ _ mday year hour min sec (name_facts dayName).1 (name_facts monthName).1
    (name_facts monthName).2 (by omega) (by omega) (by omega) (by omega) (by omega)
  rw [isText, scan, isTime]
  simp only [DateFields.time, dayIndex, monthIndex, Option.bind_eq_bind, Option.bind_some]
  rfl

section Padding
variable {number : Nat}

theorem length_percentI (number : Nat) : (percentI number).length = (Nat.toDigits 10 number).length := by
  rw [percentI, asciiBytes, port_toList, List.length_map]

/-- No zeros stand in front of a long number. -/
theorem padded_long {width : Nat} (long : width ≤ (percentI number).length) :
    padded width number = percentI number := by
  rw [padded, Nat.sub_eq_zero_of_le long]
  rfl

theorem padded_one (number : Nat) : padded 1 number = percentI number := by
  apply padded_long
  rw [length_percentI]
  exact Nat.length_toDigits_pos

theorem padded_two (number : Nat) : padded 2 number = percent02i number := by
  have digits : (percentI number).length ≤ 1 ↔ number < 10 := by
    rw [length_percentI]
    exact Nat.length_toDigits_le_iff (by decide) (by decide)
  have visible : 0 < (percentI number).length := by
    rw [length_percentI]
    exact Nat.length_toDigits_pos
  rw [percent02i]
  split
  next low =>
    have single : (percentI number).length = 1 := by
      have small := digits.mpr (by omega)
      omega
    rw [padded, single]
    rfl
  next high =>
    apply padded_long
    have large := mt digits.mp (by omega)
    omega

theorem padded_four (year : 1000 ≤ number) : padded 4 number = percentI number := by
  apply padded_long
  have digits : (percentI number).length ≤ 3 ↔ number < 10 ^ 3 := by
    rw [length_percentI]
    exact Nat.length_toDigits_le_iff (by decide) (by decide)
  have large := mt digits.mp (by omega)
  omega

end Padding

/-- Every text of the setter is valid. -/
theorem valid_setTime {seconds : Int} (year : FourDigitYear seconds) : Valid (setTime seconds) := by
  obtain ⟨wday, mday, mon, year, hour, min, sec, within, -, long, isTime, isText⟩ := setTime_fields year
  have civil : Calendar.civil (seconds / 86400) = ((year : Int), (mon : Int), (mday : Int)) := by
    have isYear := congrArg Tm.year isTime
    have isMon := congrArg Tm.mon isTime
    have isMday := congrArg Tm.mday isTime
    simp only [Calendar.gmtime] at isYear isMon isMday
    refine Prod.ext ?_ (Prod.ext isMon isMday)
    dsimp only
    omega
  have day := Calendar.epochDay_civil (seconds / 86400)
  rw [civil] at day
  refine ⟨⟨wday, mday, mon, year, hour, min, sec, within, by rw [day, civil]⟩, .inl ?_⟩
  rw [isText, CalendarDate.text, padded_one, padded_four long, padded_two, padded_two, padded_two]
  simp [dateText]

/-- The time is recovered where `timezone` is the standard time of its date, and the value of the local time is not
that of an error. -/
theorem getTime_setTime (zone : Zone) {seconds : Int} (year : FourDigitYear seconds) :
    getTime zone (setTime seconds) = seconds ↔ zone.Recovers seconds := by
  have normal : Normal (Calendar.gmtime seconds) := by
    have ranges := Calendar.gmtime_ranges seconds
    simp only [Normal]
    omega
  rw [getTime, time_setTime year, Zone.Recovers]
  dsimp only
  rw [zone.converts _ normal rfl, Calendar.timegm_gmtime]
  split <;> omega

theorem scanClock_frame (fields : DateFields) (text : CString) :
    (scanClock fields text).wday = fields.wday ∧ (scanClock fields text).month = fields.month ∧
      (scanClock fields text).written = fields.written := by
  rw [scanClock]
  repeat' split
  all_goals exact ⟨rfl, rfl, rfl⟩

section Names
variable {date wday word rest : CString}

theorem Opens.scan (opens : Opens date wday word rest) :
    date.take 3 = wday ∧ monthWord date = word ∧ ∃ mday after, scanDay date = some (mday, after) := by
  obtain ⟨before, number, between, rfl, blank, isNumber, gap, stops⟩ := opens.parts
  obtain ⟨skips, takes, -⟩ := word_text gap opens.nonempty opens.visible opens.whole
  have scanned : scanDay (wday ++ 44 :: (before ++ (number ++ (between ++ (word ++ rest))))) =
      some (atoiBytes number, between ++ (word ++ rest)) := by
    have comma : (wday ++ 44 :: (before ++ (number ++ (between ++ (word ++ rest))))).drop 3 =
        44 :: (before ++ (number ++ (between ++ (word ++ rest)))) := by
      rw [List.drop_append_of_le_length (Nat.le_of_eq opens.three.symm), ← opens.three, List.drop_length]
      rfl
    have behind := congrArg (List.drop 1) comma
    rw [List.drop_drop] at behind
    rw [scanDay, comma, List.head?_cons, if_pos rfl, behind, List.drop_one, List.tail_cons,
      scanInt_number blank isNumber stops]
  refine ⟨?_, ?_, _, _, scanned⟩
  · rw [List.take_append_of_le_length (Nat.le_of_eq opens.three.symm), ← opens.three, List.take_length]
  · rw [monthWord, scanned]
    dsimp only
    rw [skips, takes]

/-- A text with a word behind the day opens with it. -/
theorem opens_monthWord (nonempty : monthWord date ≠ []) :
    ∃ rest, Opens date (date.take 3) (monthWord date) rest := by
  cases scanned : scanDay date with
  | none =>
      rw [monthWord, scanned] at nonempty
      exact absurd rfl nonempty
  | some found =>
      obtain ⟨mday, after⟩ := found
      have isWord : monthWord date = (skipSpaces after).takeWhile (!isSpaceByte ·) := by rw [monthWord, scanned]
      have words := List.takeWhile_append_dropWhile (p := (!isSpaceByte ·)) (l := skipSpaces after)
      have blanks := List.takeWhile_append_dropWhile (p := isSpaceByte) (l := after)
      rw [scanDay] at scanned
      split at scanned
      next comma =>
        obtain ⟨before, number, split, blank, isNumber, stops⟩ := scanInt_some scanned
        have here : 3 < date.length := by
          by_contra short
          rw [List.drop_eq_nil_of_le (by omega)] at comma
          cases comma
        have whole : date = date.take 3 ++ 44 :: date.drop 4 := by
          have parts := List.take_append_drop 3 date
          rw [List.drop_eq_getElem_cons here] at parts comma
          rw [List.head?_cons] at comma
          rw [Option.some.inj comma] at parts
          exact parts.symm
        have between : after = after.takeWhile isSpaceByte ++
            (monthWord date ++ (skipSpaces after).dropWhile (!isSpaceByte ·)) := by
          rw [isWord, words]
          exact blanks.symm
        refine ⟨(skipSpaces after).dropWhile (!isSpaceByte ·), ?_, List.length_take_of_le (by omega), nonempty, ?_, ?_⟩
        · refine ⟨before, number, after.takeWhile isSpaceByte, ?_, blank, isNumber, ?_, ?_⟩
          · rw [← between, ← split]
            exact whole
          · exact fun byte among => List.mem_takeWhile_imp (p := isSpaceByte) among
          · rw [← between]
            exact stops
        · intro byte among
          rw [isWord] at among
          simpa using List.mem_takeWhile_imp (p := (!isSpaceByte ·)) among
        · intro byte head
          have stop := List.head?_dropWhile_not (!isSpaceByte ·) (skipSpaces after)
          rw [Option.mem_def.mp head] at stop
          simpa using stop
      next => cases scanned

/-- The word behind the day is shorter than the second buffer. -/
theorem bounded_iff (date : CString) :
    Bounded date ↔ ∀ wday word rest, Opens date wday word rest → word.length < 16 := by
  have words : (∀ wday word rest, Opens date wday word rest → word.length < 16) ↔ (monthWord date).length < 16 := by
    constructor
    · intro short
      by_cases empty : monthWord date = []
      · rw [empty]
        exact Nat.succ_pos _
      · obtain ⟨rest, opens⟩ := opens_monthWord empty
        exact short _ _ rest opens
    · intro short wday word rest opens
      rwa [← opens.scan.2.1]
  have three := @List.length_take _ 3 date
  rw [words, Bounded, scanDate]
  split
  · next none_ =>
      have empty : (monthWord date).length = 0 := by
        rw [monthWord, none_]
        rfl
      dsimp only
      omega
  · next mday rest day =>
      split
      · next empty =>
          rw [empty]
          dsimp only [List.length_nil]
          omega
      · obtain ⟨wday, -, written⟩ := scanClock_frame
          { wday := date.take 3, mday, month := (monthWord date).take 16
            written := ((monthWord date).take 16).length + 1 }
          ((skipSpaces rest).drop ((monthWord date).take 16).length)
        rw [wday, written]
        simp only [List.length_take]
        omega

/-- The names that are looked up. -/
theorem scanDate_names (date : CString) :
    (scanDate date).wday = date.take 3 ∧ (scanDate date).month = (monthWord date).take 16 := by
  rw [scanDate]
  split
  · next none_ =>
      refine ⟨rfl, ?_⟩
      rw [monthWord, none_]
      rfl
  · split
    · next empty =>
        refine ⟨rfl, ?_⟩
        rw [empty]
        rfl
    · obtain ⟨wday, month, -⟩ := scanClock_frame _ _
      exact ⟨wday, month⟩

/-- A text gives a time if and only if its names are those of a day and a month. -/
theorem time_isSome (date : CString) : (scanDate date).time.isSome = true ↔ Named date := by
  obtain ⟨wday, month⟩ := scanDate_names date
  have found : (scanDate date).time.isSome = true ↔ date.take 3 ∈ days ∧ (monthWord date).take 16 ∈ months := by
    rw [DateFields.time, wday, month]
    cases day : days.idxOf? (date.take 3) with
    | none => simp [List.idxOf?_eq_none_iff.mp day]
    | some index =>
        have among : date.take 3 ∈ days := List.isSome_idxOf?.mp (by rw [day]; rfl)
        cases name : months.idxOf? ((monthWord date).take 16) with
        | none => simp [List.idxOf?_eq_none_iff.mp name]
        | some other =>
            have alsoAmong : (monthWord date).take 16 ∈ months := List.isSome_idxOf?.mp (by rw [name]; rfl)
            simp [among, alsoAmong]
  rw [found]
  constructor
  · rintro ⟨isDay, isMonth⟩
    have three := (name_facts (List.mem_append_right _ isMonth)).1
    have short : (monthWord date).length = 3 := by
      rw [List.length_take] at three
      omega
    have nonempty : monthWord date ≠ [] := by
      intro empty
      rw [empty] at short
      cases short
    rw [List.take_of_length_le (by omega)] at isMonth
    obtain ⟨rest, opens⟩ := opens_monthWord nonempty
    exact ⟨_, isDay, _, isMonth, rest, opens⟩
  · rintro ⟨name, isDay, word, isMonth, rest, opens⟩
    obtain ⟨same, isWord, -⟩ := opens.scan
    have three := (name_facts (List.mem_append_right _ isMonth)).1
    rw [same, isWord, List.take_of_length_le (by omega)]
    exact ⟨isDay, isMonth⟩

end Names

/-- A zone whose clocks have always been the same. -/
def constantZone (west : Int) : Zone where
  timezone := west
  standard _ := west
  mktime time := Calendar.timegm time + west
  converts _ _ _ := rfl

/-- A zone that has gone over to UTC and was an hour west of it. -/
def changedZone : Zone where
  timezone := 0
  standard _ := 3600
  mktime time := Calendar.timegm time + 3600
  converts _ _ _ := rfl

theorem getTime_of_time {zone : Zone} {date : CString} {time : Tm} (scanned : (scanDate date).time = some time) :
    getTime zone date = if zone.mktime time = -1 then -1 else zone.mktime time - zone.timezone := by
  rw [getTime, scanned]

/-- Every zone rejects a text if and only if it does not name a day and a month. -/
theorem rejected_iff (date : CString) : (∀ zone, getTime zone date = -1) ↔ ¬Named date := by
  rw [← time_isSome]
  cases scanned : (scanDate date).time with
  | none => simp [getTime, scanned]
  | some time =>
      refine iff_of_false (fun rejected => ?_) (by simp)
      have universal : Calendar.timegm time + 0 = -1 := by
        have rejects := rejected (constantZone 0)
        rw [getTime_of_time scanned] at rejects
        by_contra differs
        have value : (constantZone 0).mktime time = Calendar.timegm time + 0 := rfl
        rw [value, if_neg differs] at rejects
        exact differs ((Int.sub_zero _).symm.trans rejects)
      have rejects := rejected changedZone
      rw [getTime_of_time scanned] at rejects
      have value : changedZone.mktime time = 3599 := by
        show Calendar.timegm time + 3600 = 3599
        omega
      rw [value] at rejects
      exact absurd rejects (by decide)

/-- A time is recovered if and only if `timezone` is the standard time of its date, and the value of the local time is
not that of an error. The scan of a text stays inside its buffers and every zone rejects the text when it is invalid, if
and only if the word behind the day has less than 16 characters, and the text is valid or does not name a day and a
month. -/
theorem date_time_recovered (zone : Zone) {seconds : Int} (year : FourDigitYear seconds) (date : CString) :
    (getTime zone (setTime seconds) = seconds ↔ zone.Recovers seconds) ∧
      (Bounded date ∧ (¬Valid date → ∀ zone, getTime zone date = -1) ↔
        (∀ wday word rest, Opens date wday word rest → word.length < 16) ∧ (Valid date ∨ ¬Named date)) := by
  refine ⟨getTime_setTime zone year, and_congr (bounded_iff date) ?_⟩
  rw [rejected_iff]
  exact ⟨fun rejects => or_iff_not_imp_left.mpr rejects, fun either => or_iff_not_imp_left.mp either⟩

/-- The clocks of Moscow were an hour ahead from the spring of 2011 to the autumn of 2014. -/
def moscow : Zone where
  timezone := -10800
  standard time := if 1301194800 ≤ Calendar.timegm time ∧ Calendar.timegm time < 1414288800 then -14400 else -10800
  mktime time := Calendar.timegm time +
    if 1301194800 ≤ Calendar.timegm time ∧ Calendar.timegm time < 1414288800 then -14400 else -10800
  converts _ _ _ := rfl

theorem date_time_recovered_moscow :
    (getTime moscow (setTime 0) = 0 ↔ moscow.Recovers 0) ∧
      (Bounded (asciiBytes "Sun") ∧ (¬Valid (asciiBytes "Sun") → ∀ zone, getTime zone (asciiBytes "Sun") = -1) ↔
        (∀ wday word rest, Opens (asciiBytes "Sun") wday word rest → word.length < 16) ∧
          (Valid (asciiBytes "Sun") ∨ ¬Named (asciiBytes "Sun"))) :=
  date_time_recovered moscow ⟨by decide, by decide⟩ (asciiBytes "Sun")

theorem CalendarDate.getLast?_text (date : CalendarDate) (width : Nat) : (date.text width).getLast? = some 84 := by
  rw [text, List.getLast?_append]
  rfl

/-- In Central Europe, the second before one o'clock UTC on 1970-01-01 is not recovered, and in Moscow the first of
2012 is an hour off. A long month is written past the buffer, and a text without a year is a time. -/
theorem not_date_time_recovered :
    getTime (constantZone (-3600)) (setTime 3599) ≠ 3599 ∧
      getTime moscow (setTime 1325376000) = 1325372400 ∧
      ¬Bounded (asciiBytes "Sun, 1 Januaryjanuaryjanuary 2023 00:00:00 GMT") ∧
      ¬(¬Valid (asciiBytes "Sun, 1 Jan") → ∀ zone, getTime zone (asciiBytes "Sun, 1 Jan") = -1) := by
  refine ⟨by decide, by decide, ?_, fun rejects => ?_⟩
  · rw [Bounded]
    decide
  · have invalid : ¬Valid (asciiBytes "Sun, 1 Jan") := by
      rintro ⟨fields, same | same⟩
      · have last := fields.getLast?_text 1
        rw [← same] at last
        exact absurd last (by decide)
      · have last := fields.getLast?_text 2
        rw [← same] at last
        exact absurd last (by decide)
    exact absurd (rejects invalid (constantZone (-3600))) (by decide)

end HeaderDate

end BelleSip
