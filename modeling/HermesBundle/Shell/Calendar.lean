import HermesBundle.Shell.Octets

/-! # Calendar — dates, times of day and how they are written

    A moment is a number of seconds from the epoch and a fraction.  All
    clocks show universal time.  Dates follow the Gregorian rules without
    end in both directions. -/

namespace HermesBundle.Shell

/-- A moment: seconds from the epoch and nanoseconds after them. -/
structure Moment where
  seconds : Int
  nanoseconds : Nat
deriving DecidableEq

namespace Moment

/-- The moment of a number of milliseconds from the epoch. -/
def ofMilliseconds (n : Int) : Moment := ⟨Int.fdiv n 1000, (Int.fmod n 1000).toNat * 1000000⟩

/-- The milliseconds from the epoch to a moment. -/
def milliseconds (m : Moment) : Int := m.seconds * 1000 + ((m.nanoseconds / 1000000 : Nat) : Int)

end Moment

/-- A day and a time of day. -/
structure Calendar where
  year : Int
  /-- From 1 to 12. -/
  month : Nat
  day : Nat
  hour : Nat
  minute : Nat
  second : Nat
  nanoseconds : Nat
deriving DecidableEq

namespace Calendar

/-- The days from the epoch to a day; months beyond a year and days beyond a
    month count on. -/
def daysFrom (year : Int) (month : Int) (day : Int) : Int :=
  let months := year * 12 + (month - 1)
  let y := Int.fdiv months 12
  let m := (Int.fmod months 12).toNat + 1
  -- A year that starts in March ends in its leap day.
  let y := if m ≤ 2 then y - 1 else y
  let era := Int.fdiv y 400
  let yearOfEra := Int.fmod y 400
  let shifted : Nat := if m > 2 then m - 3 else m + 9
  let dayOfYear : Int := ((153 * shifted + 2) / 5 : Nat)
  let dayOfEra := yearOfEra * 365 + Int.fdiv yearOfEra 4 - Int.fdiv yearOfEra 100 + dayOfYear
  era * 146097 + dayOfEra - 719468 + (day - 1)

/-- Year, month and day of a number of days from the epoch. -/
def ofDays (days : Int) : Int × Nat × Nat :=
  let z := days + 719468
  let era := Int.fdiv z 146097
  let dayOfEra := (Int.fmod z 146097).toNat
  let yearOfEra := (dayOfEra - dayOfEra / 1460 + dayOfEra / 36524 - dayOfEra / 146096) / 365
  let dayOfYear := dayOfEra - (365 * yearOfEra + yearOfEra / 4 - yearOfEra / 100)
  let shifted := (5 * dayOfYear + 2) / 153
  let day := dayOfYear - (153 * shifted + 2) / 5 + 1
  let month := if shifted < 10 then shifted + 3 else shifted - 9
  let year := (yearOfEra : Int) + era * 400
  (if month ≤ 2 then year + 1 else year, month, day)

/-- The seconds from the epoch to a time of a day. -/
def secondsFrom (year month day hour minute second : Int) : Int :=
  ((daysFrom year month day * 24 + hour) * 60 + minute) * 60 + second

/-- The day and the time of a moment. -/
def ofMoment (m : Moment) : Calendar :=
  let days := Int.fdiv m.seconds 86400
  let rest := (Int.fmod m.seconds 86400).toNat
  let (year, month, day) := ofDays days
  ⟨year, month, day, rest / 3600, rest / 60 % 60, rest % 60, m.nanoseconds⟩

/-- The days from the epoch to the day. -/
def days (c : Calendar) : Int := daysFrom c.year c.month c.day

/-- The day of the week, from Sunday on. -/
def weekday (c : Calendar) : Nat := (Int.fmod (c.days + 4) 7).toNat

/-- The day of the year, from 0 on. -/
def yearday (c : Calendar) : Nat := (c.days - daysFrom c.year 1 1).toNat

/-- The week that a day belongs to by the rule that weeks start on Monday
    and belong to the year of their Thursday. -/
def isoWeek (c : Calendar) : Int × Nat :=
  let monday := (c.weekday + 6) % 7
  let thursday := c.days - monday + 3
  let (year, _, _) := ofDays thursday
  (year, ((thursday - daysFrom year 1 1) / 7).toNat + 1)

/-- The names of the days of the week. -/
def weekdays : List String :=
  ["Sunday", "Monday", "Tuesday", "Wednesday", "Thursday", "Friday", "Saturday"]

/-- The names of the months. -/
def months : List String :=
  ["January", "February", "March", "April", "May", "June", "July", "August", "September", "October",
   "November", "December"]

/-- A name from a list. -/
def nameIn (names : List String) (n : Nat) : Octets := ((names[n]?).getD "").toList

/-! ## Formats -/

/-- How a field is filled up. -/
structure FieldFill where
  /-- The filling, or nothing for the one that is usual. -/
  fill : Option Char
  /-- Whether nothing is filled up. -/
  isBare : Bool
  width : Nat
  isRaised : Bool
  isSwapped : Bool
  /-- How many colons stand before the field. -/
  colons : Nat

/-- A number in a field. -/
def numberField (f : FieldFill) (usual : Char) (width : Nat) (n : Int) : Octets :=
  let digits := decimal n.natAbs
  let width := if f.width = 0 then width else f.width
  let sign := if n < 0 then ['-'] else []
  let fill := f.fill.getD usual
  if f.isBare then sign ++ digits
  else if fill == ' ' then padLeft ' ' width (sign ++ digits)
  else sign ++ padLeft '0' (width - sign.length) digits

/-- A text in a field. -/
def textField (f : FieldFill) (t : Octets) : Octets :=
  let t := if f.isRaised then t.map raised else t
  if f.isBare then t else padLeft (f.fill.getD ' ') f.width t

/-- Reads the flags of a field; the letter of it and what follows are
    returned as well. -/
def readFill : Nat → Octets → FieldFill → FieldFill × Octets
  | 0, t, f => (f, t)
  | fuel + 1, t, f =>
      match t with
      | '-' :: rest => readFill fuel rest { f with isBare := true }
      | '_' :: rest => readFill fuel rest { f with fill := some ' ', isBare := false }
      | '0' :: rest => readFill fuel rest { f with fill := some '0', isBare := false }
      | '+' :: rest => readFill fuel rest { f with fill := some '0', isBare := false }
      | '\x5e' :: rest => readFill fuel rest { f with isRaised := true }
      | '#' :: rest => readFill fuel rest { f with isSwapped := true }
      | _ =>
          let digits := t.takeWhile isDigit
          let rest := t.drop digits.length
          let rest := match rest with
            | 'E' :: r => r
            | 'O' :: r => r
            | r => r
          let colons := (rest.takeWhile (· == ':')).length
          ({ f with width := valueOfDigits 10 digits, colons := colons }, rest.drop colons)

/-- The text of a field; none if there is no such field. -/
def fieldText (c : Calendar) (seconds : Int) (f : FieldFill) (letter : Char) : Option Octets :=
  let number := fun (usual : Char) (width : Nat) (n : Int) => some (numberField f usual width n)
  let name := fun (t : Octets) =>
    some (textField { f with isRaised := f.isRaised || f.isSwapped } t)
  let two := fun (n : Nat) => zeroPadded 10 2 n
  let hour12 := if c.hour % 12 = 0 then 12 else c.hour % 12
  let clock := two c.hour ++ [':'] ++ two c.minute ++ [':'] ++ two c.second
  let year := numberField ⟨none, false, 0, false, false, 0⟩ '0' 1 c.year
  let fullDate := padLeft '0' 4 year ++ ['-'] ++ two c.month ++ ['-'] ++ two c.day
  let plainName := fun (t : Octets) => t.take 3
  match letter with
  | 'Y' => number '0' 1 c.year
  | 'C' => number '0' 2 (Int.fdiv c.year 100)
  | 'y' => number '0' 2 (Int.fmod c.year 100)
  | 'm' => number '0' 2 c.month
  | 'd' => number '0' 2 c.day
  | 'e' => number ' ' 2 c.day
  | 'H' => number '0' 2 c.hour
  | 'k' => number ' ' 2 c.hour
  | 'I' => number '0' 2 hour12
  | 'l' => number ' ' 2 hour12
  | 'M' => number '0' 2 c.minute
  | 'S' => number '0' 2 c.second
  | 'N' =>
      let digits := zeroPadded 10 9 c.nanoseconds
      if f.isBare then
        let kept := (digits.reverse.dropWhile (· == '0')).reverse
        some (if kept.isEmpty then ['0'] else kept)
      else some (if f.width = 0 then digits else digits.take f.width ++ List.replicate (f.width - 9) '0')
  | 's' => number '0' 1 seconds
  | 'j' => number '0' 3 (c.yearday + 1)
  | 'u' => number '0' 1 (if c.weekday = 0 then 7 else c.weekday)
  | 'w' => number '0' 1 c.weekday
  | 'U' => number '0' 2 ((c.yearday + 7 - c.weekday) / 7)
  | 'W' => number '0' 2 ((c.yearday + 7 - (c.weekday + 6) % 7) / 7)
  | 'V' => number '0' 2 c.isoWeek.2
  | 'G' => number '0' 1 c.isoWeek.1
  | 'g' => number '0' 2 (Int.fmod c.isoWeek.1 100)
  | 'q' => number '0' 1 ((c.month - 1) / 3 + 1)
  | 'a' => name (plainName (nameIn weekdays c.weekday))
  | 'A' => name (nameIn weekdays c.weekday)
  | 'b' => name (plainName (nameIn months (c.month - 1)))
  | 'h' => name (plainName (nameIn months (c.month - 1)))
  | 'B' => name (nameIn months (c.month - 1))
  | 'p' =>
      let t := if c.hour < 12 then "AM".toList else "PM".toList
      some (textField f (if f.isSwapped then t.map lowered else t))
  | 'P' => some (textField f (if c.hour < 12 then "am".toList else "pm".toList))
  | 'T' => some (textField f clock)
  | 'X' => some (textField f clock)
  | 'R' => some (textField f (clock.take 5))
  | 'r' =>
      some (textField f (two hour12 ++ clock.drop 2 ++ (if c.hour < 12 then " AM" else " PM").toList))
  | 'D' =>
      some (textField f (two c.month ++ ['/'] ++ two c.day ++ ['/'] ++ two (Int.fmod c.year 100).toNat))
  | 'x' =>
      some (textField f (two c.month ++ ['/'] ++ two c.day ++ ['/'] ++ two (Int.fmod c.year 100).toNat))
  | 'F' => some (textField f fullDate)
  | 'c' =>
      some (textField f (plainName (nameIn weekdays c.weekday) ++ [' ']
        ++ plainName (nameIn months (c.month - 1)) ++ [' '] ++ padLeft ' ' 2 (decimal c.day) ++ [' ']
        ++ clock ++ [' '] ++ year))
  | 'z' =>
      some (match f.colons with
        | 0 => "+0000".toList
        | 1 => "+00:00".toList
        | 2 => "+00:00:00".toList
        | _ => "+00".toList)
  | 'Z' =>
      some (textField f (if f.isSwapped then "utc".toList else "UTC".toList))
  | 'n' => some ['\n']
  | 't' => some ['\t']
  | '%' => some ['%']
  | _ => none

/-- Fills the fields of a format; what was written so far is in reverse. -/
def formatLoop (c : Calendar) (seconds : Int) : Nat → Octets → Octets → Octets
  | 0, _, found => found.reverse
  | _, [], found => found.reverse
  | fuel + 1, '%' :: rest, found =>
      let (f, after) := readFill rest.length rest ⟨none, false, 0, false, false, 0⟩
      match after with
      | [] => (found.reverse ++ '%' :: rest)
      | letter :: after =>
          match fieldText c seconds f letter with
          | some t => formatLoop c seconds fuel after (t.reverse ++ found)
          | none =>
              let source := '%' :: rest.take (rest.length - after.length)
              formatLoop c seconds fuel after (source.reverse ++ found)
  | fuel + 1, d :: rest, found => formatLoop c seconds fuel rest (d :: found)

/-- A moment in a format. -/
def format (t : Octets) (m : Moment) : Octets :=
  formatLoop (ofMoment m) m.seconds (t.length + 1) t []

/-! ## Reading -/

/-- A part of the description of a moment. -/
inductive DateToken where
  | number (digits : Octets)
  | word (letters : Octets)
  | mark (c : Char)
deriving DecidableEq

/-- Divides a description into its parts; notes in parentheses are left
    out. -/
def dateTokens : Nat → Octets → List DateToken → List DateToken
  | 0, _, found => found.reverse
  | _, [], found => found.reverse
  | fuel + 1, c :: rest, found =>
      if isSpace c then dateTokens fuel rest found
      else if isDigit c then
        let digits := (c :: rest).takeWhile isDigit
        dateTokens fuel ((c :: rest).drop digits.length) (.number digits :: found)
      else if isLetter c then
        let letters := (c :: rest).takeWhile fun d => isLetter d || d == '.'
        dateTokens fuel ((c :: rest).drop letters.length)
          (.word ((letters.filter (· != '.')).map lowered) :: found)
      else dateTokens fuel rest (.mark c :: found)

/-- What has been read of a description. -/
structure DateReading where
  date : Option (Int × Int × Int)
  time : Option (Nat × Nat × Nat × Nat)
  /-- Minutes east of universal time. -/
  zone : Option Int
  /-- Changes in months, days, seconds and nanoseconds. -/
  months : Int
  days : Int
  seconds : Int
  /-- A day of the week and which one of them. -/
  weekday : Option (Nat × Int)
  moment : Option Moment
  /-- How many dates, times, zones and days of the week there are. -/
  dates : Nat
  times : Nat
  zones : Nat
  weekdayCount : Nat
  hasRelative : Bool

/-- Nothing has been read. -/
def DateReading.empty : DateReading :=
  ⟨none, none, none, 0, 0, 0, none, none, 0, 0, 0, 0, false⟩

/-- A year as it is written; two digits stand for the years from 1969 to
    2068. -/
def yearOf (digits : Octets) : Int :=
  let n := valueOfDigits 10 digits
  if digits.length ≤ 2 then if n < 69 then n + 2000 else n + 1900 else n

/-- The place of a word among names, which may be cut to some length. -/
def namePlace (names : List String) (word : Octets) : Option Nat :=
  let fits := fun (name : String) =>
    let full := name.toList.map lowered
    word == full || word == full.take 3 || (full == "september".toList && word == "sept".toList)
      || (full == "tuesday".toList && word == "tues".toList)
      || (full == "wednesday".toList && word == "wednes".toList)
      || (full == "thursday".toList && (word == "thur".toList || word == "thurs".toList))
  names.findIdx? fits

/-- The unit of a change, by its months, days and seconds. -/
def unitOf (word : Octets) : Option (Int × Int × Int) :=
  let bare := String.ofList word
  let single := if word.getLast? == some 's' && word.length > 1 then String.ofList word.dropLast else bare
  match single with
  | "year" => some (12, 0, 0)
  | "month" => some (1, 0, 0)
  | "fortnight" => some (0, 14, 0)
  | "week" => some (0, 7, 0)
  | "day" => some (0, 1, 0)
  | "hour" => some (0, 0, 3600)
  | "minute" => some (0, 0, 60)
  | "min" => some (0, 0, 60)
  | "second" => some (0, 0, 1)
  | "sec" => some (0, 0, 1)
  | _ => none

/-- The number that a word of order stands for. -/
def ordinalOf (word : Octets) : Option Int :=
  match String.ofList word with
  | "last" => some (-1)
  | "this" => some 0
  | "next" => some 1
  | "first" => some 1
  | "third" => some 3
  | "fourth" => some 4
  | "fifth" => some 5
  | "sixth" => some 6
  | "seventh" => some 7
  | "eighth" => some 8
  | "ninth" => some 9
  | "tenth" => some 10
  | "eleventh" => some 11
  | "twelfth" => some 12
  | _ => none

/-- Adds a change to what was read. -/
def DateReading.change (r : DateReading) (count : Int) (step : Int × Int × Int) : DateReading :=
  { r with
    months := r.months + count * step.1, days := r.days + count * step.2.1
    seconds := r.seconds + count * step.2.2, hasRelative := true }

/-- Takes a change back if it is said to be in the past. -/
def agoSign (rest : List DateToken) : Int × List DateToken :=
  match rest with
  | .word w :: after => if w == "ago".toList then (-1, after) else (1, rest)
  | _ => (1, rest)

/-- The nanoseconds of digits after a point. -/
def nanosecondsOf (digits : Octets) : Nat := valueOfDigits 10 (padRight '0' 9 (digits.take 9))

/-- The hour of a time of twelve hours. -/
def hourOf (hour : Nat) (half : Octets) : Option Nat :=
  if hour = 0 || 12 < hour then none
  else if half == "am".toList then some (hour % 12)
  else if half == "pm".toList then some (hour % 12 + 12)
  else none

/-- Reads a zone after a sign. -/
def readZone (sign : Int) (rest : List DateToken) : Option (Int × List DateToken) :=
  match rest with
  | .number h :: .mark ':' :: .number m :: rest =>
      some (sign * ((valueOfDigits 10 h * 60 + valueOfDigits 10 m : Nat) : Int), rest)
  | .number h :: rest =>
      let n := valueOfDigits 10 h
      let minutes := if h.length ≤ 2 then n * 60 else n / 100 * 60 + n % 100
      if minutes ≤ 24 * 60 then some (sign * (minutes : Int), rest) else none
  | _ => none

/-- Reads what may follow a time: a half of the day, or a zone. -/
def readAfterTime (r : DateReading) (hour minute second nanoseconds : Nat) (rest : List DateToken) :
    Option (DateReading × List DateToken) :=
  let done := fun (hour : Nat) (r : DateReading) (rest : List DateToken) =>
    if hour < 24 && minute < 60 && second < 60 then
      some ({ r with time := some (hour, minute, second, nanoseconds), times := r.times + 1 }, rest)
    else none
  match rest with
  | .word w :: after =>
      if w == "am".toList || w == "pm".toList then
        match hourOf hour w with
        | some h => done h r after
        | none => none
      else done hour r rest
  | .mark '+' :: .number h :: after =>
      -- A sign right after a time starts a zone, unless a unit follows.
      match after with
      | .word w :: _ =>
          if (unitOf w).isSome then done hour r rest
          else
            match readZone 1 (.number h :: after) with
            | some (z, after) => done hour { r with zone := some z, zones := r.zones + 1 } after
            | none => none
      | _ =>
          match readZone 1 (.number h :: after) with
          | some (z, after) => done hour { r with zone := some z, zones := r.zones + 1 } after
          | none => none
  | .mark '-' :: .number h :: after =>
      match after with
      | .word w :: _ =>
          if (unitOf w).isSome then done hour r rest
          else
            match readZone (-1) (.number h :: after) with
            | some (z, after) => done hour { r with zone := some z, zones := r.zones + 1 } after
            | none => none
      | _ =>
          match readZone (-1) (.number h :: after) with
          | some (z, after) => done hour { r with zone := some z, zones := r.zones + 1 } after
          | none => none
  | _ => done hour r rest

/-- Reads one item of a description. -/
def readItem (r : DateReading) (tokens : List DateToken) : Option (DateReading × List DateToken) :=
  let value := valueOfDigits 10
  let dated := fun (year month day : Int) (rest : List DateToken) =>
    some ({ r with date := some (year, month, day), dates := r.dates + 1 }, rest)
  match tokens with
  | .number h :: .mark ':' :: .number m :: .mark ':' :: .number s :: .mark '.' :: .number f :: rest =>
      readAfterTime r (value h) (value m) (value s) (nanosecondsOf f) rest
  | .number h :: .mark ':' :: .number m :: .mark ':' :: .number s :: .mark ',' :: .number f :: rest =>
      readAfterTime r (value h) (value m) (value s) (nanosecondsOf f) rest
  | .number h :: .mark ':' :: .number m :: .mark ':' :: .number s :: rest =>
      readAfterTime r (value h) (value m) (value s) 0 rest
  | .number h :: .mark ':' :: .number m :: rest => readAfterTime r (value h) (value m) 0 0 rest
  | .number y :: .mark '-' :: .number m :: .mark '-' :: .number d :: rest =>
      dated (yearOf y) (value m) (value d) rest
  | .number a :: .mark '/' :: .number b :: .mark '/' :: .number c :: rest =>
      if a.length ≥ 4 then dated (value a) (value b) (value c) rest
      else dated (yearOf c) (value a) (value b) rest
  | .number a :: .mark '/' :: .number b :: rest =>
      some ({ r with date := some (-1, value a, value b), dates := r.dates + 1 }, rest)
  | .number d :: .mark '-' :: .word w :: .mark '-' :: .number y :: rest =>
      match namePlace months w with
      | some m => dated (yearOf y) (m + 1 : Nat) (value d) rest
      | none => none
  | .number d :: .word w :: rest =>
      match namePlace months w, rest with
      | some m, .number y :: .mark ':' :: more =>
          some ({ r with date := some (-1, (m + 1 : Nat), value d), dates := r.dates + 1 },
            .number y :: .mark ':' :: more)
      | some m, .number y :: more => dated (yearOf y) (m + 1 : Nat) (value d) more
      | some m, more =>
          some ({ r with date := some (-1, (m + 1 : Nat), value d), dates := r.dates + 1 }, more)
      | none, rest =>
          match unitOf w with
          | some step =>
              let (sign, rest) := agoSign rest
              some (r.change (sign * (value d : Int)) step, rest)
          | none =>
              if w == "am".toList || w == "pm".toList then readAfterTime r (value d) 0 0 0 (.word w :: rest)
              else if w == ['t'] then
                if d.length = 8 then
                  let n := value d
                  dated (n / 10000 : Nat) (n / 100 % 100 : Nat) (n % 100 : Nat) (.word w :: rest)
                else none
              else if w == ['z'] && d.length = 4 then
                readAfterTime r (value d / 100) (value d % 100) 0 0 (.word w :: rest)
              else
                match namePlace weekdays w with
                | some day =>
                    some ({ r with weekday := some (day, value d), weekdayCount := r.weekdayCount + 1 }, rest)
                | none => none
  | .number n :: rest =>
      let v := value n
      if n.length = 8 then dated (v / 10000 : Nat) (v / 100 % 100 : Nat) (v % 100 : Nat) rest
      else if n.length = 6 then dated (yearOf (n.take 2)) (v / 100 % 100 : Nat) (v % 100 : Nat) rest
      else if n.length ≤ 2 then readAfterTime r v 0 0 0 rest
      else if n.length ≤ 4 then
        if r.dates > 0 && r.times > 0 then
          some ({ r with date := r.date.map fun (_, m, d) => ((v : Int), m, d) }, rest)
        else readAfterTime r (v / 100) (v % 100) 0 0 rest
      else none
  | .mark '+' :: .number n :: .word w :: rest =>
      match unitOf w with
      | some step =>
          let (sign, rest) := agoSign rest
          some (r.change (sign * (value n : Int)) step, rest)
      | none => none
  | .mark '-' :: .number n :: .word w :: rest =>
      match unitOf w with
      | some step =>
          let (sign, rest) := agoSign rest
          some (r.change (-sign * (value n : Int)) step, rest)
      | none => none
  | .mark ',' :: rest => some (r, rest)
  | .mark '-' :: .mark '-' :: _ => none
  | .word w :: rest =>
      match namePlace months w with
      | some m =>
          match rest with
          | .number d :: .mark ',' :: .number y :: rest => dated (yearOf y) (m + 1 : Nat) (value d) rest
          | .number d :: .mark ':' :: rest => some (r, .number d :: .mark ':' :: rest)
          | .mark '-' :: .number d :: .mark '-' :: .number y :: rest =>
              dated (yearOf y) (m + 1 : Nat) (value d) rest
          | .number d :: .number y :: .mark ':' :: rest =>
              some ({ r with date := some (-1, (m + 1 : Nat), value d), dates := r.dates + 1 },
                .number y :: .mark ':' :: rest)
          | .number d :: .number y :: rest =>
              if y.length = 4 && r.time.isNone then dated (yearOf y) (m + 1 : Nat) (value d) rest
              else if y.length = 4 then dated (yearOf y) (m + 1 : Nat) (value d) rest
              else
                some ({ r with date := some (-1, (m + 1 : Nat), value d), dates := r.dates + 1 },
                  .number y :: rest)
          | .number d :: rest =>
              if d.length = 4 then dated (value d) (m + 1 : Nat) 1 rest
              else
                some ({ r with date := some (-1, (m + 1 : Nat), value d), dates := r.dates + 1 }, rest)
          | _ => none
      | none =>
          match namePlace weekdays w with
          | some day =>
              let rest := match rest with
                | .mark ',' :: more => more
                | more => more
              some ({ r with weekday := some (day, 0), weekdayCount := r.weekdayCount + 1 }, rest)
          | none =>
              match String.ofList w with
              | "now" => some ({ r with hasRelative := true }, rest)
              | "today" => some ({ r with hasRelative := true }, rest)
              | "tomorrow" => some (r.change 1 (0, 1, 0), rest)
              | "yesterday" => some (r.change (-1) (0, 1, 0), rest)
              | "utc" => some ({ r with zone := some 0, zones := r.zones + 1 }, rest)
              | "gmt" => some ({ r with zone := some 0, zones := r.zones + 1 }, rest)
              | "z" => some ({ r with zone := some 0, zones := r.zones + 1 }, rest)
              | "est" => some ({ r with zone := some (-300), zones := r.zones + 1 }, rest)
              | "edt" => some ({ r with zone := some (-240), zones := r.zones + 1 }, rest)
              | "cst" => some ({ r with zone := some (-360), zones := r.zones + 1 }, rest)
              | "cdt" => some ({ r with zone := some (-300), zones := r.zones + 1 }, rest)
              | "mst" => some ({ r with zone := some (-420), zones := r.zones + 1 }, rest)
              | "pst" => some ({ r with zone := some (-480), zones := r.zones + 1 }, rest)
              | "pdt" => some ({ r with zone := some (-420), zones := r.zones + 1 }, rest)
              | "cet" => some ({ r with zone := some 60, zones := r.zones + 1 }, rest)
              | "t" => some (r, rest)
              | _ =>
                  match unitOf w with
                  | some step =>
                      let (sign, rest) := agoSign rest
                      some (r.change sign step, rest)
                  | none =>
                      match ordinalOf w, rest with
                      | some n, .word u :: rest =>
                          match unitOf u, namePlace weekdays u with
                          | some step, _ =>
                              let (sign, rest) := agoSign rest
                              some (r.change (sign * n) step, rest)
                          | none, some day =>
                              some ({ r with
                                weekday := some (day, n), weekdayCount := r.weekdayCount + 1 }, rest)
                          | none, none => none
                      | _, _ => none
  | _ => none

/-- Reads the items of a description. -/
def readItems : Nat → DateReading → List DateToken → Option DateReading
  | 0, _, _ => none
  | _, r, [] => some r
  | fuel + 1, r, tokens => do
      let (r, rest) ← readItem r tokens
      readItems fuel r rest

/-- The moment that seconds with a fraction stand for. -/
def momentOfSeconds (t : Octets) : Option Moment :=
  let (isNegative, t) := match t with
    | '-' :: rest => (true, rest)
    | '+' :: rest => (false, rest)
    | rest => (false, rest)
  let digits := t.takeWhile isDigit
  let rest := t.drop digits.length
  let fraction := match rest with
    | '.' :: f => some f
    | ',' :: f => some f
    | [] => some []
    | _ => none
  match fraction with
  | none => none
  | some f =>
      if digits.isEmpty || !f.all isDigit || (f.isEmpty && !rest.isEmpty) then none
      else
        let seconds : Int := valueOfDigits 10 digits
        let nanoseconds := nanosecondsOf f
        if Nat.pow 2 63 ≤ seconds.natAbs then none
        else if isNegative then
          if nanoseconds = 0 then some ⟨-seconds, 0⟩ else some ⟨-seconds - 1, 1000000000 - nanoseconds⟩
        else some ⟨seconds, nanoseconds⟩

/-- The moment that a description stands for, seen from the present. -/
def momentOf (now : Moment) (description : Octets) : Option Moment :=
  let t := description.dropWhile isSpace
  match t with
  | '@' :: rest => momentOfSeconds (rest.reverse.dropWhile isSpace).reverse
  | _ => do
      let tokens := dateTokens (t.length + 1) t []
      let r ← readItems (tokens.length + 1) .empty tokens
      if r.dates > 1 || r.times > 1 || r.zones > 1 || r.weekdayCount > 1 then none
      else do
        let present := ofMoment now
        let (year, month, day) :=
          match r.date with
          | some (-1, m, d) => (present.year, m, d)
          | some d => d
          | none => (present.year, (present.month : Int), (present.day : Int))
        -- A date has to be one of the calendar.
        let (y, m, d) := ofDays (daysFrom year month day)
        if (y, (m : Int), (d : Int)) != (year, month, day) then none
        else do
          let midnight := r.date.isSome || r.weekday.isSome
            || (r.dates + r.times + r.zones + r.weekdayCount = 0 && !r.hasRelative)
          let (hour, minute, second, nanoseconds) :=
            match r.time with
            | some t => t
            | none =>
                if midnight then (0, 0, 0, 0)
                else (present.hour, present.minute, present.second, present.nanoseconds)
          let base := daysFrom year (month + r.months) day + r.days
          let base :=
            match r.weekday with
            | some (wanted, n) =>
                if r.date.isSome then base
                else
                  let weekday := Int.fmod (base + 4) 7
                  let ahead := Int.fmod ((wanted : Int) - weekday) 7
                  base + ahead + 7 * (if n > 0 && ahead != 0 then n - 1 else n)
            | none => base
          let seconds := ((base * 24 + hour) * 60 + minute) * 60 + second
            - r.zone.getD 0 * 60 + r.seconds
          return ⟨seconds, nanoseconds⟩

/-- The moment that digits of the form of time stamps stand for. -/
def momentOfStamp (now : Moment) (t : Octets) : Option Moment := do
  let digits := t.takeWhile isDigit
  let second ← match t.drop digits.length with
    | [] => some 0
    | '.' :: s => if s.length = 2 && s.all isDigit then some (valueOfDigits 10 s) else none
    | _ => none
  let two := fun (n : Nat) => (valueOfDigits 10 ((digits.drop n).take 2) : Int)
  let present := ofMoment now
  let (year, from_) ← match digits.length with
    | 8 => some (present.year, 0)
    | 10 =>
        let y := two 0
        some (if y < 69 then y + 2000 else y + 1900, 2)
    | 12 => some ((valueOfDigits 10 (digits.take 4) : Int), 4)
    | _ => none
  let month := two from_
  let day := two (from_ + 2)
  let hour := two (from_ + 4)
  let minute := two (from_ + 6)
  let (y, m, d) := ofDays (daysFrom year month day)
  if (y, (m : Int), (d : Int)) != (year, month, day) || 23 < hour || 59 < minute || 60 < second then none
  else some ⟨secondsFrom year month day hour minute second, 0⟩

end Calendar

end HermesBundle.Shell
