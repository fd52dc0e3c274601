import StubAssist.Text

/-!
# Calendar

Days and times of the proleptic Gregorian calendar, counted in seconds since the start
of 1970, without time zones.
-/

namespace StubAssist
namespace Shell

structure Moment where
  year : Int
  month : Nat
  day : Nat
  hour : Nat
  minute : Nat
  second : Nat
deriving DecidableEq, Repr

namespace Moment

/-- Days since the start of 1970; years begin in March for this, so that leap days come last. -/
def daysOfDate (year : Int) (month day : Nat) : Int :=
  let year := if month ≤ 2 then year - 1 else year
  let era := year / 400
  let yearOfEra := (year - era * 400).toNat
  let dayOfYear := (153 * (if 2 < month then month - 3 else month + 9) + 2) / 5 + day - 1
  let dayOfEra := yearOfEra * 365 + yearOfEra / 4 - yearOfEra / 100 + dayOfYear
  era * 146097 + dayOfEra - 719468

def dateOfDays (days : Int) : Int × Nat × Nat :=
  let days := days + 719468
  let era := days / 146097
  let dayOfEra := (days - era * 146097).toNat
  let yearOfEra := (dayOfEra - dayOfEra / 1460 + dayOfEra / 36524 - dayOfEra / 146096) / 365
  let dayOfYear := dayOfEra - (365 * yearOfEra + yearOfEra / 4 - yearOfEra / 100)
  let shifted := (5 * dayOfYear + 2) / 153
  let day := dayOfYear - (153 * shifted + 2) / 5 + 1
  let month := if shifted < 10 then shifted + 3 else shifted - 9
  (yearOfEra + era * 400 + if month ≤ 2 then 1 else 0, month, day)

def days (moment : Moment) : Int :=
  daysOfDate moment.year moment.month moment.day

def toSeconds (moment : Moment) : Int :=
  moment.days * 86400 + moment.hour * 3600 + moment.minute * 60 + moment.second

def ofSeconds (seconds : Int) : Moment :=
  let days := seconds / 86400
  let rest := (seconds % 86400).toNat
  let (year, month, day) := dateOfDays days
  ⟨year, month, day, rest / 3600, rest / 60 % 60, rest % 60⟩

def isLeapYear (year : Int) : Bool :=
  year % 4 == 0 && (year % 100 != 0 || year % 400 == 0)

def daysInMonth (year : Int) (month : Nat) : Nat :=
  if month == 2 then (if isLeapYear year then 29 else 28)
  else if [4, 6, 9, 11].contains month then 30 else 31

def isValid (moment : Moment) : Bool :=
  1 ≤ moment.month && moment.month ≤ 12 && 1 ≤ moment.day &&
    moment.day ≤ daysInMonth moment.year moment.month &&
    moment.hour < 24 && moment.minute < 60 && moment.second ≤ 60

def weekday (moment : Moment) : Nat :=
  ((moment.days + 4) % 7).toNat

def dayOfYear (moment : Moment) : Nat :=
  (moment.days - daysOfDate moment.year 1 1).toNat + 1

def weekdayNames : List Text :=
  ["Sunday", "Monday", "Tuesday", "Wednesday", "Thursday", "Friday", "Saturday"]

def monthNames : List Text :=
  ["January", "February", "March", "April", "May", "June", "July", "August", "September",
    "October", "November", "December"]

def weekdayName (moment : Moment) : Text :=
  weekdayNames[moment.weekday]?.getD []

def monthName (moment : Moment) : Text :=
  monthNames[moment.month - 1]?.getD []

/-- The week and its year, where a week belongs to the year that its Thursday is in. -/
def isoWeek (moment : Moment) : Int × Nat :=
  let thursday := moment.days + 3 - (moment.days + 3) % 7
  let (year, _, _) := dateOfDays thursday
  (year, ((thursday - daysOfDate year 1 1) / 7).toNat + 1)

/-!
# Writing
-/

structure Filling where
  character : Option Char
  width : Nat
deriving DecidableEq, Repr

/-- A number with its usual width and filling, unless others are asked for. -/
def numeral (sign : Option Char) (given : Option Nat) (character : Char) (width : Nat) (n : Int) :
    Text :=
  let digits := Text.ofNat n.natAbs
  let minus : Text := if n < 0 then ['-'] else []
  match sign with
  | some '-' => minus ++ digits
  | _ =>
      let filler := match sign with
        | some '_' => ' '
        | some '0' => '0'
        | _ => character
      let missing := (given.getD width) - (minus ++ digits).length
      if filler == '0' then minus ++ List.replicate missing '0' ++ digits
      else List.replicate missing filler ++ minus ++ digits

/-- A text with its filling, in capitals or in the other case if that is asked for. -/
def word (flags : Text) (given : Option Nat) (swapsToLower : Bool) (t : Text) : Text :=
  let t :=
    if List.contains flags '^' then t.map Char.toUpper
    else if List.contains flags '#' then t.map (if swapsToLower then Char.toLower else Char.toUpper)
    else t
  let missing := (given.getD 0) - t.length
  let filler := if flags.getLast? == some '0' then '0' else ' '
  List.replicate missing filler ++ t

/-- What a directive stands for; `none` for one without a meaning. -/
def directive? (moment : Moment) (nanos : Nat) (flags : Text) (width : Option Nat) (c : Char) :
    Option Text :=
  let sign := flags.reverse.find? fun c => List.contains "-_0".toList c
  let number := fun (filler : Char) (size : Nat) (n : Int) =>
    some (numeral sign width filler size n)
  let text := fun (t : Text) => some (word flags width false t)
  let two := fun (n : Nat) => numeral none none '0' 2 n
  let twelve := if moment.hour % 12 == 0 then 12 else moment.hour % 12
  let isoDate :=
    numeral none none '0' 4 moment.year ++ '-' :: two moment.month ++ '-' :: two moment.day
  let shortDate := two moment.month ++ '/' :: two moment.day ++ '/' ::
    two (moment.year % 100).toNat
  let clock := two moment.hour ++ ':' :: two moment.minute ++ ':' :: two moment.second
  let half : Text := if moment.hour < 12 then "AM" else "PM"
  match c with
  | '%' => some ['%']
  | 'n' => text ['\n']
  | 't' => text ['\t']
  | 'a' => text ((moment.weekdayName).take 3)
  | 'A' => text moment.weekdayName
  | 'b' | 'h' => text ((moment.monthName).take 3)
  | 'B' => text moment.monthName
  | 'c' =>
      text ((moment.weekdayName).take 3 ++ ' ' :: (moment.monthName).take 3 ++ ' ' ::
        numeral none none ' ' 2 moment.day ++ ' ' :: clock ++ ' ' ::
        numeral none none '0' 1 moment.year)
  | 'C' => number '0' 2 (moment.year / 100)
  | 'd' => number '0' 2 moment.day
  | 'D' | 'x' => text shortDate
  | 'e' => number ' ' 2 moment.day
  | 'F' => text isoDate
  | 'g' => number '0' 2 (moment.isoWeek.1 % 100)
  | 'G' => number '0' 4 moment.isoWeek.1
  | 'H' => number '0' 2 moment.hour
  | 'I' => number '0' 2 twelve
  | 'j' => number '0' 3 moment.dayOfYear
  | 'k' => number ' ' 2 moment.hour
  | 'l' => number ' ' 2 twelve
  | 'm' => number '0' 2 moment.month
  | 'M' => number '0' 2 moment.minute
  | 'N' =>
      let digits := Text.ofNat nanos
      some ((List.replicate (9 - digits.length) '0' ++ digits).take (width.getD 9))
  | 'p' => some (word flags width true half)
  | 'P' => text (half.map Char.toLower)
  | 'q' => number '0' 1 ((moment.month - 1) / 3 + 1)
  | 'r' => text (two twelve ++ ':' :: two moment.minute ++ ':' :: two moment.second ++ ' ' :: half)
  | 'R' => text (two moment.hour ++ ':' :: two moment.minute)
  | 's' => number '0' 1 moment.toSeconds
  | 'S' => number '0' 2 moment.second
  | 'T' | 'X' => text clock
  | 'u' => number '0' 1 (if moment.weekday == 0 then 7 else moment.weekday)
  | 'U' => number '0' 2 ((moment.dayOfYear + 6 - moment.weekday) / 7)
  | 'V' => number '0' 2 moment.isoWeek.2
  | 'w' => number '0' 1 moment.weekday
  | 'W' => number '0' 2 ((moment.dayOfYear + 6 - (moment.weekday + 6) % 7) / 7)
  | 'y' => number '0' 2 (moment.year % 100)
  | 'Y' => number '0' 4 moment.year
  | 'z' => text "+0000"
  | 'Z' => some (word flags width true "UTC")
  | _ => none

def format (moment : Moment) (nanos : Nat) : (fuel : Nat) → Text → Text
  | 0, _ => []
  | _, [] => []
  | fuel + 1, '%' :: rest =>
      let flags := rest.takeWhile fun c => List.contains "-_0^#+".toList c
      let after := rest.drop flags.length
      let digits := after.takeWhile Char.isDigit
      let after := after.drop digits.length
      let width := if digits.isEmpty then none else Text.digitsFrom? 0 digits
      let colons := after.takeWhile (· == ':')
      let after := after.drop colons.length
      match after with
      | [] => '%' :: rest
      | c :: more =>
          let c := if (c == 'E' || c == 'O') && !more.isEmpty then more.headD c else c
          let used := if after.head? == some c then more else more.drop 1
          let found : Option Text :=
            if colons.isEmpty then directive? moment nanos flags width c
            else if c == 'z' then
              some (if colons.length == 1 then "+00:00".toList else "+00:00:00".toList)
            else none
          match found with
          | some t => t ++ format moment nanos fuel used
          | none =>
              let size := rest.length - used.length
              '%' :: rest.take size ++ format moment nanos fuel (rest.drop size)
  | fuel + 1, c :: rest => c :: format moment nanos fuel rest

/-!
# Reading
-/

inductive Word where
  | number (digits : Text)
  | name (letters : Text)
  | sign (c : Char)
deriving DecidableEq, Repr

def words : (fuel : Nat) → Text → List Word
  | 0, _ => []
  | _, [] => []
  | fuel + 1, c :: rest =>
      if c.isDigit then
        .number ((c :: rest).takeWhile Char.isDigit) :: words fuel (rest.dropWhile Char.isDigit)
      else if c.isAlpha then
        .name (((c :: rest).takeWhile Char.isAlpha).map Char.toLower) ::
          words fuel (rest.dropWhile Char.isAlpha)
      else if c == ' ' || c == '\t' || c == '\n' || c == ',' then words fuel rest
      else .sign c :: words fuel rest

structure Description where
  date : Option (Int × Nat × Nat)
  time : Option (Nat × Nat × Nat)
  weekday : Option (Int × Nat)
  years : Int
  months : Int
  days : Int
  seconds : Int
  offset : Int
  isAbsolute : Bool
  hasDay : Bool

namespace Description

def start : Description :=
  ⟨none, none, none, 0, 0, 0, 0, 0, false, false⟩

def value (digits : Text) : Nat :=
  (Text.digitsFrom? 0 digits).getD 0

/-- The place of the name that letters stand for; three of them are enough. -/
def indexOf? (names : List Text) (letters : Text) : Option Nat :=
  names.findIdx? fun name =>
    let name := name.map Char.toLower
    name == letters || name.take 3 == letters || (letters == "sept" && name.take 3 == "sep")

def month? (letters : Text) : Option Nat :=
  (indexOf? monthNames letters).map (· + 1)

def weekday? (letters : Text) : Option Nat :=
  indexOf? weekdayNames letters

def shift? (description : Description) (count : Int) (unit : Text) : Option Description :=
  let unit := if unit.getLast? == some 's' && 3 < unit.length then unit.dropLast else unit
  if unit == "year" then some { description with years := description.years + count }
  else if unit == "month" then some { description with months := description.months + count }
  else if unit == "fortnight" then some { description with days := description.days + 14 * count }
  else if unit == "week" then some { description with days := description.days + 7 * count }
  else if unit == "day" then some { description with days := description.days + count }
  else if unit == "hour" then
    some { description with seconds := description.seconds + 3600 * count }
  else if unit == "minute" || unit == "min" then
    some { description with seconds := description.seconds + 60 * count }
  else if unit == "second" || unit == "sec" then
    some { description with seconds := description.seconds + count }
  else none

def withDate? (description : Description) (year : Int) (month day : Nat) : Option Description :=
  if description.date.isSome then none
  else some { description with date := some (year, month, day) }

def withTime? (description : Description) (hour minute second : Nat) : Option Description :=
  if description.time.isSome then none
  else some { description with time := some (hour, minute, second) }

def fullYear (digits : Text) : Int :=
  let n := value digits
  if digits.length ≤ 2 then (if n < 69 then 2000 + n else 1900 + n) else n

def hourOf? (hour : Nat) (half : Text) : Option Nat :=
  if hour == 0 || 12 < hour then none
  else if half == "am" then some (hour % 12)
  else if half == "pm" then some (hour % 12 + 12)
  else none

def ordinal? (letters : Text) : Option Int :=
  if letters == "last" then some (-1)
  else if letters == "this" then some 0
  else if letters == "next" then some 1
  else none

def read : (fuel : Nat) → Description → List Word → Option Description
  | 0, _, _ => none
  | _, description, [] => some description
  | fuel + 1, description, words =>
      let go := fun (next : Option Description) (rest : List Word) =>
        next.bind fun next => read fuel next rest
      let goBack := fun (count : Int) (unit : Text) (rest : List Word) =>
        match rest with
        | .name ago :: rest' =>
            if ago == "ago" then go (description.shift? (-count) unit) rest'
            else go (description.shift? count unit) rest
        | rest => go (description.shift? count unit) rest
      match words with
      | .number y :: .sign '-' :: .number m :: .sign '-' :: .number d :: rest =>
          let rest := match rest with
            | .name ['t'] :: .number h :: rest => .number h :: rest
            | rest => rest
          go (description.withDate? (fullYear y) (value m) (value d)) rest
      | .number a :: .sign '/' :: .number b :: .sign '/' :: .number c :: rest =>
          if 4 ≤ a.length then go (description.withDate? (fullYear a) (value b) (value c)) rest
          else go (description.withDate? (fullYear c) (value a) (value b)) rest
      | .number h :: .sign ':' :: .number m :: rest =>
          let (second, rest) : Nat × List Word :=
            match rest with
            | .sign ':' :: .number s :: .sign '.' :: .number _ :: rest => (value s, rest)
            | .sign ':' :: .number s :: rest => (value s, rest)
            | rest => (0, rest)
          match rest with
          | .name half :: rest' =>
              match hourOf? (value h) half with
              | some hour => go (description.withTime? hour (value m) second) rest'
              | none => go (description.withTime? (value h) (value m) second) rest
          | .sign s :: .number z :: .sign ':' :: .number zm :: rest' =>
              if s == '+' || s == '-' then
                let offset : Int := value z * 3600 + value zm * 60
                go (({ description with offset := if s == '+' then offset else -offset } :
                  Description).withTime? (value h) (value m) second) rest'
              else none
          | .sign s :: .number z :: rest' =>
              if (s == '+' || s == '-') && z.length == 4 then
                let offset : Int := value (z.take 2) * 3600 + value (z.drop 2) * 60
                go (({ description with offset := if s == '+' then offset else -offset } :
                  Description).withTime? (value h) (value m) second) rest'
              else go (description.withTime? (value h) (value m) second) rest
          | rest => go (description.withTime? (value h) (value m) second) rest
      | .number n :: .name unit :: rest =>
          match month? unit, hourOf? (value n) unit, rest with
          | some month, _, .number y :: .sign ':' :: after =>
              go (description.withDate? 0 month (value n)) (.number y :: .sign ':' :: after)
          | some month, _, .number y :: after =>
              go (description.withDate? (fullYear y) month (value n)) after
          | some month, _, after => go (description.withDate? 0 month (value n)) after
          | none, some hour, after => go (description.withTime? hour 0 0) after
          | none, none, after => goBack (value n) unit after
      | .sign '+' :: .number n :: .name unit :: rest => goBack (value n) unit rest
      | .sign '-' :: .number n :: .name unit :: rest => goBack (-(value n : Int)) unit rest
      | .number digits :: rest =>
          if digits.length == 8 then
            go (description.withDate? (value (digits.take 4)) (value ((digits.drop 4).take 2))
              (value (digits.drop 6))) rest
          else if digits.length == 4 && description.date.isNone then
            go (description.withTime? (value (digits.take 2)) (value (digits.drop 2)) 0) rest
          else if digits.length ≤ 2 && rest.isEmpty then
            go (description.withTime? (value digits) 0 0) rest
          else none
      | .name letters :: rest =>
          match month? letters, rest with
          | some month, .number d :: .number y :: .sign ':' :: after =>
              go (description.withDate? 0 month (value d)) (.number y :: .sign ':' :: after)
          | some month, .number d :: .number y :: after =>
              go (description.withDate? (fullYear y) month (value d)) after
          | some month, .number d :: after => go (description.withDate? 0 month (value d)) after
          | some _, _ => none
          | none, rest =>
              match ordinal? letters, rest with
              | some count, .name unit :: after =>
                  match weekday? unit with
                  | some day =>
                      let weekday := some (count, day)
                      go (some { description with weekday := weekday, hasDay := true }) after
                  | none => goBack count unit after
              | some _, _ => none
              | none, rest =>
                  match weekday? letters with
                  | some day =>
                      go (some { description with weekday := some (0, day), hasDay := true }) rest
                  | none =>
                      if letters == "now" || letters == "today" then go (some description) rest
                      else if letters == "tomorrow" then go (description.shift? 1 "day") rest
                      else if letters == "yesterday" then go (description.shift? (-1) "day") rest
                      else if letters == "utc" || letters == "gmt" || letters == "z" then
                        go (some { description with isAbsolute := true }) rest
                      else goBack 1 letters rest
      | _ => none

end Description

def parse? (now : Int) (t : Text) : Option Int :=
  let trimmed := t.dropWhile fun c => c == ' '
  match trimmed with
  | '@' :: rest =>
      let (isNegative, digits) := match rest with
        | '-' :: digits => (true, digits)
        | digits => (false, digits)
      let whole := digits.takeWhile Char.isDigit
      let after := (digits.dropWhile Char.isDigit).dropWhile fun c => c == '.' || c.isDigit
      if whole.isEmpty || !after.isEmpty then none
      else (Text.digitsFrom? 0 whole).map fun n => if isNegative then -(n : Int) else n
  | _ => do
      let words := words (t.length + 1) t
      let found ← Description.read (words.length + 1) .start words
      let current := ofSeconds now
      let startsDay := found.date.isSome || found.hasDay || t.all (· == ' ') || found.isAbsolute
      let (hour, minute, second) := found.time.getD
        (if startsDay then (0, 0, 0) else (current.hour, current.minute, current.second))
      let (year, month, day) := found.date.getD (current.year, current.month, current.day)
      let year := if year == 0 && found.date.isSome then current.year else year
      let moment : Moment := ⟨year, month, day, hour, minute, second⟩
      if !moment.isValid then none
      else
        let months := year * 12 + (month - 1 : Nat) + found.years * 12 + found.months
        let base := daysOfDate (months / 12) ((months % 12).toNat + 1) day
        let base :=
          match found.weekday with
          | none => base
          | some (count, weekday) =>
              let ahead := ((weekday : Int) - (base + 4)) % 7
              let weeks := if 0 < count && ahead != 0 then count - 1 else count
              base + ahead + 7 * weeks
        some ((base + found.days) * 86400 + hour * 3600 + minute * 60 + second + found.seconds -
          found.offset)

end Moment
end Shell
end StubAssist
