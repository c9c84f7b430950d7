import ComposeLint.Text.Digit

/-!
Dates and times of day as YAML writes them. A time may have a fraction, which is kept to a millionth
of a second, and a zone. Times without a zone are apart from those with one; of two with zones only
the instant counts.
-/

namespace ComposeLint.Yaml

/-- A time of day. The fraction counts millionths; rounding may take it up to a whole second. The
zone is minutes to the east. -/
structure TimeOfDay where
  hour : Nat
  minute : Nat
  second : Nat
  fraction : Nat
  zone? : Option Int
deriving DecidableEq, Repr

structure Moment where
  year : Nat
  month : Nat
  day : Nat
  time? : Option TimeOfDay
deriving DecidableEq, Repr

/-- A part of a moment that no calendar or clock has. -/
inductive Moment.Fault
  | year (n : Nat)
  | month
  | day
  | hour
  | minute
  | second
  | zone (minutes : Int)
  | afterLast
deriving DecidableEq, Repr

namespace Moment

/-- A number of minutes as days and seconds; the seconds are never negative. -/
def dayText (minutes : Int) : Text :=
  let days := minutes / 1440
  let seconds := minutes % 1440 * 60
  "days=".toList ++ Text.ofInt days ++
    if seconds == 0 then [] else ", seconds=".toList ++ Text.ofInt seconds

def Fault.message : Fault → Text
  | .year n => "year ".toList ++ Text.ofNat n ++ " is out of range".toList
  | .month => "month must be in 1..12".toList
  | .day => "day is out of range for month".toList
  | .hour => "hour must be in 0..23".toList
  | .minute => "minute must be in 0..59".toList
  | .second => "second must be in 0..59".toList
  | .zone minutes =>
    ("offset must be a timedelta strictly between -timedelta(hours=24) and ".toList ++
      "timedelta(hours=24), not datetime.timedelta(".toList ++ dayText minutes ++ ").".toList)
  | .afterLast => "date value out of range".toList

/-- Between `least` and `most` figures, as many as there are. -/
def figures? (least most : Nat) (t : Text) : Option (Nat × Nat × Text) :=
  let run := (t.takeWhile Text.isFigure).take most
  if run.length < least then none
  else
    some (run.foldl (fun n f => 10 * n + Text.hexValue f) 0, run.length, t.drop run.length)

/-- What follows this character, if the text starts with it. -/
def past? (c : Char) : Text → Option Text
  | d :: rest => if d == c then some rest else none
  | [] => none

/-- The minutes of a zone after its sign: hours, and minutes after a colon. -/
def offset? (t : Text) : Option Nat := do
  let (hours, _, rest) ← figures? 1 2 t
  if rest.isEmpty then return 60 * hours
  else
    let (minutes, _, rest) ← figures? 2 2 (← past? ':' rest)
    if rest.isEmpty then some (60 * hours + minutes) else none

/-- The zone after a time: nothing, or after blanks `Z`, or hours and minutes with a sign. -/
def zone? (t : Text) : Option (Option Int) :=
  match t.dropWhile Text.isSpaceOrTab with
  | [] => if t.isEmpty then some none else none
  | ['Z'] => some (some 0)
  | '+' :: rest => (offset? rest).map fun n => some (n : Int)
  | '-' :: rest => (offset? rest).map fun n => some (-(n : Int))
  | _ => none

/-- The figures of a fraction as millionths; the seventh figure rounds, a five upwards. -/
def millionths (figures : Text) : Nat :=
  let kept := Text.numberOf (figures.take 6) * Nat.pow 10 (6 - figures.length)
  if (figures[6]?).any ('5' ≤ ·) then kept + 1 else kept

/-- The time after a date: a `T` or blanks, hour, minute, second, a fraction and a zone. -/
def readTime? (t : Text) : Option TimeOfDay := do
  let afterGap ←
    match t with
    | 'T' :: rest => some rest
    | 't' :: rest => some rest
    | c :: rest => if Text.isSpaceOrTab c then some (rest.dropWhile Text.isSpaceOrTab) else none
    | [] => none
  let (hour, _, t) ← figures? 1 2 afterGap
  let (minute, _, t) ← figures? 2 2 (← past? ':' t)
  let (second, _, t) ← figures? 2 2 (← past? ':' t)
  let (figures, t) :=
    match t with
    | '.' :: rest => (rest.takeWhile Text.isFigure, rest.dropWhile Text.isFigure)
    | t => ([], t)
  let zone? ← zone? t
  return { hour, minute, second, fraction := millionths figures, zone? }

def read? (t : Text) : Option Moment := do
  let (year, _, t) ← figures? 4 4 t
  let (month, _, t) ← figures? 1 2 (← past? '-' t)
  let (day, _, t) ← figures? 1 2 (← past? '-' t)
  if t.isEmpty then return ⟨year, month, day, none⟩
  else (readTime? t).map fun time => ⟨year, month, day, some time⟩

/-- Without being told, only a date with two figures for month and day is read as such; with a time
after it one is enough. -/
def isEvident (t : Text) : Bool := (read? t).any fun m => m.time?.isSome || t.length == 10

def isLeapYear (year : Nat) : Bool := year % 4 == 0 && (year % 100 != 0 || year % 400 == 0)

def daysIn (year month : Nat) : Nat :=
  if month == 2 then if isLeapYear year then 29 else 28
  else if month == 4 || month == 6 || month == 9 || month == 11 then 30
  else 31

def dateFault? (m : Moment) : Option Fault :=
  if m.year == 0 then some (.year 0)
  else if m.month == 0 || 12 < m.month then some .month
  else if m.day == 0 || daysIn m.year m.month < m.day then some .day
  else none

/-- A day in minutes. -/
def dayLength : Int := 1440

def zoneFault? (t : TimeOfDay) : Option Fault :=
  match t.zone? with
  | some minutes =>
    if minutes ≤ -dayLength || dayLength ≤ minutes then some (.zone minutes) else none
  | none => none

def clockFault? (t : TimeOfDay) : Option Fault :=
  if 23 < t.hour then some .hour
  else if 59 < t.minute then some .minute
  else if 59 < t.second then some .second
  else none

/-- Whether rounding leaves the last year that there is. -/
def isAfterLast (m : Moment) (t : TimeOfDay) : Bool :=
  m.year == 9999 && m.month == 12 && m.day == 31 && t.hour == 23 && t.minute == 59 &&
    t.second == 59 && t.fraction == 1000000

/-- The first part that is out of range; the zone is looked at before the date. -/
def fault? (m : Moment) : Option Fault :=
  match m.time? with
  | none => m.dateFault?
  | some t =>
    zoneFault? t <|> m.dateFault? <|> clockFault? t <|>
      if m.isAfterLast t then some .afterLast else none

/-- The days before this one, the months being counted from March so that the day of a leap year is
the last. -/
def dayNumber (m : Moment) : Int :=
  let year : Int := if m.month < 3 then m.year - 1 else m.year
  let month : Int := if m.month < 3 then m.month + 9 else m.month - 3
  365 * year + year / 4 - year / 100 + year / 400 + (153 * month + 2) / 5 + m.day

/-- The instant in millionths of a second. -/
def instant (m : Moment) (t : TimeOfDay) : Int :=
  let minutes : Int := m.dayNumber * dayLength + 60 * t.hour + t.minute - t.zone?.getD 0
  (60 * minutes + t.second) * 1000000 + t.fraction

/-- A date is no instant, and neither is a time without a zone, which equals none with a zone. -/
def sameAs (m n : Moment) : Bool :=
  match m.time?, n.time? with
  | some s, some t => s.zone?.isSome == t.zone?.isSome && m.instant s == n.instant t
  | none, none => m.dayNumber == n.dayNumber
  | _, _ => false

end Moment

end ComposeLint.Yaml
