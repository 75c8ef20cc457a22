import LibraryCalls.Decimal.Basic
import LibraryCalls.Text.Split

/-!
# Times

A plain scalar may be a date, or a date and a time of day with an optional zone.  The form alone
does not make a time: the month, the hour and the other parts have to lie within their bounds.

A date alone has four, two and two digits.  With a time of day behind it the month and the day may
have one digit, and so may the hour; between the two there is a letter, or blanks, and a fraction of
a second is read and dropped.  A zone is `Z`, or a sign with hours and perhaps minutes.

Nothing is computed with a time.  A setting that is written as one is no text and therefore does not
fit, so all that matters is whether a scalar is a time and, if it has the form of one, which fault
it has; the faults are looked for in a fixed order, and the first one found is the one reported.

* `Time.read?`: the parts of a time;
* `Time.fault?`: the first part that is out of bounds;
* `TimeFault`, `TimeFault.message`: the parts that can be out of bounds.
-/

namespace LibraryCalls.Yaml

open Text

structure Zone where
  isWest : Bool
  hours : Nat
  minutes : Nat
  deriving DecidableEq, Repr

/-- A time of day; a zone that is only named is universal time and left out. -/
structure Clock where
  hour : Nat
  minute : Nat
  second : Nat
  zone : Option Zone
  deriving DecidableEq, Repr

/-- A date, perhaps with a time of day. -/
structure Time where
  year : Nat
  month : Nat
  day : Nat
  clock : Option Clock
  deriving DecidableEq, Repr

/-- The part of a time that is out of bounds. -/
inductive TimeFault where
  | year (year : Nat)
  | month
  | day
  | hour
  | minute
  | second
  | zone (zone : Zone)
  deriving DecidableEq, Repr

namespace Zone

/-- The distance in minutes, to the west below zero. -/
def offset (z : Zone) : Int :=
  let n : Int := z.hours * 60 + z.minutes
  if z.isWest then -n else n

/-- A distance of a day or more as whole days and the seconds beyond them. -/
def describe (z : Zone) : String :=
  let days := Int.fdiv z.offset 1440
  let seconds := Int.fmod z.offset 1440 * 60
  "datetime.timedelta(days=" ++ toString days
    ++ (if seconds = 0 then "" else ", seconds=" ++ toString seconds) ++ ")"

end Zone

def TimeFault.message : TimeFault → String
  | .year n => "year " ++ toString n ++ " is out of range"
  | .month => "month must be in 1..12"
  | .day => "day is out of range for month"
  | .hour => "hour must be in 0..23"
  | .minute => "minute must be in 0..59"
  | .second => "second must be in 0..59"
  | .zone z => "offset must be a timedelta strictly between -timedelta(hours=24) and "
      ++ "timedelta(hours=24), not " ++ z.describe ++ "."

namespace Time

/-- The number of a text that has so many digits, at least `low` and at most `high`, and nothing
else. -/
def number? (low high : Nat) (cs : List Char) : Option Nat :=
  if low ≤ cs.length && cs.length ≤ high && cs.all Char.isDigit then some (Numeral.ofDigits cs)
  else none

/-- Whether a character may separate parts of a time. -/
def isGap (c : Char) : Bool :=
  c = ' ' || c = '\t'

/-- The zone at the end of a time; `none` inside for universal time. -/
def zone? : List Char → Option (Option Zone)
  | ['Z'] => some none
  | s :: rest =>
    if s = '+' ∨ s = '-' then
      match splitOn ':' rest with
      | [h] => (number? 1 2 h).map fun h => some ⟨s = '-', h, 0⟩
      | [h, m] => do
        let h ← number? 1 2 h
        let m ← number? 2 2 m
        some (some ⟨s = '-', h, m⟩)
      | _ => none
    else none
  | [] => none

/-- The whole seconds of a number of seconds that may have a fraction. -/
def seconds? (cs : List Char) : Option Nat :=
  match splitOn '.' cs with
  | [s] => number? 2 2 s
  | [s, f] => if f.all Char.isDigit then number? 2 2 s else none
  | _ => none

def clock? (cs : List Char) : Option Clock := do
  let isZoneChar (c : Char) : Bool := c = 'Z' || c = '+' || c = '-' || isGap c
  let clock := cs.takeWhile fun c => !isZoneChar c
  let after := cs.drop clock.length
  let zone ← if after = [] then some none else zone? (after.dropWhile isGap)
  match splitOn ':' clock with
  | [h, m, s] =>
    let hour ← number? 1 2 h
    let minute ← number? 2 2 m
    let second ← seconds? s
    some ⟨hour, minute, second, zone⟩
  | _ => none

def date? (cs : List Char) : Option Time :=
  match splitOn '-' cs with
  | [y, m, d] => do
    let year ← number? 4 4 y
    let month ← number? 2 2 m
    let day ← number? 2 2 d
    some ⟨year, month, day, none⟩
  | _ => none

/-- The time of day after a date: behind a letter, or behind blanks. -/
def cutClock : List Char → Option (List Char)
  | [] => none
  | c :: rest =>
    if c = 'T' ∨ c = 't' then some rest
    else if isGap c then some (rest.dropWhile isGap)
    else none

def dateAndClock? (cs : List Char) : Option Time :=
  match splitOn '-' cs with
  | y :: m :: rest => do
    let tail := joinWith '-' rest
    let d := tail.takeWhile Char.isDigit
    let year ← number? 4 4 y
    let month ← number? 1 2 m
    let day ← number? 1 2 d
    let clock ← (cutClock (tail.drop d.length)).bind clock?
    some ⟨year, month, day, some clock⟩
  | _ => none

def read? (cs : List Char) : Option Time :=
  (date? cs).or (dateAndClock? cs)

def isLeap (year : Nat) : Bool :=
  year % 4 = 0 && (year % 100 ≠ 0 || year % 400 = 0)

def daysIn (year month : Nat) : Nat :=
  if month = 2 then if isLeap year then 29 else 28
  else if month = 4 ∨ month = 6 ∨ month = 9 ∨ month = 11 then 30
  else 31

/-- The zone of a time, if it has one that is not universal time. -/
def zone (t : Time) : Option Zone :=
  t.clock.bind (·.zone)

/-- The first part of a time that is out of bounds; the zone is looked at first. -/
def fault? (t : Time) : Option TimeFault :=
  match t.zone.filter fun z => 1440 ≤ z.hours * 60 + z.minutes with
  | some z => some (.zone z)
  | none =>
    if t.year = 0 then some (.year t.year)
    else if t.month < 1 ∨ 12 < t.month then some .month
    else if t.day < 1 ∨ daysIn t.year t.month < t.day then some .day
    else
      t.clock.bind fun c =>
        if 23 < c.hour then some .hour
        else if 59 < c.minute then some .minute
        else if 59 < c.second then some .second
        else none

end Time

end LibraryCalls.Yaml
