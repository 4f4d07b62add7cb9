import Herald.Number.Power
import Herald.Text.Blank

/-!
# Herald.Timestamp

Points of time.

* `Timestamp`: seconds since the start of 1970 and nanoseconds.
* `Timestamp.text`: date and time in UTC, with as many triples of digits behind the second as
  needed.
* `Timestamp.read?`: a date and a time with its distance from UTC.
-/

namespace Herald

/-- A point of time. The nanoseconds of a leap second go on from `10 ^ 9`. -/
structure Timestamp where
  seconds : Int
  nanoseconds : Nat
  deriving DecidableEq, Repr

structure Date where
  year : Int
  month : Nat
  day : Nat
  deriving DecidableEq, Repr

namespace Date

/-- Whether a year has 366 days. -/
def isLeap (year : Int) : Bool := year % 4 = 0 && (year % 100 ≠ 0 || year % 400 = 0)

def monthLength (year : Int) (month : Nat) : Nat :=
  if month = 2 then if isLeap year then 29 else 28
  else if month = 4 || month = 6 || month = 9 || month = 11 then 30
  else 31

/-- Whether there is such a day, in a year near enough to be counted. -/
def exists? (d : Date) : Bool :=
  -262143 ≤ d.year && d.year ≤ 262142 && 1 ≤ d.month && d.month ≤ 12 && 1 ≤ d.day &&
    d.day ≤ monthLength d.year d.month

/-- The days from the start of 1970. Years are counted from March, so that the leap day is the last
of its year, and in cycles of 400. -/
def toDays (d : Date) : Int :=
  let y : Int := if d.month ≤ 2 then d.year - 1 else d.year
  let cycle := y / 400
  let yearOfCycle := y % 400
  let month : Int := if d.month ≤ 2 then d.month + 9 else d.month - 3
  let dayOfYear := (153 * month + 2) / 5 + d.day - 1
  let dayOfCycle := yearOfCycle * 365 + yearOfCycle / 4 - yearOfCycle / 100 + dayOfYear
  cycle * 146097 + dayOfCycle - 719468

/-- The day that stands so many days from the start of 1970. -/
def ofDays (days : Int) : Date :=
  let z := days + 719468
  let cycle := z / 146097
  let dayOfCycle := z % 146097
  let yearOfCycle :=
    (dayOfCycle - dayOfCycle / 1460 + dayOfCycle / 36524 - dayOfCycle / 146096) / 365
  let dayOfYear := dayOfCycle - (365 * yearOfCycle + yearOfCycle / 4 - yearOfCycle / 100)
  let month := (5 * dayOfYear + 2) / 153
  let day := dayOfYear - (153 * month + 2) / 5 + 1
  let year := yearOfCycle + cycle * 400
  if month < 10 then ⟨year, (month + 3).toNat, day.toNat⟩
  else ⟨year + 1, (month - 9).toNat, day.toNat⟩

end Date

namespace Timestamp

/-- `n` with zeros in front, up to `width` digits. -/
def padded (width n : Nat) : String :=
  let ds := Nat.toDigits 10 n
  String.ofList (List.replicate (width - ds.length) '0' ++ ds)

def yearText (y : Int) : String :=
  if 0 ≤ y ∧ y ≤ 9999 then padded 4 y.natAbs
  else (if y < 0 then "-" else "+") ++ padded 4 y.natAbs

/-- The part of a second in 0, 3, 6 or 9 digits. -/
def fractionText (n : Nat) : String :=
  if n = 0 then ""
  else if n % 1000000 = 0 then "." ++ padded 3 (n / 1000000)
  else if n % 1000 = 0 then "." ++ padded 6 (n / 1000)
  else "." ++ padded 9 n

/-- Date and time in UTC. -/
def text (t : Timestamp) : String :=
  let d := Date.ofDays (t.seconds / 86400)
  let s := (t.seconds % 86400).toNat
  let (second, nano) :=
    if 1000000000 ≤ t.nanoseconds then (s % 60 + 1, t.nanoseconds - 1000000000)
    else (s % 60, t.nanoseconds)
  yearText d.year ++ "-" ++ padded 2 d.month ++ "-" ++ padded 2 d.day ++ "T" ++
    padded 2 (s / 3600) ++ ":" ++ padded 2 (s / 60 % 60) ++ ":" ++ padded 2 second ++
    fractionText nano ++ "Z"

def natOf (ds : List Char) : Nat := ds.foldl (fun n c => 10 * n + (c.toNat - '0'.toNat)) 0

def skipBlanks (r : List Char) : List Char := r.dropWhile Text.isBlank

/-- A number of one to `most` digits, and what follows. -/
def number (most : Nat) (r : List Char) : Option (Nat × List Char) :=
  let ds := (r.take most).takeWhile Char.isDigit
  if ds = [] then none else some (natOf ds, r.drop ds.length)

def field (most : Nat) (r : List Char) : Option (Nat × List Char) := number most (skipBlanks r)

def mark (c : Char) (r : List Char) : Option (List Char) :=
  match skipBlanks r with
  | d :: r => if d = c then some r else none
  | [] => none

def year (r : List Char) : Option (Int × List Char) :=
  match skipBlanks r with
  | '-' :: r => (number r.length r).map fun x => (-(x.1 : Int), x.2)
  | '+' :: r => (number r.length r).map fun x => ((x.1 : Int), x.2)
  | r => (number 4 r).map fun x => ((x.1 : Int), x.2)

/-- The nanoseconds behind the point, if there is one. Digits after the ninth do not count. -/
def fraction : List Char → Option (Nat × List Char)
  | '.' :: r =>
    let ds := (r.take 9).takeWhile Char.isDigit
    if ds = [] then none
    else some (natOf ds * Number.tenTo (9 - ds.length), (r.drop ds.length).dropWhile Char.isDigit)
  | r => some (0, r)

/-- Hours and minutes of a distance from UTC, in seconds. -/
def distance (r : List Char) : Option (Int × List Char) :=
  match r with
  | h :: h' :: r =>
    match r.dropWhile fun c => c = ':' || Text.isBlank c with
    | m :: m' :: r =>
      if h.isDigit && h'.isDigit && m.isDigit && m'.isDigit && m ≤ '5' then
        let s := natOf [h, h'] * 3600 + natOf [m, m'] * 60
        if s < 86400 then some (s, r) else none
      else none
    | _ => none
  | _ => none

/-- The distance of a local time from UTC, in seconds. -/
def offset (r : List Char) : Option (Int × List Char) :=
  match r with
  | 'Z' :: r | 'z' :: r => some (0, r)
  | '+' :: r => distance r
  | '-' :: r | '−' :: r => (distance r).map fun x => (-x.1, x.2)
  | u :: t :: c :: r =>
    if [u, t, c].map Char.toUpper = ['U', 'T', 'C'] then some (0, r) else none
  | _ => none

/-- The point of time that a text stands for: date, `T` or a blank, time, and the distance from
UTC. -/
def read? (s : String) : Option Timestamp := do
  let (y, r) ← year s.toList
  let (month, r) ← field 2 (← mark '-' r)
  let (day, r) ← field 2 (← mark '-' r)
  let date : Date := ⟨y, month, day⟩
  let r ← match r with
    | 't' :: r | 'T' :: r | ' ' :: r => some r
    | _ => none
  let (hour, r) ← field 2 r
  let (minute, r) ← field 2 (← mark ':' r)
  let (second, r) ← field 2 (← mark ':' r)
  let (nano, r) ← fraction r
  let (east, r) ← offset (skipBlanks r)
  if date.exists? && hour < 24 && minute < 60 && second ≤ 60 && (skipBlanks r).isEmpty then
    let leap := second = 60
    let whole : Int := hour * 3600 + minute * 60 + (if leap then 59 else second)
    let t := date.toDays * 86400 + whole - east
    if (Date.ofDays (t / 86400)).exists? then
      return ⟨t, if leap then nano + 1000000000 else nano⟩
    else none
  else none

end Timestamp

end Herald
