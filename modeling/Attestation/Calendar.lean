/-!
The Gregorian calendar from the year 1970 on, by days counted from its first day.
-/
namespace Attestation.Calendar

structure Date where
  year : Nat
  month : Nat
  day : Nat
  deriving DecidableEq, Repr

def isLeap (year : Nat) : Bool := year % 4 == 0 && (year % 100 != 0 || year % 400 == 0)

def daysInMonth (year month : Nat) : Nat :=
  if month = 2 then if isLeap year then 29 else 28
  else if month = 4 ∨ month = 6 ∨ month = 9 ∨ month = 11 then 30
  else 31

def Date.isValid (d : Date) : Bool :=
  1970 ≤ d.year && 1 ≤ d.month && d.month ≤ 12 && 1 ≤ d.day && d.day ≤ daysInMonth d.year d.month

/-- Days from the first of March of the year zero to the first of January 1970. -/
def epochShift : Nat := 719468

/-- The days before a date. Years are counted from March, so that the leap day is the last one. -/
def Date.toDays (d : Date) : Nat :=
  let year := if d.month ≤ 2 then d.year - 1 else d.year
  let month := if d.month ≤ 2 then d.month + 9 else d.month - 3
  let dayOfYear := (153 * month + 2) / 5 + (d.day - 1)
  let yearOfEra := year % 400
  year / 400 * 146097 + yearOfEra * 365 + yearOfEra / 4 - yearOfEra / 100 + dayOfYear - epochShift

/-- The date that many days after the first one. -/
def ofDays (days : Nat) : Date :=
  let shifted := days + epochShift
  let dayOfEra := shifted % 146097
  let yearOfEra := (dayOfEra - dayOfEra / 1460 + dayOfEra / 36524 - dayOfEra / 146096) / 365
  let dayOfYear := dayOfEra - (365 * yearOfEra + yearOfEra / 4 - yearOfEra / 100)
  let month := (5 * dayOfYear + 2) / 153
  let day := dayOfYear - (153 * month + 2) / 5 + 1
  let year := shifted / 146097 * 400 + yearOfEra
  if month < 10 then ⟨year, month + 3, day⟩ else ⟨year + 1, month - 9, day⟩

/-- A number in at least `width` digits. -/
def digits (width n : Nat) : List Char :=
  let ds := Nat.toDigits 10 n
  List.replicate (width - ds.length) '0' ++ ds

/-- The last year that has a text. -/
def lastYear : Nat := 262142

/-- The text of a time in milliseconds since 1970, with its offset from universal time. Years after
9999 carry a sign, and milliseconds are written only if there are any. -/
def timestamp? (milliseconds : Nat) : Option String :=
  let seconds := milliseconds / 1000
  let date := ofDays (seconds / 86400)
  if lastYear < date.year then none
  else
    let year := if 9999 < date.year then '+' :: digits 5 date.year else digits 4 date.year
    let time := seconds % 86400
    let fraction := if milliseconds % 1000 = 0 then [] else '.' :: digits 3 (milliseconds % 1000)
    some <| String.ofList <| year ++ '-' :: digits 2 date.month ++ '-' :: digits 2 date.day ++
      'T' :: digits 2 (time / 3600) ++ ':' :: digits 2 (time / 60 % 60) ++
      ':' :: digits 2 (time % 60) ++ fraction ++ "+00:00".toList

end Attestation.Calendar
