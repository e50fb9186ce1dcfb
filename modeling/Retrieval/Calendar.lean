namespace Retrieval.Calendar

def isLeapYear (year : Int) : Bool :=
  year.emod 4 == 0 && (year.emod 100 != 0 || year.emod 400 == 0)

def daysInMonth (year : Int) (month : Nat) : Nat :=
  match month with
  | 2 => if isLeapYear year then 29 else 28
  | 4 | 6 | 9 | 11 => 30
  | _ => 31

/-- The day's number since the beginning of 1970. Years are counted from March here, so that a leap
day is the last of its year, and in cycles of 400. -/
def dayNumber (year : Int) (month day : Nat) : Int :=
  let year := if month ≤ 2 then year - 1 else year
  let cycle := year.ediv 400
  let yearOfCycle := year.emod 400
  let monthOfYear : Int := if month ≤ 2 then month + 9 else (month : Int) - 3
  let dayOfYear := (153 * monthOfYear + 2) / 5 + day - 1
  let dayOfCycle := yearOfCycle * 365 + yearOfCycle / 4 - yearOfCycle / 100 + dayOfYear
  cycle * 146097 + dayOfCycle - 719468

end Retrieval.Calendar
