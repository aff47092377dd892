import RepoRules.Text.Ascii
import RepoRules.Text.Blank
import RepoRules.Text.Digit

/-!
Instants, counted from the start of the year 1970, and how they are read from a date, a time of day
and the offset of its clock.
-/

namespace RepoRules

/-- Whole seconds and the nanoseconds behind them. An instant within a leap second has a thousand
million nanoseconds or more. -/
structure Instant where
  seconds : Int
  nanoseconds : Nat
deriving Repr, DecidableEq

namespace Instant

def nanosecondsPerSecond : Nat := 1000000000

/-- A leap second counts as the second before it on the way forward and as the one behind it on the
way back. -/
def addSeconds (instant : Instant) (seconds : Int) : Instant :=
  if instant.nanoseconds < nanosecondsPerSecond ∨ seconds = 0 then
    { instant with seconds := instant.seconds + seconds }
  else
    ⟨instant.seconds + seconds + (if seconds < 0 then 1 else 0),
      instant.nanoseconds - nanosecondsPerSecond⟩

def isBefore (first second : Instant) : Bool :=
  first.seconds < second.seconds ||
    (first.seconds == second.seconds && first.nanoseconds < second.nanoseconds)

/-- Days from the start of 1970 to a day of the calendar. Years are counted from March on, so that
the leap day comes last. -/
def daysTo (year : Int) (month day : Nat) : Int :=
  let shifted := if month ≤ 2 then year - 1 else year
  let monthIndex : Int := if month ≤ 2 then month + 9 else month - 3
  let era := shifted / 400
  let yearOfEra := shifted - era * 400
  let dayOfYear := (153 * monthIndex + 2) / 5 + day - 1
  let dayOfEra := yearOfEra * 365 + yearOfEra / 4 - yearOfEra / 100 + dayOfYear
  era * 146097 + dayOfEra - 719468

def isLeap (year : Int) : Bool :=
  year % 4 == 0 && (year % 100 != 0 || year % 400 == 0)

def monthLength (year : Int) (month : Nat) : Nat :=
  if month == 2 then (if isLeap year then 29 else 28)
  else if [4, 6, 9, 11].contains month then 30
  else 31

/-- The years that instants are counted in. -/
def firstYear : Int := -262143

def lastYear : Int := 262142

/-- Whether so many seconds lie within the years that instants are counted in. -/
def isCounted (seconds : Int) : Bool :=
  daysTo firstYear 1 1 * 86400 ≤ seconds && seconds < daysTo (lastYear + 1) 1 1 * 86400

/-- The instant so many seconds on, if it is one that is counted. -/
def after? (instant : Instant) (seconds : Int) : Option Instant :=
  let sum := instant.addSeconds seconds
  if isCounted sum.seconds then some sum else none

/-- Reads from the front of a text. -/
abbrev Reader := StateT (List Char) Option

namespace Reader

def skipBlanks : Reader Unit :=
  modify fun text => text.dropWhile Text.isBlank

/-- Takes a character that satisfies a test if it comes next. -/
def take? (accepts : Char → Bool) : Reader (Option Char) := do
  match ← get with
  | character :: rest =>
      if accepts character then
        set rest
        return some character
      else return none
  | [] => return none

def take (accepts : Char → Bool) : Reader Char := do
  match ← take? accepts with
  | some character => return character
  | none => failure

def sign (character : Char) : Reader Unit := do
  skipBlanks
  let _ ← take (· = character)

def digits (most : Nat) : Reader (List Char) := do
  let text ← get
  let digits := (text.take most).takeWhile Char.isDigit
  if digits.isEmpty then failure
  set (text.drop digits.length)
  return digits

def number (least most : Nat) : Reader Nat := do
  skipBlanks
  let value := Text.digitsValue (← digits 2)
  if least ≤ value ∧ value ≤ most then return value else failure

/-- Reads a year: up to four digits, or a sign and any number of digits. -/
def year : Reader Int := do
  skipBlanks
  match ← take? "+-".toList.contains with
  | some sign =>
      let value : Int := Text.digitsValue (← digits (← get).length)
      return if sign = '-' then -value else value
  | none => return Text.digitsValue (← digits 4)

/-- Reads the digits behind a full stop, as nanoseconds; those behind the ninth do not count. -/
def fraction : Reader Nat := do
  match ← take? (· = '.') with
  | none => return 0
  | some _ =>
      let digits ← digits (← get).length
      return Text.digitsValue ((digits ++ List.replicate 9 '0').take 9)

def twoDigits (least most : Nat) : Reader Nat := do
  let first ← take Char.isDigit
  let second ← take Char.isDigit
  let value := Text.digitsValue [first, second]
  if least ≤ value ∧ value ≤ most then return value else failure

def offset : Reader Int := do
  let text ← get
  if Text.asciiLower (String.ofList (text.take 3)) = "utc" then
    set (text.drop 3)
    return 0
  match ← take "Zz+-\u2212".toList.contains with
  | 'Z' | 'z' => return 0
  | sign =>
      let hours ← twoDigits 0 23
      modify fun text => text.dropWhile fun character =>
        character == ':' || Text.isBlank character
      let minutes ← twoDigits 0 59
      let seconds : Int := (hours * 60 + minutes) * 60
      return if sign = '+' then seconds else -seconds

/-- Reads an instant up to the end of the text. Sixty seconds are a leap second. -/
def instant : Reader Instant := do
  let year ← year
  sign '-'
  let month ← number 1 12
  sign '-'
  let day ← number 1 (monthLength year month)
  let _ ← take "Tt ".toList.contains
  let hour ← number 0 23
  sign ':'
  let minute ← number 0 59
  sign ':'
  let second ← number 0 60
  let fraction ← fraction
  skipBlanks
  let offset ← offset
  skipBlanks
  if !(← get).isEmpty || year < firstYear || lastYear < year then failure
  let leap := second / 60
  let seconds := daysTo year month day * 86400 + hour * 3600 + minute * 60 + (second - leap) - offset
  if !isCounted seconds then failure
  return ⟨seconds, fraction + leap * nanosecondsPerSecond⟩

end Reader

def parse? (text : String) : Option Instant :=
  (Reader.instant.run text.toList).map fun (instant, _) => instant

end Instant

end RepoRules
