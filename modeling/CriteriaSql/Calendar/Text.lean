import CriteriaSql.Calendar.Date
import CriteriaSql.Power
import CriteriaSql.Text.Blank
import CriteriaSql.Text.Digits

/-!
# Dates and times as text

Written forms are fixed; reading is more generous, it lets blanks stand before a number and takes one
digit where two are usual. Times of day count in nanoseconds when read and in microseconds when
written, moments from the start of 2000-01-01.

* `dateText`, `clockText`, `momentText`: the written forms.
* `date?`, `clock?`, `timestamp?`: the generous readers.
* `internet?`: the strict form with an offset, with four-digit years only.
-/

namespace CriteriaSql.Calendar

open CriteriaSql.Text

/-- Nanoseconds of a second, and microseconds of a day. -/
def nanosPerSecond : Nat := 1000000000

@[inherit_doc nanosPerSecond]
def microsPerDay : Nat := 86400000000

/-! ## Writing -/

/-- A year in four digits, with a sign outside 0 to 9999. -/
def yearText (y : Int) : List Char :=
  if 0 ≤ y ∧ y ≤ 9999 then naturalPadded 4 y.natAbs
  else (if y < 0 then '-' else '+') :: naturalPadded 4 y.natAbs

/-- A day count as year, month and day. -/
def dateText (days : Int) : List Char :=
  let d := Date.ofDays days
  yearText d.year ++ '-' :: naturalPadded 2 d.month ++ '-' :: naturalPadded 2 d.day

/-- The fraction of a second in as many digits as it takes: none, three or six. -/
def fractionText (micros : Nat) : List Char :=
  if micros = 0 then []
  else if micros % 1000 = 0 then '.' :: naturalPadded 3 (micros / 1000)
  else '.' :: naturalPadded 6 micros

/-- A time of day in microseconds as hour, minute and second. -/
def clockText (micros : Nat) : List Char :=
  let seconds := micros / 1000000
  naturalPadded 2 (seconds / 3600) ++ ':' :: naturalPadded 2 (seconds / 60 % 60) ++
    ':' :: naturalPadded 2 (seconds % 60) ++ fractionText (micros % 1000000)

/-- A moment in microseconds as date and time with a character between them. -/
def momentText (separator : Char) (micros : Int) : List Char :=
  dateText (micros / microsPerDay) ++ separator :: clockText (micros % microsPerDay).toNat

/-! ## Reading -/

/-- Reads up to `width` digits, at least one. -/
def number? (width : Nat) (cs : List Char) : Option (Nat × List Char) :=
  let ds := (cs.take width).takeWhile Char.isDigit
  if ds = [] then none else some (Nat.ofDigitChars 10 ds 0, cs.drop ds.length)

/-- Reads one character that must be there. -/
def literal? (c : Char) : List Char → Option (List Char)
  | d :: rest => if d = c then some rest else none
  | [] => none

/-- Reads up to two digits after blanks. -/
def field? (cs : List Char) : Option (Nat × List Char) :=
  number? 2 (trimStart cs)

/-- Reads a year after blanks: up to four digits, or any number of digits after a sign. -/
def year? (cs : List Char) : Option (Int × List Char) :=
  match trimStart cs with
  | '-' :: rest => (number? rest.length rest).map fun (n, rest) => (-(n : Int), rest)
  | '+' :: rest => (number? rest.length rest).map fun (n, rest) => ((n : Int), rest)
  | rest => (number? 4 rest).map fun (n, rest) => ((n : Int), rest)

/-- Reads a fraction of a second in nanoseconds, if one is there; digits after the ninth are
ignored. -/
def fraction? : List Char → Option (Nat × List Char)
  | '.' :: rest =>
    let ds := rest.takeWhile Char.isDigit
    if ds = [] then none
    else
      let kept := ds.take 9
      some (Nat.ofDigitChars 10 kept 0 * pow10 (9 - kept.length), rest.drop ds.length)
  | rest => some (0, rest)

/-- The day count of a year, month and day that exist. -/
def days? (year : Int) (month day : Nat) : Option Int :=
  let d : Date := ⟨year, month, day⟩
  if d.isValid then some d.toDays else none

/-- The nanoseconds of a time of day; a minute may have a second 60. -/
def nanos? (hour minute second fraction : Nat) : Option Nat :=
  if hour ≤ 23 ∧ minute ≤ 59 ∧ second ≤ 60 then
    some (((hour * 60 + minute) * 60 + second) * nanosPerSecond + fraction)
  else none

/-- Reads a date and leaves what follows. -/
def datePart? (cs : List Char) : Option (Int × List Char) := do
  let (year, cs) ← year? cs
  let cs ← literal? '-' cs
  let (month, cs) ← field? cs
  let cs ← literal? '-' cs
  let (day, cs) ← field? cs
  return (← days? year month day, cs)

/-- Reads a time of day to the end of the text. -/
def clock? (cs : List Char) : Option Nat := do
  let (hour, cs) ← field? cs
  let cs ← literal? ':' cs
  let (minute, cs) ← field? cs
  let cs ← literal? ':' cs
  let (second, cs) ← field? cs
  let (fraction, cs) ← fraction? cs
  if cs = [] then nanos? hour minute second fraction else none

/-- Reads a date. -/
def date? (cs : List Char) : Option Int := do
  let (days, cs) ← datePart? cs
  if cs = [] then some days else none

/-- The whole microseconds of a moment given in days and nanoseconds; a part of a microsecond is cut
toward the start of 2000-01-01. -/
def micros (days nanos : Int) : Int :=
  (days * microsPerDay * 1000 + nanos).tdiv 1000

/-- Reads a date and a time with blanks or a letter between them, as microseconds. -/
def timestamp? (cs : List Char) : Option Int := do
  let (days, cs) ← datePart? cs
  let nanos ← (clock? (trimStart cs)).or ((literal? 'T' cs).bind clock?)
  return micros days nanos

/-! ## The strict form -/

/-- Reads exactly `width` digits. -/
def exactly? (width : Nat) (cs : List Char) : Option (Nat × List Char) :=
  (number? width cs).filter fun r => r.2.length + width = cs.length

/-- The minus signs that an offset may have. -/
def isMinus (c : Char) : Bool :=
  c = '-' || c = '\u2212'

/-- Reads an offset in minutes to the end of the text. -/
def offset? : List Char → Option Int
  | ['Z'] | ['z'] => some 0
  | sign :: cs => do
    let (hours, cs) ← exactly? 2 cs
    let cs ← literal? ':' cs
    let (minutes, cs) ← exactly? 2 cs
    if cs = [] ∧ hours ≤ 23 ∧ minutes ≤ 59 then
      let m : Int := hours * 60 + minutes
      if sign = '+' then some m else if isMinus sign then some (-m) else none
    else none
  | [] => none

/-- Reads the strict form of a moment with an offset, as microseconds. -/
def internet? (cs : List Char) : Option Int := do
  let (year, cs) ← exactly? 4 cs
  let cs ← literal? '-' cs
  let (month, cs) ← exactly? 2 cs
  let cs ← literal? '-' cs
  let (day, cs) ← exactly? 2 cs
  let cs ← (literal? 'T' cs).or ((literal? 't' cs).or (literal? ' ' cs))
  let (hour, cs) ← exactly? 2 cs
  let cs ← literal? ':' cs
  let (minute, cs) ← exactly? 2 cs
  let cs ← literal? ':' cs
  let (second, cs) ← exactly? 2 cs
  let (fraction, cs) ← fraction? cs
  let offset ← offset? cs
  let days ← days? year month day
  let nanos ← nanos? hour minute second fraction
  return micros days (nanos - offset * 60 * nanosPerSecond)

end CriteriaSql.Calendar
