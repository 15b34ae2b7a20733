import TorrentRemote.Text.Decimal

/-!
# Dates and times

A date, a time, or both, and for both an offset from universal time.  In text a `T` stands between
date and time, and a fraction of a second has no trailing zeros.
-/

namespace TorrentRemote.Toml

/-- A day of the calendar. -/
structure Date where
  year : Nat
  month : Nat
  day : Nat
  deriving DecidableEq

/-- A time of day. -/
structure Time where
  hour : Nat
  minute : Nat
  second : Nat
  nanosecond : Nat
  deriving DecidableEq

/-- The offset of a local time from universal time. -/
inductive Offset where
  | utc
  | minutes (minutes : Int)
  deriving DecidableEq

/-- A date, a time, or both. -/
structure DateTime where
  date : Option Date
  time : Option Time
  offset : Option Offset
  deriving DecidableEq

/-- The digits of a number, with zeros before them up to a number of digits. -/
def paddedDigits (width n : Nat) : List Char :=
  let digits := Text.decimalDigits n
  List.replicate (width - digits.length) '0' ++ digits

/-- The text of a date. -/
def Date.text (date : Date) : List Char :=
  paddedDigits 4 date.year ++ '-' :: paddedDigits 2 date.month ++ '-' :: paddedDigits 2 date.day

/-- The text of a time. -/
def Time.text (time : Time) : List Char :=
  paddedDigits 2 time.hour ++ ':' :: paddedDigits 2 time.minute ++ ':' ::
    paddedDigits 2 time.second ++
    if time.nanosecond = 0 then []
    else '.' :: ((paddedDigits 9 time.nanosecond).reverse.dropWhile (· == '0')).reverse

/-- The text of an offset. -/
def Offset.text : Offset → List Char
  | utc => ['Z']
  | minutes n =>
    (if n < 0 then '-' else '+') :: paddedDigits 2 (n.natAbs / 60) ++
      ':' :: paddedDigits 2 (n.natAbs % 60)

/-- The text of a date, a time, or both. -/
def DateTime.text (moment : DateTime) : String :=
  let date := (moment.date.map Date.text).getD []
  let time := (moment.time.map Time.text).getD []
  let between := if date.isEmpty || time.isEmpty then [] else ['T']
  String.ofList (date ++ between ++ time ++ (moment.offset.map Offset.text).getD [])

/-- The number of days of a month. -/
def daysIn (year month : Nat) : Nat :=
  if month = 2 then
    if year % 4 = 0 ∧ (year % 100 ≠ 0 ∨ year % 400 = 0) then 29 else 28
  else if month ∈ [4, 6, 9, 11] then 30
  else 31

/-! ### Reading -/

/-- The value of exactly `count` digits, and what follows them. -/
def fixedDigits? (count : Nat) (cs : List Char) : Option (Nat × List Char) :=
  let digits := cs.take count
  if digits.length = count ∧ digits.all Char.isDigit then
    some (Text.digitsValue digits 0, cs.drop count)
  else none

/-- The text behind a character. -/
def after? (c : Char) : List Char → Option (List Char)
  | d :: cs => if c = d then some cs else none
  | [] => none

/-- A date. -/
def readDate? (cs : List Char) : Option (Date × List Char) := do
  let (year, cs) ← fixedDigits? 4 cs
  let cs ← after? '-' cs
  let (month, cs) ← fixedDigits? 2 cs
  let cs ← after? '-' cs
  let (day, cs) ← fixedDigits? 2 cs
  if 1 ≤ month ∧ month ≤ 12 ∧ 1 ≤ day ∧ day ≤ daysIn year month then some (⟨year, month, day⟩, cs)
  else none

/-- A fraction of a second in nanoseconds; digits behind the ninth are cut off. -/
def readFraction? (cs : List Char) : Option (Nat × List Char) :=
  match cs with
  | '.' :: cs =>
    match cs.takeWhile Char.isDigit with
    | [] => none
    | digits =>
      let kept := digits.take 9
      some (Text.digitsValue kept 0 * Nat.pow 10 (9 - kept.length), cs.dropWhile Char.isDigit)
  | cs => some (0, cs)

/-- An hour and a minute with a colon between them. -/
def readHourMinute? (cs : List Char) : Option (Nat × Nat × List Char) := do
  let (hour, cs) ← fixedDigits? 2 cs
  let cs ← after? ':' cs
  let (minute, cs) ← fixedDigits? 2 cs
  if hour ≤ 23 ∧ minute ≤ 59 then some (hour, minute, cs) else none

/-- A time. -/
def readTime? (cs : List Char) : Option (Time × List Char) := do
  let (hour, minute, cs) ← readHourMinute? cs
  let cs ← after? ':' cs
  let (second, cs) ← fixedDigits? 2 cs
  let (nanosecond, cs) ← readFraction? cs
  if second ≤ 60 then some (⟨hour, minute, second, nanosecond⟩, cs) else none

/-- An offset. -/
def readOffset? : List Char → Option (Offset × List Char)
  | 'Z' :: cs => some (.utc, cs)
  | 'z' :: cs => some (.utc, cs)
  | '+' :: cs => do
    let (hour, minute, cs) ← readHourMinute? cs
    some (.minutes (60 * hour + minute : Nat), cs)
  | '-' :: cs => do
    let (hour, minute, cs) ← readHourMinute? cs
    some (.minutes (-(60 * hour + minute : Nat)), cs)
  | _ => none

/-- The time behind a date, if one follows. -/
def readTimeAfter? : List Char → Option (Time × List Char)
  | c :: cs => if c = 'T' ∨ c = 't' ∨ c = ' ' then readTime? cs else none
  | [] => none

/-- A date, a time, or both. -/
def readDateTime? (cs : List Char) : Option (DateTime × List Char) :=
  match readDate? cs with
  | some (date, cs) =>
    match readTimeAfter? cs with
    | some (time, cs) =>
      match readOffset? cs with
      | some (offset, cs) => some (⟨some date, some time, some offset⟩, cs)
      | none => some (⟨some date, some time, none⟩, cs)
    | none => some (⟨some date, none, none⟩, cs)
  | none =>
    match readTime? cs with
    | some (time, cs) => some (⟨none, some time, none⟩, cs)
    | none => none

end TorrentRemote.Toml
