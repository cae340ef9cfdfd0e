/-!
# Yaml/Timestamp — scalars that are points in time

A timestamp is a date, or a date and a time of day.  Between them stands a `T` in either case, and
then an offset has to follow, or there are spaces, and then none may.  Years have four digits, the
other numbers one or two.
-/

namespace TensorGraph.Yaml

/-- A number of one or two digits, and what follows it. -/
def shortNumber? : List Char → Option (Nat × List Char)
  | a :: rest =>
    if a.isDigit then
      let n := a.toNat - '0'.toNat
      match rest with
      | b :: rest' =>
        if b.isDigit then some (n * 10 + (b.toNat - '0'.toNat), rest') else some (n, rest)
      | [] => some (n, [])
    else none
  | [] => none

/-- A number of two digits in a row. -/
def twoDigits? (a b : Char) : Option Nat :=
  if a.isDigit && b.isDigit then some ((a.toNat - '0'.toNat) * 10 + (b.toNat - '0'.toNat))
  else none

/-- What follows a character. -/
def after? (c : Char) : List Char → Option (List Char)
  | x :: rest => if x == c then some rest else none
  | [] => none

/-- The number of days of a month. -/
def daysIn (year month : Nat) : Nat :=
  if month = 2 then
    if year % 4 = 0 ∧ (year % 100 ≠ 0 ∨ year % 400 = 0) then 29 else 28
  else if month = 4 ∨ month = 6 ∨ month = 9 ∨ month = 11 then 30 else 31

/-- What follows a valid date. -/
def afterDate? (cs : List Char) : Option (List Char) := do
  let digits := cs.takeWhile Char.isDigit
  if digits.length ≠ 4 then failure
  let year := digits.foldl (fun n c => n * 10 + (c.toNat - '0'.toNat)) 0
  let cs ← after? '-' (cs.drop 4)
  let (month, cs) ← shortNumber? cs
  if month < 1 ∨ 12 < month then failure
  let cs ← after? '-' cs
  let (day, cs) ← shortNumber? cs
  if day < 1 ∨ daysIn year month < day then failure
  return cs

/-- What follows a fraction of a second, if there is one. -/
def afterFraction : List Char → List Char
  | s :: d :: rest =>
    if (s == '.' || s == ',') && d.isDigit then rest.dropWhile Char.isDigit else s :: d :: rest
  | cs => cs

/-- What follows a valid time of day. -/
def afterTime? (cs : List Char) : Option (List Char) := do
  let (hour, cs) ← shortNumber? cs
  if 24 ≤ hour then failure
  let cs ← after? ':' cs
  let (minute, cs) ← shortNumber? cs
  if 60 ≤ minute then failure
  let cs ← after? ':' cs
  let (second, cs) ← shortNumber? cs
  if 60 ≤ second then failure
  return afterFraction cs

/-- Whether these characters are an offset from universal time: `Z`, or a sign, hours and
minutes. -/
def isOffset : List Char → Bool
  | ['Z'] => true
  | [sign, a, b, ':', d, e] =>
    (sign == '+' || sign == '-') && (twoDigits? a b).any (· ≤ 24) && (twoDigits? d e).any (· ≤ 60)
  | _ => false

/-- Whether a scalar is a timestamp. -/
def isTimestamp (cs : List Char) : Bool :=
  match afterDate? cs with
  | none => false
  | some [] => true
  | some (x :: rest) =>
    if x == 'T' || x == 't' then (afterTime? rest).any isOffset
    else if x == ' ' then afterTime? (rest.dropWhile (· == ' ')) == some []
    else false

end TensorGraph.Yaml
