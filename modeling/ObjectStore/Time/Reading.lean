import ObjectStore.Text.Split
import ObjectStore.Time.DateTime
import ObjectStore.Time.DayParts
import ObjectStore.Time.Words

/-!
Reading of dates in the many forms people and programs write them: header dates such as
`Mon, 01 Jan 2018 00:00:00 GMT`, numeric dates such as `2018-01-01T00:00:00.25+02:00` or
`20180101T000000Z`, and whatever can be made of words, numbers and units beside that. The tokens are
taken in turn, and each adds to what is known. What is left open is taken from the day of reading.
-/

namespace ObjectStore.Time

/-- The year that a year of two digits stands for: of those with these digits, the one that is nearest
to the year of a day. -/
def Date.fullYearOf (today : Date) (n : Nat) : Nat :=
  let present := today.year.toNat
  let near := present / 100 * 100 + n
  if 100 ≤ n then n
  else if present + 50 ≤ near then near - 100
  else if near + 50 < present then near + 100
  else near

inductive Unread where
  | noDate
  /-- A number is so large that its fraction cannot be told. -/
  | undefined
deriving DecidableEq

structure Sketch where
  parts : DayParts := {}
  weekday : Option Nat := none
  hour : Option Nat := none
  minute : Option Nat := none
  second : Option Nat := none
  micro : Option Nat := none
  zone : Option Token := none
  /-- Minutes east of universal time. -/
  offset : Option Int := none

namespace Sketch

def need : Option α → Except Unread α
  | some a => .ok a
  | none => .error .noDate

def precision : Nat := 28

/-- Rounds a number to the digits that are kept, a half going to the even neighbour. -/
def roundKept (n : Nat) : Nat :=
  let dropped := (Nat.toDigits 10 n).length - precision
  let unit := Nat.pow 10 dropped
  let low := n / unit
  let rest := n % unit
  let up := unit < 2 * rest || (2 * rest = unit && low % 2 = 1)
  (if up then low + 1 else low) * unit

/-- How many sixtieths the fraction of a number holds, if it has a fraction. -/
def sixtieths (a : Amount) : Except Unread (Option Nat) :=
  if Nat.pow 10 precision ≤ a.whole then .error .undefined
  else if a.isWhole then .ok none
  else
    .ok (some (roundKept (60 * roundKept (Amount.ofDigits a.fraction)) /
      Nat.pow 10 a.fraction.length))

/-- Whole seconds and millionths; further digits do not count. -/
def secondOf? (cs : List Char) : Option (Nat × Nat) := do
  match Text.cut '.' cs with
  | (whole, none) => some (← Amount.whole? whole, 0)
  | (whole, some fraction) =>
    let whole ← Amount.whole? whole
    let micro ← Amount.whole? (fraction.take 6 ++ List.replicate (6 - fraction.length) '0')
    some (whole, micro)

def setSecond (sketch : Sketch) (cs : List Char) : Except Unread Sketch := do
  let (second, micro) ← need (secondOf? cs)
  return { sketch with second := some second, micro := some micro }

def setMinute (sketch : Sketch) (a : Amount) : Except Unread Sketch := do
  return { sketch with minute := some a.whole, second := ← sixtieths a }

def setHour (sketch : Sketch) (a : Amount) : Except Unread Sketch := do
  let sketch := { sketch with hour := some a.whole }
  match ← sixtieths a with
  | some minute => return { sketch with minute := some minute }
  | none => return sketch

/-- Sets what a unit stands for: hours, minutes or seconds. -/
def setUnit (sketch : Sketch) (unit : Nat) (token : Token) (a : Amount) : Except Unread Sketch :=
  match unit with
  | 0 => sketch.setHour a
  | 1 => sketch.setMinute a
  | 2 => sketch.setSecond token
  | _ => .ok sketch

def inHalf (hour half : Nat) : Nat :=
  if hour < 12 && half = 1 then hour + 12 else if hour = 12 && half = 0 then 0 else hour

def setParts (sketch : Sketch) (parts : Option DayParts) : Except Unread Sketch := do
  return { sketch with parts := ← need parts }

/-- Digits that stand for hours, minutes and seconds. -/
def setClock (sketch : Sketch) (token : Token) : Except Unread Sketch := do
  let sketch := { sketch with
    hour := some (← need (Amount.whole? (token.take 2)))
    minute := some (← need (Amount.whole? ((token.drop 2).take 2))) }
  sketch.setSecond (token.drop 4)

/-- Digits that stand for a date, which may be followed by hours, minutes and seconds. -/
def setStamp (sketch : Sketch) (token : Token) : Except Unread Sketch := do
  let piece (start length : Nat) := (token.drop start).take length
  let sketch ← sketch.setParts (sketch.parts.addTexts? [piece 0 4, piece 4 2, piece 6 2])
  if token.length = 8 then return sketch
  let sketch := { sketch with
    hour := some (← need (Amount.whole? (piece 8 2)))
    minute := some (← need (Amount.whole? (piece 10 2))) }
  if token.length = 12 then return sketch
  return { sketch with second := some (← need (Amount.whole? (piece 12 2))) }

end Sketch

/-- A sketch and the position of the last token that was used for it. -/
abbrev Taken := Except Unread (Sketch × Nat)

namespace Reading

open Sketch Words

variable (tokens : Array Token) (today : Date)

def isAt (i : Nat) (text : List Token) : Bool :=
  (tokens[i]?).any text.contains

def unitAt? (i : Nat) : Option Nat :=
  (tokens[i]?).bind unit?

/-- The unit that belongs to a number: the one that follows, or else the one after the unit before
it. The position is that of the last token this uses. -/
def unitOf? (i : Nat) : Option (Nat × Nat) :=
  let isSpace (j : Nat) := isAt tokens j [[' ']]
  let before (j : Nat) := (unitAt? tokens j).map fun unit => (unit + 1, i)
  match unitAt? tokens (i + 1) with
  | some unit => some (unit, i + 1)
  | none =>
    match if isSpace (i + 1) then unitAt? tokens (i + 2) else none with
    | some unit => some (unit, i + 2)
    | none =>
      let near := if 0 < i then before (i - 1) else none
      let far :=
        if 1 < i && i + 1 = tokens.size && isSpace (i - 1) then before (i - 2) else none
      near.orElse fun _ => far

def readColons (sketch : Sketch) (i : Nat) (a : Amount) : Taken := do
  let minute ← need ((tokens[i + 2]?).bind Amount.ofToken?)
  let sketch ← { sketch with hour := some a.whole }.setMinute minute
  match isAt tokens (i + 3) [[':']], tokens[i + 4]? with
  | true, some second => return (← sketch.setSecond second, i + 4)
  | _, _ => return (sketch, i + 2)

def addMember? (parts : DayParts) (token : Token) : Option DayParts :=
  match month? token with
  | some month => parts.addMonth? month
  | none => parts.addText? token

/-- A date of two or three members with the same separator between them. -/
def readSeparated (sketch : Sketch) (i : Nat) (token separator : Token) : Taken := do
  let sketch ← sketch.setParts (sketch.parts.addText? token)
  match tokens[i + 2]? with
  | none => return (sketch, i + 1)
  | some second =>
    if isFiller second then return (sketch, i + 1)
    let sketch ← sketch.setParts (addMember? sketch.parts second)
    if isAt tokens (i + 3) [separator] then
      let third ← need tokens[i + 4]?
      return (← sketch.setParts (addMember? sketch.parts third), i + 4)
    else return (sketch, i + 2)

/-- A number with nothing beside it that says what it is: the hour if a half of the day follows, or
a part of the date. -/
def readAlone (sketch : Sketch) (i : Nat) (a : Amount) : Taken := do
  let follows := match tokens[i + 1]? with
    | none => true
    | some next => isFiller next
  match follows, (tokens[i + 2]?).bind half?, (tokens[i + 1]?).bind half? with
  | true, some half, _ => return ({ sketch with hour := some (inHalf a.whole half) }, i + 2)
  | true, none, _ => return (← sketch.setParts (sketch.parts.addAmount? a), i + 1)
  | false, _, near =>
    match if a.whole < 24 then near else none with
    | some half => return ({ sketch with hour := some (inHalf a.whole half) }, i + 1)
    | none =>
      let longest ← need sketch.parts.monthLength?
      if 1 ≤ a.whole && a.atMost longest then
        return (← sketch.setParts (sketch.parts.addAmount? a), i)
      else .error .noDate

/-- Digits whose number says what they are: a time of day after a date, or a date. -/
def readPacked? (sketch : Sketch) (i : Nat) (token : Token) : Option (Except Unread Sketch) :=
  let length := token.length
  let bare := match tokens[i + 1]? with
    | none => true
    | some next => next != [':'] && (unit? next).isNone
  if sketch.parts.count = 3 && (length = 2 || length = 4) && sketch.hour.isNone && bare then
    some do
      let sketch := { sketch with hour := some (← need (Amount.whole? (token.take 2))) }
      if length = 2 then return sketch
      return { sketch with minute := some (← need (Amount.whole? (token.drop 2))) }
  else if length = 6 || (6 < length && token.findIdx (· == '.') = 6) then
    some (if sketch.parts.count = 0 && !token.contains '.' then
        sketch.setParts (sketch.parts.addTexts?
          [token.take 2, (token.drop 2).take 2, token.drop 4])
      else sketch.setClock token)
  else if length = 8 || length = 12 || length = 14 then some (sketch.setStamp token)
  else none

def readNumber (sketch : Sketch) (i : Nat) (token : Token) (a : Amount) : Taken :=
  match readPacked? tokens sketch i token with
  | some sketch => sketch.map (·, i)
  | none =>
    match unitOf? tokens i with
    | some (unit, last) => (sketch.setUnit unit token a).map (·, last)
    | none =>
      if isAt tokens (i + 1) [[':']] && i + 2 < tokens.size then readColons tokens sketch i a
      else match tokens[i + 1]? with
        | some next =>
          if [['-'], ['/'], ['.']].contains next then readSeparated tokens sketch i token next
          else readAlone tokens sketch i a
        | none => readAlone tokens sketch i a

/-- A month by name, and what may be joined to it: further members of the date, or its year. -/
def readMonth (sketch : Sketch) (i : Nat) (month : Nat) : Taken := do
  let sketch ← sketch.setParts (sketch.parts.addMonth? month)
  match tokens[i + 1]? with
  | none => return (sketch, i)
  | some next =>
    if next == ['-'] || next == ['/'] then
      let sketch ← sketch.setParts (sketch.parts.addText? (← need tokens[i + 2]?))
      if isAt tokens (i + 3) [next] then
        return (← sketch.setParts (sketch.parts.addText? (← need tokens[i + 4]?)), i + 4)
      else return (sketch, i + 2)
    else if next == [' '] && isAt tokens (i + 3) [[' ']] &&
        (tokens[i + 2]?).any (lower · == "of") then
      match tokens[i + 4]? with
      | none => return (sketch, i)
      | some year =>
        match Amount.whole? year with
        | some n => return (← sketch.setParts (sketch.parts.addYear? (today.fullYearOf n)), i + 4)
        | none => return (sketch, i + 4)
    else return (sketch, i)

def readHalf (sketch : Sketch) (i : Nat) (half : Nat) : Taken :=
  match sketch.hour with
  | some hour =>
    if hour ≤ 12 then .ok ({ sketch with hour := some (inHalf hour half) }, i) else .error .noDate
  | none => .error .noDate

/-- An offset from universal time after its sign, in minutes, and the position of its last token. -/
def offsetAt (i : Nat) : Except Unread (Nat × Nat) := do
  let hours ← need tokens[i + 1]?
  if hours.length = 4 then
    return (60 * (← need (Amount.whole? (hours.take 2))) +
      (← need (Amount.whole? (hours.drop 2))), i + 1)
  else if isAt tokens (i + 2) [[':']] then
    let minutes ← need tokens[i + 3]?
    return (60 * (← need (Amount.whole? hours)) + (← need (Amount.whole? minutes)), i + 3)
  else if hours.length ≤ 2 then return (60 * (← need (Amount.whole? hours)), i + 1)
  else .error .noDate

/-- The name of a zone may follow its offset in parentheses. -/
def namedZone? (sketch : Sketch) (last : Nat) : Option Token :=
  let name := (tokens[last + 3]?).getD []
  if (tokens[last + 1]?).any isFiller && isAt tokens (last + 2) [['(']] &&
      isAt tokens (last + 4) [[')']] && 3 ≤ name.length && sketch.zone.isNone && mayNameZone name
  then some name else none

def readOffset (sketch : Sketch) (i : Nat) (negative : Bool) : Taken := do
  let (minutes, last) ← offsetAt tokens i
  let sketch := { sketch with offset := some (if negative then -(minutes : Int) else minutes) }
  match namedZone? tokens sketch last with
  | some name => return ({ sketch with zone := some name }, last + 4)
  | none => return (sketch, last)

/-- Tells whether a sign follows the name of a zone, whose offset then has the opposite sign. -/
def signAt? (i : Nat) : Option Bool :=
  if isAt tokens i [['+']] then some false else if isAt tokens i [['-']] then some true else none

/-- The name of a zone. With an offset after it, universal time is only what the offset is from. -/
def readZone (sketch : Sketch) (i : Nat) (token : Token) : Taken :=
  let sketch := { sketch with zone := some token, offset := if token == ['z'] then some 0 else none }
  match signAt? tokens (i + 1) with
  | none => .ok (sketch, i)
  | some negative =>
    let zone := if isUniversal token then none else some token
    readOffset tokens { sketch with zone, offset := none } (i + 1) (!negative)

def readAt (sketch : Sketch) (i : Nat) (token : Token) : Taken :=
  if isEndless token then .error .noDate
  else match Amount.ofToken? token, weekday? token, month? token, half? token with
  | some a, _, _, _ => readNumber tokens sketch i token a
  | none, some day, _, _ => .ok ({ sketch with weekday := some day }, i)
  | none, none, some month, _ => readMonth tokens today sketch i month
  | none, none, none, some half => readHalf sketch i half
  | none, none, none, none =>
    let timed := sketch.hour.isSome
    if timed && sketch.zone.isNone && sketch.offset.isNone && mayNameZone token then
      readZone tokens sketch i token
    else match if timed then signAt? tokens i else none with
      | some negative => readOffset tokens sketch i negative
      | none => if isFiller token then .ok (sketch, i) else .error .noDate

def readAll : Nat → Sketch → Nat → Except Unread Sketch
  | 0, sketch, _ => .ok sketch
  | fuel + 1, sketch, i =>
    match tokens[i]? with
    | none => .ok sketch
    | some token => do
      let (sketch, last) ← readAt tokens today sketch i token
      readAll fuel sketch (last + 1)

end Reading

namespace Sketch

def isBlank (sketch : Sketch) : Bool :=
  sketch.parts.count = 0 && sketch.weekday.isNone && sketch.hour.isNone && sketch.minute.isNone &&
    sketch.second.isNone && sketch.micro.isNone && sketch.zone.isNone && sketch.offset.isNone

/-- The date of a sketch. A day of the week alone stands for the next such day, and a month that is too
short for the day of reading ends with its last. -/
def date? (today : Date) (sketch : Sketch) (chosen : DayParts.Chosen) : Option Date :=
  let year : Int := match chosen.year with
    | some n => if sketch.parts.fullYear then n else today.fullYearOf n
    | none => today.year
  let month := chosen.month.getD today.month
  let date : Date := ⟨year, month, chosen.day.getD (min today.day (daysInMonth year month))⟩
  if !date.isValid then none
  else match sketch.weekday, chosen.day with
    | some day, none =>
      let next := Date.ofDays (date.toDays + ((day + 7 - date.weekday) % 7 : Nat))
      if next.isValid then some next else none
    | _, _ => some date

def place (sketch : Sketch) : Option Int :=
  if sketch.zone.any Words.isUniversal then some 0 else sketch.offset

def time? (today : Date) (sketch : Sketch) : Option DateTime := do
  if sketch.isBlank then none
  let date ← sketch.date? today (← sketch.parts.choose?)
  let time : DateTime :=
    ⟨date, sketch.hour.getD 0, sketch.minute.getD 0, sketch.second.getD 0, sketch.micro.getD 0,
      sketch.place.map ofMinutes⟩
  if time.hour < 24 && time.minute < 60 && time.second < 60 then some time else none

end Sketch

def readDate (today : Date) (s : String) : Except Unread DateTime := do
  let tokens := (Token.read s.toList).toArray
  let sketch ← Reading.readAll tokens today (tokens.size + 1) {} 0
  match sketch.time? today with
  | some time => return time
  | none => .error .noDate

end ObjectStore.Time
