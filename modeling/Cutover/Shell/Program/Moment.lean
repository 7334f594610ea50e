import Cutover.Shell.Number

/-!
# Moments

Times that programs are told in digits or in words, as microseconds since 1970 in UTC. Words
count from the time that it is.
-/
namespace Cutover.Shell.Moment

/-- So many microseconds are a second. -/
def second : Int := 1000000

/-- So many seconds are a day. -/
def day : Int := 86400

/-- The number of a day, counted from 1970 on. Years are taken to begin with March, so that what
is added every four years comes last. -/
def dayNumber (year month date : Int) : Int :=
  let y := if month ≤ 2 then year - 1 else year
  let era := y / 400
  let m := (month + 9) % 12
  let ofYear := (153 * m + 2) / 5 + date - 1
  let yearOfEra := y % 400
  era * 146097 + yearOfEra * 365 + yearOfEra / 4 - yearOfEra / 100 + ofYear - 719468

/-- The year, the month and the day of the month of a day. -/
def dateOf (number : Int) : Int × Int × Int :=
  let z := number + 719468
  let era := z / 146097
  let d := z % 146097
  let yearOfEra := (d - d / 1460 + d / 36524 - d / 146096) / 365
  let ofYear := d - (365 * yearOfEra + yearOfEra / 4 - yearOfEra / 100)
  let m := (5 * ofYear + 2) / 153
  let month := if m < 10 then m + 3 else m - 9
  let year := yearOfEra + era * 400 + (if month ≤ 2 then 1 else 0)
  (year, month, ofYear - (153 * m + 2) / 5 + 1)

def ofDate? (year month date : Int) : Option Int :=
  let number := dayNumber year month date
  if dateOf number = (year, month, date) then some (number * day) else none

def ofTime? (hours minutes seconds : Int) : Option Int :=
  if hours < 24 && minutes < 60 && seconds ≤ 60
  then some (hours * 3600 + minutes * 60 + seconds) else none

def digits? (s : List Char) : Option Int :=
  if s ≠ [] && s.all Char.isDigit then some (digitsValue 10 s) else none

def pairs? : List Char → Option (List Int)
  | [] => some []
  | a :: b :: rest =>
    match digits? [a, b], pairs? rest with
    | some n, some ns => some (n :: ns)
    | _, _ => none
  | [_] => none

/-- Reads a time of digits only: the month, the day, the hours and the minutes, with the year in
front of them and seconds after a point if they are told. -/
def ofDigits? (now : Int) (text : String) : Option Int :=
  let (digits, seconds?) := match text.splitOn "." with
    | [digits] => (digits, some 0)
    | [digits, seconds] => (digits, if seconds.length = 2 then digits? seconds.toList else none)
    | _ => ("", none)
  let build (year month date hours minutes seconds : Int) : Option Int :=
    match ofDate? year month date, ofTime? hours minutes seconds with
    | some d, some t => some ((d + t) * second)
    | _, _ => none
  match pairs? digits.toList, seconds? with
  | some [month, date, hours, minutes], some seconds =>
    build (dateOf (now / second / day)).1 month date hours minutes seconds
  | some [year, month, date, hours, minutes], some seconds =>
    build (if year < 69 then 2000 + year else 1900 + year) month date hours minutes seconds
  | some [century, year, month, date, hours, minutes], some seconds =>
    build (century * 100 + year) month date hours minutes seconds
  | _, _ => none

/-- What has been told of a time: the day and the time of day in seconds, and what is added. -/
structure Parts where
  day : Option Int := none
  time : Option Int := none
  added : Int := 0
  whole : Option Int := none

/-- Reads a date: year, month and day with hyphens, or eight digits. -/
def date? (word : String) : Option Int :=
  match word.splitOn "-" with
  | [digits] =>
    if digits.length = 8 then
      match pairs? digits.toList with
      | some [a, b, month, date] => ofDate? (a * 100 + b) month date
      | _ => none
    else none
  | [year, month, date] =>
    match digits? year.toList, digits? month.toList, digits? date.toList with
    | some year, some month, some date => ofDate? year month date
    | _, _, _ => none
  | _ => none

def time? (word : String) : Option Int :=
  let word := if word.endsWith "Z" then String.ofList word.toList.dropLast else word
  match (word.splitOn ":").mapM fun n => digits? n.toList with
  | some [hours, minutes] => ofTime? hours minutes 0
  | some [hours, minutes, seconds] => ofTime? hours minutes seconds
  | _ => none

def months : List String :=
  ["Jan", "Feb", "Mar", "Apr", "May", "Jun", "Jul", "Aug", "Sep", "Oct", "Nov", "Dec"]

def month? (word : String) : Option Int :=
  let short := word.toList.take 3
  let name := short.take 1 |>.map Char.toUpper
  let rest := short.drop 1 |>.map Char.toLower
  (months.idxOf? (String.ofList (name ++ rest))).map fun i => i + 1

/-- How many seconds a unit has. -/
def unit? (word : String) : Option Int :=
  let units : List (String × Int) :=
    [("sec", 1), ("second", 1), ("min", 60), ("minute", 60), ("hour", 3600), ("day", day),
      ("week", 7 * day), ("fortnight", 14 * day), ("month", 30 * day), ("year", 365 * day)]
  let one := if word.endsWith "s" then String.ofList word.toList.dropLast else word
  (units.lookup word).or (units.lookup one)

def signed? (word : String) : Option Int :=
  match word.toList with
  | '-' :: s => (digits? s).map (-·)
  | '+' :: s => digits? s
  | s => digits? s

def ofWords? (today : Int) : List String → Parts → Option Parts
  | [], p => some p
  | "now" :: words, p => ofWords? today words p
  | "today" :: words, p => ofWords? today words p
  | "UTC" :: words, p => ofWords? today words p
  | "yesterday" :: words, p => ofWords? today words { p with added := p.added - day }
  | "tomorrow" :: words, p => ofWords? today words { p with added := p.added + day }
  | a :: b :: "ago" :: words, p =>
    match signed? a, unit? b with
    | some n, some unit => ofWords? today words { p with added := p.added - n * unit }
    | _, _ => none
  | a :: b :: c :: words, p =>
    match month? a, month? b, digits? (a.toList.filter (· ≠ ',')),
      digits? (b.toList.filter (· ≠ ',')), digits? c.toList with
    | some m, _, _, some d, some y | none, some m, some d, _, some y =>
      match ofDate? y m d with
      | some day => ofWords? today words { p with day := some day }
      | none => none
    | _, _, _, _, _ => ofSimple? today (a :: b :: c :: words) p
  | words, p => ofSimple? today words p
where
  ofSimple? (today : Int) : List String → Parts → Option Parts
  | [], p => some p
  | a :: words, p =>
    match date? a, time? a, words with
    | some d, _, words => ofWords? today words { p with day := some d }
    | _, some t, words => ofWords? today words { p with time := some t }
    | none, none, words =>
      match a.splitOn "T", words with
      | [d, t], words =>
        match date? d, time? t with
        | some d, some t => ofWords? today words { p with day := some d, time := some t }
        | _, _ => none
      | _, b :: words =>
        let times := match a with
          | "next" => some 1
          | "last" => some (-1)
          | a => signed? a
        match times, unit? b with
        | some n, some unit => ofWords? today words { p with added := p.added + n * unit }
        | _, _ => none
      | _, [] => (unit? a).map fun unit => { p with added := p.added + unit }

def ofText? (now : Int) (text : String) : Option Int :=
  match text.toList with
  | '@' :: s => (signed? (String.ofList s)).map (· * second)
  | _ =>
    let seconds := now / second
    let today := seconds / day * day
    let words := (text.splitOn " ").filter (· ≠ "")
    if words = [] then some (today * second)
    else
      (ofWords? today words {}).map fun p =>
        match p.day, p.time with
        | none, none => now + p.added * second
        | d, t => (d.getD today + t.getD 0 + p.added) * second

end Cutover.Shell.Moment
