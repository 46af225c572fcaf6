import HardenAudit.Program.Display
import HardenAudit.Text.Calendar

/-!
# The time: `date`
-/

namespace HardenAudit.Program

open Kernel (Work)
open Text (Moment)

/-- A time of day in seconds. -/
def clockTime? (text : String) : Option Int := do
  match ← (text.splitOn ":").mapM Shell.plainNumber? with
  | [hour, minute] => if hour < 24 && minute < 60 then some (hour * 3600 + minute * 60 : Nat) else none
  | [hour, minute, second] =>
    if hour < 24 && minute < 60 && second < 61 then some (hour * 3600 + minute * 60 + second : Nat)
    else none
  | _ => none

/-- A day in seconds since 1970. -/
def calendarDay? (text : String) : Option Int := do
  match ← (text.splitOn "-").mapM Shell.plainNumber? with
  | [year, month, day] =>
    let days := Moment.daysTo year month day
    if Moment.dateOf days == ((year : Int), month, day) then some (days * 86400) else none
  | _ => none

/-- The seconds since 1970 that a text tells, seen from a moment. -/
def secondsTold? (now : Int) (text : String) : Option Int :=
  let text := if text.endsWith "Z" then String.ofList text.toList.dropLast else text
  let text := String.ofList (text.toList.map fun c => if c == 'T' then ' ' else c)
  let words := (text.splitOn " ").filter fun w => w != "" && w != "UTC"
  let today := Int.fdiv now 86400 * 86400
  match words with
  | [] => some today
  | ["now"] | ["today"] => some now
  | ["yesterday"] => some (now - 86400)
  | ["tomorrow"] => some (now + 86400)
  | [word] =>
    match word.toList with
    | '@' :: digits => (String.ofList digits).toInt?
    | _ => (calendarDay? word).or ((clockTime? word).map (today + ·))
  | [day, time] => do
    let d ← calendarDay? day
    let t ← clockTime? time
    some (d + t)
  | _ => none

/-- The letters that only this program knows. -/
def dateLetters (m : Moment) (fraction : Nat) (c : Char) : Option Moment.Part :=
  match c with
  | 'N' => some (.number fraction 9 '0')
  | 'q' => some (.number ((m.month + 2) / 3 : Nat) 1 '0')
  | _ => none

/-- The format with the colons of the distance from Greenwich taken out, which is nothing. -/
def withoutColons : List Char → List Char
  | '%' :: '%' :: rest => '%' :: '%' :: withoutColons rest
  | '%' :: ':' :: ':' :: 'z' :: rest => "+00:00:00".toList ++ withoutColons rest
  | '%' :: ':' :: 'z' :: rest => "+00:00".toList ++ withoutColons rest
  | c :: rest => c :: withoutColons rest
  | [] => []

/-- The format that the option for a standard notation asks for. -/
def standardDate? (precision : String) : Option String :=
  match precision with
  | "" | "date" => some "%Y-%m-%d"
  | "hours" => some "%Y-%m-%dT%H+00:00"
  | "minutes" => some "%Y-%m-%dT%H:%M+00:00"
  | "seconds" => some "%Y-%m-%dT%H:%M:%S+00:00"
  | "ns" => some "%Y-%m-%dT%H:%M:%S,%N+00:00"
  | _ => none

/-- Shows the time. -/
def date : Program := fun argv _ => do
  let o := Options.make "d:f:r:Rs:uI" [("date", 'd'), ("reference", 'r'), ("rfc-email", 'R'),
    ("set", 's'), ("utc", 'u'), ("universal", 'u')]
  let o := { o with
    letters := o.letters.map fun p => if p.1 == 'I' then ('I', .optional) else p
    names := o.names ++ [("iso-8601", 'I', .optional)] }
  let c ← call o 1 argv
  let now ← Work.ask .now
  let whole : Int := (now / 1000000 : Nat)
  let (seconds, fraction) ← match c.value? 'd', c.value? 'r' with
    | some text, _ =>
      match secondsTold? whole text with
      | some n => pure (n, if text = "now" then now % 1000000 * 1000 else 0)
      | none => giveUp c.name 1 ("invalid date " ++ quote text)
    | none, some path => do
      match ← inspect path with
      | .ok s => pure (((s.changed / 1000000 : Nat) : Int), s.changed % 1000000 * 1000)
      | .error e => giveUp c.name 1 (shellQuoteIfNeeded path ++ ": " ++ e.text)
    | none, none => pure (whole, now % 1000000 * 1000)
  let standard :=
    if c.has 'R' then "%a, %d %b %Y %H:%M:%S +0000"
    else if c.has 'I' then (standardDate? ((c.value? 'I').getD "")).getD "%Y-%m-%d"
    else "%a %b %e %H:%M:%S %Z %Y"
  let format ← match c.rest with
    | [] => pure standard
    | [arg] =>
      match arg.toList with
      | '+' :: cs =>
        if c.has 'R' || c.has 'I' then giveUp c.name 1 "multiple output formats specified"
        pure (String.ofList (withoutColons cs))
      | _ => giveUp c.name 1 ("invalid date " ++ quote arg)
    | _ :: extra :: _ => misuse c.name 1 ("extra operand " ++ quote extra)
  let m := Moment.ofSeconds seconds
  put c.name (ended (m.format (dateLetters m fraction) format))
  pure 0

end HardenAudit.Program
