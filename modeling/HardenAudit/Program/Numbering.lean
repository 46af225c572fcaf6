import HardenAudit.Program.Columns
import HardenAudit.Program.Regex

/-!
# Numbers before lines: `nl`

A text may be divided into pages by lines that hold marks only: each page has a header, a body and a
footer, of which the lines are numbered in ways of their own.
-/

namespace HardenAudit.Program

open Kernel (Work)

namespace Numbering

/-- Which lines have numbers. -/
inductive Selection where
  | all
  | filled
  | none
  | fitting (r : Regex)
  deriving Inhabited

/-- The parts of a page. -/
inductive Part where
  | header
  | body
  | footer
  deriving DecidableEq, Repr, Inhabited

/-- How lines are numbered. -/
structure Manner where
  header : Selection := .none
  body : Selection := .filled
  footer : Selection := .none
  start : Int := 1
  step : Int := 1
  /-- Do numbers go on from page to page? -/
  goOn : Bool := false
  /-- How many empty lines count for one. -/
  joined : Int := 1
  separator : String := "\t"
  width : Nat := 6
  format : String := "rn"
  /-- The mark that divides pages. -/
  mark : String := "\\:"
  deriving Inhabited

/-- The way of numbering a part of a page. -/
def Manner.selection (m : Manner) : Part → Selection
  | .header => m.header
  | .body => m.body
  | .footer => m.footer

/-- The part of a page that begins with a line. -/
def Manner.partOf? (m : Manner) (line : String) : Option Part :=
  if m.mark.length < 2 then Option.none
  else if line == m.mark ++ m.mark ++ m.mark then some .header
  else if line == m.mark ++ m.mark then some .body
  else if line == m.mark then some .footer
  else Option.none

/-- The next number, the part of the page, and the empty lines before. -/
structure State where
  next : Int
  part : Part := .body
  blanks : Int := 0
  deriving Inhabited

/-- A number as it is written. -/
def Manner.number (m : Manner) (n : Int) : String :=
  let digits := toString n.natAbs
  let sign := if n < 0 then "-" else ""
  let fill (c : Char) : String :=
    String.ofList (List.replicate (m.width - sign.length - digits.length) c)
  match m.format with
  | "ln" => sign ++ digits ++ fill ' '
  | "rz" => sign ++ fill '0' ++ digits
  | _ => fill ' ' ++ sign ++ digits

/-- Numbers a line. -/
def Manner.line (m : Manner) : LineStep State := fun s line _ =>
  match m.partOf? line with
  | some part => { state := { s with part := part, next := if m.goOn then s.next else m.start }, out := "\n" }
  | Option.none =>
    let isEmpty := line == ""
    let (numbered, blanks) : Bool × Int := match m.selection s.part with
      | .all =>
        if m.joined > 1 then
          let blanks := if isEmpty then s.blanks + 1 else s.blanks
          if !isEmpty || blanks == m.joined then (true, 0) else (false, blanks)
        else (true, s.blanks)
      | .filled => (!isEmpty, s.blanks)
      | .none => (false, s.blanks)
      | .fitting r =>
        ((r.search? { chars := line.toList.toArray } (fun _ _ => true) 0).isSome, s.blanks)
    if numbered then
      { state := { s with next := s.next + m.step, blanks := blanks }
        out := m.number s.next ++ m.separator ++ ended line }
    else
      { state := { s with blanks := blanks }
        out := String.ofList (List.replicate (m.width + m.separator.length) ' ') ++ ended line }

/-- The way of numbering that a text asks for. -/
def selection? (text : String) : Except String (Option Selection) :=
  match text.toList with
  | 'a' :: _ => .ok (some .all)
  | 't' :: _ => .ok (some .filled)
  | 'n' :: _ => .ok (some .none)
  | 'p' :: pattern => do
    let r ← Regex.ofText { extended := false, strict := true } (String.ofList pattern)
    .ok (some (.fitting r))
  | _ => .ok Option.none

/-- The manner with one more option, and whether the options are right so far. -/
def Manner.withOption (name : String) (s : Manner × Bool) (c : Char) (value : Option String) :
    Work (Manner × Bool) := do
  let (m, fine) := s
  let text := value.getD ""
  let wrong (what : String) : Work (Manner × Bool) := do
    report name ("invalid " ++ what ++ ": " ++ quote text)
    pure (m, false)
  let selected (what : String) (set_ : Selection → Manner) : Work (Manner × Bool) :=
    match selection? text with
    | .error message => giveUp name 1 message
    | .ok (some way) => pure (set_ way, fine)
    | .ok Option.none => wrong (what ++ " numbering style")
  let number (what : String) (least most : Int) : Work Int :=
    numberBetween name ("invalid " ++ what) text least most
  match c with
  | 'h' => selected "header" fun way => { m with header := way }
  | 'b' => selected "body" fun way => { m with body := way }
  | 'f' => selected "footer" fun way => { m with footer := way }
  | 'v' => do
    let n ← number "starting line number" Shell.least Shell.greatest
    pure ({ m with start := n }, fine)
  | 'i' => do
    let n ← number "line number increment" Shell.least Shell.greatest
    pure ({ m with step := n }, fine)
  | 'p' => pure ({ m with goOn := true }, fine)
  | 'l' => do
    let n ← number "line number of blank lines" 1 Shell.greatest
    pure ({ m with joined := n }, fine)
  | 's' => pure ({ m with separator := text }, fine)
  | 'w' => do
    let n ← number "line number field width" 1 0x7FFFFFFF
    pure ({ m with width := n.toNat }, fine)
  | 'n' =>
    if ["ln", "rn", "rz"].contains text then pure ({ m with format := text }, fine)
    else wrong "line numbering format"
  | 'd' =>
    let mark := if text.length = 1 || text.length = 2 then
        text ++ String.ofList (m.mark.toList.drop text.length)
      else text
    pure ({ m with mark := mark }, fine)
  | _ => pure (m, fine)

end Numbering

open Numbering in
/-- Numbers the lines of files. -/
def nl : Program := fun argv _ => do
  let name := argv.head?.getD ""
  let args := argv.drop 1
  let o := Options.make "b:d:f:h:i:l:n:ps:v:w:"
    [("body-numbering", 'b'), ("section-delimiter", 'd'), ("footer-numbering", 'f'),
     ("header-numbering", 'h'), ("line-increment", 'i'), ("join-blank-lines", 'l'),
     ("number-format", 'n'), ("no-renumber", 'p'), ("number-separator", 's'),
     ("starting-line-number", 'v'), ("number-width", 'w')]
  let (c, wrong) := gatherArguments o args.length args
  let (m, fine) ← c.options.foldlM (fun s (letter, value) => Manner.withOption name s letter value)
    (({} : Manner), true)
  if let some message := wrong then misuse name 1 message
  if !fine then hint name 1
  eachLine { c with name := name } { next := m.start : State } m.line

end HardenAudit.Program
