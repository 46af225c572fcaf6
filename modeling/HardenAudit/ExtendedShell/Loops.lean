import HardenAudit.ExtendedShell.Commands

/-!
# Loops and choices

All definitions here take the evaluator as an argument, since commands run commands.
-/

namespace HardenAudit.ExtendedShell

namespace Sh

/-- One turn of a loop: its status, and whether the loop goes on. -/
def turn (body : Sh (Option Nat)) : Sh (Option (Nat × Bool)) := do
  match ← attempt body with
  | .ok (some n) => pure (some (n, true))
  | .ok none => pure none
  | .error (.break n) =>
    if n > 1 then throw (.break (n - 1))
    pure (some ((← get).status, false))
  | .error (.continue n) =>
    if n > 1 then throw (.continue (n - 1))
    pure (some ((← get).status, true))
  | .error j => throw j

/-- Runs a part as a loop. -/
def inLoop (body : Sh Nat) : Sh Nat := do
  let loops := (← get).loops
  modify fun s => { s with loops := loops + 1 }
  let r ← attempt body
  modify fun s => { s with loops := loops }
  resume r

/-- Repeats turns until one of them says that the loop is over, or that there is none. -/
def repeatTurns {σ : Type} (next : σ → Sh (Option (σ × Sh (Option Nat)))) (start : σ) : Sh Nat :=
  inLoop (iterate (fun ((x, status) : σ × Nat) => do
    match ← next x with
    | none => pure (.inr status)
    | some (x, body) =>
      match ← turn body with
      | none => pure (.inr status)
      | some (status, true) => pure (.inl (x, status))
      | some (status, false) => pure (.inr status)) Kernel.endless (start, 0))

/-- Runs a loop under a condition. -/
def runLoop (run : Evaluator) (mode : Mode) (wanted : Bool) (test body : Command) : Sh Nat :=
  repeatTurns (fun (_ : Unit) => pure (some ((), do
    let code ← run { tested := true } test
    if (code == 0) != wanted then pure none
    else
      let status ← run { tested := mode.tested } body
      pure (some status)))) ()

/-- Complains about the name of a loop, if it is none. -/
def loopName (name : String) : Sh Bool := do
  if Shell.isName name then pure true
  else
    warnPlain ("\x60" ++ name ++ "\x27: not a valid identifier")
    pure false

/-- Runs a loop with a variable. -/
def runEach (run : Evaluator) (mode : Mode) (c : Command) (line : Nat) (name shown : String)
    (values : List String) (body : Command) : Sh Nat := do
  if !(← loopName name) then pure 1
  else
    repeatTurns (fun (values : List String) => do
      match values with
      | [] => pure none
      | value :: rest =>
        atLine line
        announce run c
        trace (servicesOf run) ("for " ++ name ++ " in " ++ shown)
        if !(← assignNamed name value) then discard
        pure (some (rest, some <$> run { tested := mode.tested } body))) values

/-- The value of an expression of a command; none after a complaint. -/
def expressionValue? (run : Evaluator) (w : Word) : Sh (Option Int) := do
  let services := servicesOf run
  let text ← expandText services { quoted := true } w
  let text := String.ofList (text.toList.dropWhile Arithmetic.isBlank)
  trace services ("(( " ++ text ++ " ))")
  let outer := (← get).running
  modify fun s => { s with running := some "((" }
  let r ← calculate? text
  let result ← match r with
    | .ok n => pure (some n)
    | .error f => do
      warnFault f
      pure none
  modify fun s => { s with running := outer }
  pure result

/-- Runs a loop with expressions for its start, its test and its step. -/
def runCounting (run : Evaluator) (mode : Mode) (line : Nat) (start test step : Word) (body : Command) :
    Sh Nat := do
  let value (w : Word) : Sh (Option Int) := do
    atLine line
    announce run (.arith line w)
    expressionValue? run w
  match ← value start with
  | none => pure 1
  | some _ =>
    inLoop (iterate (fun (status : Nat) => do
      match ← value test with
      | none => pure (.inr 1)
      | some 0 => pure (.inr status)
      | some _ =>
        match ← turn (some <$> run { tested := mode.tested } body) with
        | some (status, true) =>
          match ← value step with
          | none => pure (.inr 1)
          | some _ => pure (.inl status)
        | some (status, false) => pure (.inr status)
        | none => pure (.inr status)) Kernel.endless 0)

/-- A menu: the choices with their numbers, in columns. -/
def menuText (width : Nat) (choices : List String) : String :=
  let count := choices.length
  let digits := (toString count).length
  let longest := choices.foldl (fun n c => max n c.length) 0
  let cell := longest + digits + 4
  let columns := max 1 (width / max 1 cell)
  let rows := count / columns + (if count % columns = 0 then 0 else 1)
  let columns := if rows = 0 then 1 else count / rows + (if count % rows = 0 then 0 else 1)
  let (rows, columns) := if rows = 1 then (columns, 1) else (rows, columns)
  let entry (i : Nat) : String :=
    let number := toString (i + 1)
    String.ofList (List.replicate (digits - number.length) ' ') ++ number ++ ") " ++ choices.getD i ""
  let line (row : Nat) : String :=
    let cells := ((List.range columns).map fun c => row + c * rows).filter (· < count)
    let shown := cells.map entry
    String.join ((shown.dropLast.map fun t => t ++ String.ofList (List.replicate (cell - t.length) ' '))
      ++ [shown.getLast?.getD ""]) ++ "\n"
  String.join ((List.range rows).map line)

/-- Runs a loop over what is chosen from a menu. -/
def runMenu (run : Evaluator) (mode : Mode) (name : String) (values : List String) (body : Command) :
    Sh Nat := do
  if !(← loopName name) then return 1
  if values.isEmpty then return 0
  let menu := menuText 80 values
  let prompt := (← lookup "PS3").getD "#? "
  inLoop (iterate (fun ((shows, status) : Bool × Nat) => do
    flush
    printError ((if shows then menu else "") ++ prompt)
    let code ← Builtin.read []
    if code != 0 then
      print "\n"
      flush
      pure (.inr 1)
    else
      let text := (← lookup "REPLY").getD ""
      if text == "" then pure (.inl (true, status))
      else
        let choice := match Shell.wholeNumber? 10 text with
          | some n => if 1 ≤ n then (values[n.toNat - 1]?).getD "" else ""
          | none => ""
        if !(← assignNamed name choice) then discard
        match ← turn (some <$> run { tested := mode.tested } body) with
        | some (status, true) =>
          let reply := (← lookup "REPLY").getD ""
          pure (.inl (reply == "", status))
        | some (status, false) => pure (.inr status)
        | none => pure (.inr status)) Kernel.endless (true, 0))

/-- Does one of some patterns match a text? -/
def matchesAny (services : Services) (text : String) : List Word → Sh Bool
  | [] => pure false
  | w :: rest => do
    let cells ← cellsOf services { tilde := true } w.pieces
    let items := Pattern.ofAtoms (← hasExtra "extglob") (Cell.atoms cells)
    let m : Pattern.Manner := { folded := ← hasExtra "nocasematch" }
    if Pattern.isMatch m items text.toList then pure true else matchesAny services text rest

/-- Runs the commands of the arms that match. -/
def runArms (run : Evaluator) (mode : Mode) (text : String) : (falls : Bool) → (status : Nat) → List Arm →
    Sh Nat
  | _, status, [] => pure status
  | falls, status, .mk patterns body ending :: rest => do
    let found ← if falls then pure true else matchesAny (servicesOf run) text patterns
    if !found then runArms run mode text false status rest
    else
      let status ← if body.isNothing then pure 0 else run { tested := mode.tested } body
      match ending with
      | .stop => pure status
      | .fall => runArms run mode text true status rest
      | .onward => runArms run mode text false status rest

end Sh
end HardenAudit.ExtendedShell
