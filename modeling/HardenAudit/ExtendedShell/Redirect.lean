import HardenAudit.ExtendedShell.Glob

/-!
# Redirections

Descriptors are led elsewhere for the time of a command.  What they led to before is set aside and put
back afterwards.
-/

namespace HardenAudit.ExtendedShell

open Kernel (Opening Refusal)

namespace Sh

/-- A descriptor from which a text can be read. -/
def textSource (text : String) : Sh Nat := do
  let (source, drain) ← ask .pipe
  if text.length ≤ 65536 then
    let _ ← writeAll drain text
    let _ ← ask (.close drain)
  else
    let _ ← fork do
      let _ ← ask (.close source)
      let _ ← writeAll drain text
      pure 0
    let _ ← ask (.close drain)
  pure source

/-- The path of a redirection; none after a complaint. -/
def redirectPath? (services : Services) (w : Word) : Sh (Option String) := do
  let found ← expandWord services w
  match found with
  | [path] => pure (some path)
  | _ =>
    warnPlain (w.raw ++ ": ambiguous redirect")
    pure none

/-- Opens the file of a redirection; none after a complaint. -/
def openTarget? (mode : FileMode) (path : String) : Sh (Option Nat) := do
  let opened (how : Opening) : Sh (Option Nat) := do
    match ← ask (.openFile path how) with
    | .ok fd => pure (some fd)
    | .error e =>
      warnPlain (path ++ ": " ++ e.text)
      pure none
  match mode with
  | .input => opened .input
  | .both => opened .update
  | .append => opened .extension
  | .clobber => opened .output
  | .output =>
    if !(← hasOption "noclobber") then opened .output
    else
      match ← ask (.inspect path) with
      | .error _ => opened { writable := true, create := true, exclusive := true }
      | .ok status =>
        if status.kind == .file then
          warnPlain (path ++ ": cannot overwrite existing file")
          pure none
        else opened { writable := true }

/-- The first descriptor that is used for what is set aside. -/
def asideFirst : Nat := 10

/-- Notes what a descriptor leads to. -/
def noted (fd : Nat) : Sh Aside := do
  let kept ← ask (.duplicate fd asideFirst true)
  pure ⟨fd, kept.toOption⟩

/-- Puts back what was set aside, the last one first. -/
def putBack (asides : List Aside) : Sh Unit := do
  for a in asides do
    match a.kept with
    | some kept =>
      let _ ← ask (.assign kept a.fd)
      let _ ← ask (.close kept)
    | none =>
      let _ ← ask (.close a.fd)

/-- Closes what was set aside without putting it back. -/
def forgetAsides (asides : List Aside) : Sh Unit := do
  for a in asides do
    if let some kept := a.kept then
      let _ ← ask (.close kept)

/-- Leads a descriptor to what another one leads to, which is closed if it was opened for that. -/
def lead (fd source : Nat) (opened : Bool) : Sh (List Aside) := do
  if fd == source then
    if opened then pure [⟨fd, none⟩] else pure []
  else
    let a ← noted fd
    let _ ← ask (.assign source fd)
    if opened then
      let _ ← ask (.close source)
    pure [a]

/-- The descriptor that a handle stands for, which may be a new one for what was opened. -/
def place (handle : Handle) (source : Nat) (opened : Bool) : Sh (List Aside) := do
  match handle with
  | .number n => lead n source opened
  | .variable name =>
    match ← ask (.duplicate source asideFirst false) with
    | .ok fd =>
      if opened then
        let _ ← ask (.close source)
      if !(← assignNamed name (toString fd)) then discard
      pure []
    | .error _ => pure []

/-- Carries out a redirection: what was set aside, the last one first; none after a complaint. -/
def applyRedirect (services : Services) (d : Redirect) : Sh (Option (List Aside)) := do
  match d with
  | .file handle mode w =>
    match ← redirectPath? services w with
    | none => pure none
    | some path =>
      match ← openTarget? mode path with
      | none => pure none
      | some source => some <$> place handle source true
  | .streams append w =>
    match ← redirectPath? services w with
    | none => pure none
    | some path => both path append
  | .text handle w =>
    let text ← expandText services { tilde := true } w
    let source ← textSource (text ++ "\n")
    some <$> place handle source true
  | .document handle number =>
    let document := ((← get).documents[number]?).getD default
    let cells ← cellsOf services { quoted := true } document.pieces
    let source ← textSource (Cell.text cells)
    some <$> place handle source true
  | .descriptor handle reads w =>
    let found ← expandWord services w
    match found with
    | [text] =>
      let cs := text.toList
      if text == "-" then
        match handle with
        | .number n =>
          let a ← noted n
          let _ ← ask (.close n)
          pure (some [a])
        | .variable name =>
          let held : Option String := match ← namedValue name with
            | .one text => some text
            | _ => none
          let fd := (held.bind (·.toNat?)).getD 0
          let _ ← ask (.close fd)
          pure (some [])
      else
        let moves := cs.getLast? == some '-'
        let ds := if moves then cs.dropLast else cs
        if ds.all Char.isDigit && !ds.isEmpty then
          let source := (Shell.digits 10 ds 0 0).1
          match ← ask (.duplicate source 10 true) with
          | .error e =>
            warnPlain (toString source ++ ": " ++ e.text)
            pure none
          | .ok copy =>
            let _ ← ask (.close copy)
            let asides ← place handle source false
            if moves then
              let a ← noted source
              let _ ← ask (.close source)
              pure (some (a :: asides))
            else pure (some asides)
        else if !reads && handle == .number 1 then both text false
        else
          warnPlain (w.raw ++ ": ambiguous redirect")
          pure none
    | _ =>
      warnPlain (w.raw ++ ": ambiguous redirect")
      pure none
where
  /-- Leads both streams of output to a file. -/
  both (path : String) (append : Bool) : Sh (Option (List Aside)) := do
    match ← openTarget? (if append then .append else .output) path with
    | none => pure none
    | some source =>
      let first ← lead 1 source true
      let second ← lead 2 1 false
      pure (some (second ++ first))

/-- Carries out redirections one by one: did all work, and what was set aside.  What was done is undone
if one breaks off. -/
def applyRedirects (services : Services) : List Redirect → List Aside → Sh (Bool × List Aside)
  | [], asides => pure (true, asides)
  | d :: rest, asides => do
    match ← attempt (applyRedirect services d) with
    | .ok (some more) => applyRedirects services rest (more ++ asides)
    | .ok none => pure (false, asides)
    | .error j =>
      putBack asides
      throw j

/-- Runs a part under redirections; a failure of one of them is a status. -/
def redirecting (services : Services) (ds : List Redirect) (body : Sh Nat) : Sh Nat := do
  if ds.isEmpty then body
  else
    let (worked, asides) ← applyRedirects services ds []
    if !worked then
      putBack asides
      pure 1
    else
      let r ← attempt body
      flush
      putBack asides
      resume r

end Sh
end HardenAudit.ExtendedShell
