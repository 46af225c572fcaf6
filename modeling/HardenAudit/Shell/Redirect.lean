import HardenAudit.Shell.Expansion

/-!
# Redirections

Descriptors are led elsewhere for the time of a command.  What they led to before is set aside and
put back afterwards.
-/

namespace HardenAudit.Shell

open Kernel (Opening Refusal)

/-- A redirection whose word has been expanded. -/
inductive Target where
  | file (fd : Nat) (mode : FileMode) (path : String)
  | descriptor (fd source : Nat)
  | closed (fd : Nat)
  | document (fd : Nat) (word : Word) (expanded : Bool)
  deriving Inhabited

/-- The descriptor that is redirected. -/
def Target.fd : Target → Nat
  | file fd _ _ => fd
  | descriptor fd _ => fd
  | closed fd => fd
  | document fd _ _ => fd

/-- The wording of a refusal to open a file. -/
def openMessage (e : Refusal) : String := if e.isMissing then "No such file" else e.text

/-- The wording of a refusal to make a file. -/
def createMessage (e : Refusal) : String := if e.isMissing then "Directory nonexistent" else e.text

/-- The wording of a refusal to run a program. -/
def runMessage (e : Refusal) : String := if e.isMissing then "not found" else e.text

namespace Sh

/-- Expands the word of a redirection. -/
def expandRedirect (substitute : Substitute) : Redirect → Sh Target
  | .file fd mode word => do
    let path ← expandText substitute { tilde := true } word
    pure (.file fd mode path)
  | .descriptor fd word => do
    let text ← expandText substitute { tilde := true } word
    match text.toList with
    | ['-'] => pure (.closed fd)
    | [c] => if c.isDigit then pure (.descriptor fd (c.toNat - 48)) else bad
    | _ => bad
  | .document fd number expanded => do
    let word := ((← get).documents[number]?).getD []
    pure (.document fd word expanded)
where
  bad : Sh Target := fail "Syntax error: Bad fd number"

/-- A descriptor from which a text can be read. -/
def textSource (text : String) : Sh Nat := do
  let (source, drain) ← ask .pipe
  if text.length ≤ 65536 then
    let _ ← writeAll drain text
    let _ ← ask (.close drain)
  else
    let _ ← fork do
      let _ ← ask (.close source)
      let _ ← writeAll drain text
      pure 0
    let _ ← ask (.close drain)
  pure source

/-- Opens the file of a redirection. -/
def openTarget (mode : FileMode) (path : String) : Sh Nat := do
  let creating (how : Opening) : Sh Nat := do
    match ← ask (.openFile path how) with
    | .ok fd => pure fd
    | .error e => fail ("cannot create " ++ path ++ ": " ++ createMessage e)
  match mode with
  | .input =>
    match ← ask (.openFile path .input) with
    | .ok fd => pure fd
    | .error e => fail ("cannot open " ++ path ++ ": " ++ openMessage e)
  | .both => creating .update
  | .append => creating .extension
  | .clobber => creating .output
  | .output =>
    if !(← hasOption 'C') then creating .output
    else
      match ← ask (.inspect path) with
      | .error _ => creating { writable := true, create := true, exclusive := true }
      | .ok status =>
        if status.kind == .file then
          fail ("cannot create " ++ path ++ ": " ++ createMessage (.file .alreadyExists))
        else creating { writable := true }

/-- Sets a descriptor aside, unless that was done already. -/
def setAside (fd : Nat) : Sh Unit := do
  match (← get).aside with
  | [] => pure ()
  | frame :: rest =>
    if !frame.any (·.fd == fd) then
      let kept ← ask (.duplicate fd 10 true)
      let kept := kept.toOption
      modify fun s => { s with aside := (⟨fd, kept⟩ :: frame) :: rest }
      if kept.isSome then
        let _ ← ask (.close fd)

/-- Carries out one redirection; `keep` asks to set aside what was there. -/
def applyTarget (substitute : Substitute) (keep : Bool) (t : Target) : Sh Unit := do
  let place (source : Nat) : Sh Unit := do
    if source != t.fd then
      if keep then setAside t.fd
      let _ ← ask (.assign source t.fd)
      let _ ← ask (.close source)
    else if keep then
      modify fun s => match s.aside with
        | frame :: rest =>
          if frame.any (·.fd == t.fd) then s
          else { s with aside := (⟨t.fd, none⟩ :: frame) :: rest }
        | [] => s
  match t with
  | .file _ mode path =>
    let source ← openTarget mode path
    place source
  | .document _ word expanded =>
    let text ← expandText substitute { quoted := expanded } word
    let source ← textSource text
    place source
  | .closed fd =>
    if keep then setAside fd
    let _ ← ask (.close fd)
  | .descriptor fd source =>
    if source != fd then
      if keep then setAside fd
      match ← ask (.assign source fd) with
      | .ok _ => pure ()
      | .error e => fail (toString source ++ ": " ++ e.text)

/-- Carries out redirections one by one. -/
def applyAll (substitute : Substitute) (keep : Bool) (targets : List Target) : Sh Unit := do
  for t in targets do
    applyTarget substitute keep t

/-- Starts to set descriptors aside. -/
def pushAside : Sh Unit := modify fun s => { s with aside := [] :: s.aside }

/-- Puts back what was set aside last; `drop` leaves the descriptors as they are. -/
def popAside (drop : Bool) : Sh Unit := do
  match (← get).aside with
  | [] => pure ()
  | frame :: rest =>
    modify fun s => { s with aside := rest }
    for a in frame do
      match a.kept with
      | some kept =>
        if !drop then
          let _ ← ask (.assign kept a.fd)
        let _ ← ask (.close kept)
      | none =>
        if !drop then
          let _ ← ask (.close a.fd)

/-- Carries out redirections for a while, and says whether that worked. -/
def redirectSafely (substitute : Substitute) (targets : List Target) : Sh Bool := do
  match ← attempt (applyAll substitute true targets) with
  | .ok _ => pure true
  | .error .error => pure false
  | .error j => throw j

end Sh
end HardenAudit.Shell
