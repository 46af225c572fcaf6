import HardenAudit.Program.Basic

/-!
# Going through a text line by line

A text is read in pieces and handled line by line, so that a program can stop before the end, and
can go on for ever if its input does.
-/

namespace HardenAudit.Program

open Kernel (Refusal Work)

/-- What comes of one line: what to remember, what to write, and whether to stop. -/
structure Turn (σ : Type) where
  state : σ
  out : String := ""
  stop : Bool := false
  deriving Inhabited

/-- What to do with a line; the last line of a text may have no end. -/
abbrev LineStep (σ : Type) := σ → (line : String) → (ended : Bool) → Turn σ

/-- Goes through some lines that have ends: the last turn, all output in reverse, and the lines that
were not gone through. -/
def throughLines {σ : Type} (step : LineStep σ) : List String → σ → List String →
    σ × List String × Option (List String)
  | [], s, out => (s, out, none)
  | line :: rest, s, out =>
    let t := step s line true
    if t.stop then (t.state, t.out :: out, some rest)
    else throughLines step rest t.state (t.out :: out)

/-- Reading under way: what to remember, and a line that has no end yet. -/
structure Reading (σ : Type) where
  state : σ
  left : String := ""

/-- Moves back in a file over what was read and not used. -/
def giveBack (fd : Nat) (size : Nat) : Work Unit := do
  match ← Work.ask (.offset fd) with
  | .ok offset =>
    let _ ← Work.ask (.seek fd (offset - size))
  | .error _ => pure ()

/-- Goes through the lines that a descriptor gives; says whether a line asked to stop. -/
def streamLines {σ : Type} [Inhabited σ] (name : String) (fd : Nat) (start : σ) (step : LineStep σ)
    (lineEnd : String := "\n") : Work (Except Refusal (σ × Bool)) :=
  have : Inhabited (Except Refusal (σ × Bool)) := ⟨.ok (start, false)⟩
  Work.iterate (fun (r : Reading σ) => do
    match ← Work.ask (.read fd chunkSize) with
    | .error e => pure (.inr (.error e))
    | .ok [] =>
      if r.left = "" then pure (.inr (.ok (r.state, false)))
      else
        let t := step r.state r.left false
        put name t.out
        pure (.inr (.ok (t.state, t.stop)))
    | .ok bytes =>
      let parts := (r.left ++ Text.Raw.ofBytes bytes).splitOn lineEnd
      let lines := parts.dropLast
      let left := parts.getLast?.getD ""
      let (s, out, unused) := throughLines step lines r.state []
      put name (String.join out.reverse)
      match unused with
      | some rest =>
        giveBack fd ((rest.foldl (fun n l => n + l.length + 1) 0) + left.length)
        pure (.inr (.ok (s, true)))
      | none => pure (.inl { state := s, left := left })) Kernel.endless { state := start }

/-- What became of going through the files of a program. -/
structure Passage (σ : Type) where
  state : σ
  status : Nat := 0
  stop : Bool := false
  deriving Inhabited

/-- Goes through the lines of all files in turn; `failed` is called for those that cannot be read. -/
def throughFiles {σ : Type} [Inhabited σ] (name : String) (failed : String → Refusal → Work Unit)
    (step : (path : String) → LineStep σ) (begin_ : σ → String → σ) (lineEnd : String := "\n") :
    List String → Passage σ → Work (Passage σ)
  | [], p => pure p
  | path :: rest, p => do
    let start := begin_ p.state path
    let source ← if path = "-" then pure (.ok 0) else Work.ask (.openFile path .input)
    match source with
    | .error e =>
      failed path e
      throughFiles name failed step begin_ lineEnd rest { p with status := 1 }
    | .ok fd =>
      match ← streamLines name fd start (step path) lineEnd with
      | .error e =>
        if fd != 0 then close fd
        failed path e
        throughFiles name failed step begin_ lineEnd rest { p with status := 1 }
      | .ok (s, stop) =>
        if fd != 0 then close fd
        if stop then pure { p with state := s, stop := true }
        else throughFiles name failed step begin_ lineEnd rest { p with state := s }

end HardenAudit.Program
