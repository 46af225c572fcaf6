import HardenAudit.Program.Copying

/-!
# Putting files in their places: `install`

A file is copied under a new name with a mode of its own; what stood there before gives way.
-/

namespace HardenAudit.Program

open Kernel (Opening Refusal Work)

/-- Makes all directories on the way to a path that are not there; says whether that worked. -/
def makeWay (c : Call) : List String → Work Bool
  | [] => pure true
  | path :: rest => do
    match ← change (.makeDirectory path 0o755) with
    | .ok _ =>
      let _ ← change (.setMode path 0o755)
      if c.has 'v' then put c.name (c.name ++ ": creating directory " ++ shellQuote path ++ "\n")
      makeWay c rest
    | .error e =>
      if ← isDirectory path then makeWay c rest
      else
        report c.name ("cannot create directory " ++ shellQuote path ++ ": " ++ e.text)
        pure false

/-- Puts one file in its place. -/
def installOne (c : Call) (mode : Nat) (p : Placing) : Work Nat := do
  let failed (message : String) : Work Nat := do
    report c.name message
    pure 1
  match ← inspect p.source with
  | .error e => failed ("cannot stat " ++ shellQuote p.source ++ ": " ++ e.text)
  | .ok s =>
    let old ← inspectLink p.target
    if s.kind == .directory then failed ("omitting directory " ++ shellQuote p.source)
    else if sameFile (.ok s) (← inspect p.target) then
      failed (shellQuote p.source ++ " and " ++ shellQuote p.target ++ " are the same file")
    else if (old.toOption.map (·.kind)) == some .directory then
      failed ("cannot overwrite directory " ++ shellQuote p.target ++ " with non-directory")
    else
      let told ← match old with
        | .error _ => pure ""
        | .ok _ =>
          if c.has 'b' then
            let _ ← change (.rename p.target (p.target ++ (c.value? 'S').getD "~"))
            pure (" (backup: " ++ shellQuote (p.target ++ (c.value? 'S').getD "~") ++ ")")
          else
            match ← change (.unlink p.target) with
            | .ok _ =>
              if c.has 'v' then put c.name ("removed " ++ shellQuote p.target ++ "\n")
            | .error _ => pure ()
            pure ""
      match ← Work.ask (.openFile p.source .input) with
      | .error e => failed ("cannot open " ++ shellQuote p.source ++ " for reading: " ++ e.text)
      | .ok source =>
        match ← Work.ask (.openFile p.target
          { writable := true, create := true, exclusive := true, mode := 0o600 }) with
        | .error e =>
          close source
          failed ("cannot create regular file " ++ shellQuote p.target ++ ": " ++ e.text)
        | .ok target =>
          let wrong ← match ← slurp source with
            | .ok text => writeAll target text
            | .error e => pure (some e)
          close source
          close target
          if c.has 'v' then
            put c.name (shellQuote p.source ++ " -> " ++ shellQuote p.target ++ told ++ "\n")
          match wrong with
          | some e => failed ("error writing " ++ shellQuote p.target ++ ": " ++ e.text)
          | none =>
            if c.has 'p' then
              let _ ← change (.touch p.target (some s.changed))
            let _ ← change (.setMode p.target mode)
            pure 0

/-- Copies files to their places, or makes directories. -/
def install : Program := fun argv _ => do
  let c ← call (.make "bcCdDg:m:o:psS:t:Tv"
    [("backup", 'b'), ("compare", 'C'), ("directory", 'd'), ("group", 'g'), ("mode", 'm'),
     ("owner", 'o'), ("preserve-timestamps", 'p'), ("strip", 's'), ("suffix", 'S'),
     ("target-directory", 't'), ("no-target-directory", 'T'), ("verbose", 'v')]) 1 argv
  let mode ← match c.value? 'm' with
    | none => pure 0o755
    | some text =>
      match Mode.parse? text with
      | none => giveUp c.name 1 ("invalid mode " ++ quote text)
      | some changes => pure (Mode.adjust (c.has 'd') 0 0 changes)
  if c.has 'd' then
    if c.rest.isEmpty then misuse c.name 1 "missing file operand"
    eachOf c.rest fun path => do
      if ← makeWay c (waysTo path) then
        let _ ← change (.setMode path mode)
        pure 0
      else pure 1
  else
    if c.has 'D' then
      let dirs := match c.value? 't' with
        | some dir => waysTo dir
        | none => if c.rest.length < 2 then [] else (waysTo (c.rest.getLast?.getD "")).dropLast
      if !(← makeWay c dirs) then Work.exit 1
    let all ← placings c
    eachOf all (installOne c mode)

end HardenAudit.Program
