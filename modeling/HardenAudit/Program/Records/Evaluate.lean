import HardenAudit.Program.Records.Library

/-!
# Evaluating expressions and carrying out statements

All definitions here take the evaluator as an argument, since functions of the script call each other;
`evaluator` ties the knot.
-/

namespace HardenAudit.Program.Records.Rec

/-- How expressions are evaluated and statements are carried out. -/
structure Evaluator where
  value : Expr → Rec Value
  run : Statement → Rec Unit

instance : Inhabited Evaluator := ⟨fun _ => pure .nothing, fun _ => pure ()⟩

/-- A truth value. -/
def truth (b : Bool) : Value := .number (if b then 1 else 0)

section
variable (self : Evaluator)

/-- The text of an expression. -/
def textAt (e : Expr) : Rec String := do
  let v ← self.value e
  textOf v

/-- The number of an expression. -/
def numberAt (e : Expr) : Rec Float := do
  let v ← self.value e
  pure v.toNumber

/-- The key that subscripts are. -/
def subscriptKey (es : List Expr) : Rec Key := do
  match es with
  | [e] =>
    let v ← self.value e
    keyOf v
  | es =>
    let texts ← es.mapM (textAt self)
    let between ← specialText "SUBSEP"
    pure (.text (between.intercalate texts))

/-- The regular expression that an expression stands for. -/
def regexAt (e : Expr) : Rec Regex := do
  match e with
  | .regex _ r => pure r
  | e =>
    let text ← textAt self e
    regexOf text

/-- The number of the field that an expression asks for. -/
def fieldNumber (e : Expr) : Rec Nat := do
  let x ← numberAt self e
  let n := wholeOf x
  if n < 0 then fail ("negative field index $" ++ toString n)
  pure n.toNat

/-! ## Places -/

/-- A place that was found: its variable, its field, or its table and key. -/
inductive Place where
  | variable (v : Ref)
  | field (n : Nat)
  | element (t : Nat) (k : Key)
  deriving Inhabited

/-- Finds a place; an element is there afterwards. -/
def placeAt (e : Expr) : Rec Place := do
  match e with
  | .variable v => pure (.variable v)
  | .field e =>
    let n ← fieldNumber self e
    pure (.field n)
  | .element v es =>
    let k ← subscriptKey self es
    let n ← tableNumber v
    let t ← table n
    setTable n (t.demand k).2
    pure (.element n k)
  | _ => fail "no place to assign to"

/-- The value at a place. -/
def load (p : Place) : Rec Value := do
  match p with
  | .variable v => variableValue v
  | .field n => field n
  | .element n k =>
    let t ← table n
    pure ((t.get? k).getD .nothing)

/-- Changes the value at a place. -/
def store (p : Place) (v : Value) : Rec Unit := do
  match p with
  | .variable r => setVariable r v
  | .field n => setField n v
  | .element n k =>
    let t ← table n
    setTable n { t with values := t.values.insert k.toText v }

/-! ## Records -/

/-- Reads a record into a place, or makes it the record. -/
def takeIn (place : Option Place) (text : String) : Rec Unit := do
  match place with
  | some p => store p (.input text)
  | none => setRecord (.input text)

/-- The next record of the input, of a file or of a command: one if there is one, zero at the end, and
minus one if it cannot be opened. -/
def readRecord (file command place : Option Expr) : Rec Value := do
  let place ← match place with
    | some e => some <$> placeAt self e
    | none => pure none
  match file, command with
  | some e, _ =>
    let name ← textAt self e
    match ← nextFrom false name with
    | none => pure (.number (-1))
    | some none => pure (.number 0)
    | some (some text) =>
      takeIn place text
      pure (.number 1)
  | none, some e =>
    let name ← textAt self e
    match ← nextFrom true name with
    | none => pure (.number (-1))
    | some none => pure (.number 0)
    | some (some text) =>
      takeIn place text
      pure (.number 1)
  | none, none =>
    match ← nextMain with
    | none => pure (.number 0)
    | some text =>
      takeIn place text
      count "NR"
      count "FNR"
      pure (.number 1)

/-! ## Functions -/

/-- The separator that an argument stands for. -/
def separatorAt (e : Expr) : Rec Separator := do
  match e with
  | .regex _ r => pure (.regex r)
  | e =>
    let text ← textAt self e
    separatorOf text

/-- Replaces matches in a place. -/
def substitute (all : Bool) (pattern by_ : Expr) (target : Expr) : Rec Value := do
  let r ← regexAt self pattern
  let with_ ← textAt self by_
  let p ← placeAt self target
  let old ← load p
  let text ← textOf old
  let (new, n) := replaceMatches r text with_ all
  if n > 0 then store p (.text new)
  pure (.number (Float.ofNat n))

/-- Calls a function that is always there. -/
def callBuiltin (f : Builtin) (args : List Expr) : Rec Value := do
  let number (x : Float) : Rec Value := pure (.number x)
  let natural (n : Nat) : Rec Value := pure (.number (Float.ofNat n))
  match f, args with
  | .length, [] => do
    let v ← wholeRecord
    let text ← textOf v
    natural text.length
  | .length, [.variable v] => do
    match ← slot v with
    | .table n =>
      let t ← table n
      natural t.size
    | .open_ n =>
      let t ← table n
      natural t.size
    | _ =>
      let text ← textAt self (.variable v)
      natural text.length
  | .length, [e] => do
    let text ← textAt self e
    natural text.length
  | .substr, [e, start] => do
    let text ← textAt self e
    let a ← numberAt self start
    pure (.text (substring text a none))
  | .substr, [e, start, size] => do
    let text ← textAt self e
    let a ← numberAt self start
    let n ← numberAt self size
    pure (.text (substring text a (some n)))
  | .index, [e, part] => do
    let text ← textAt self e
    let part ← textAt self part
    natural (placeOf part.toList text.toList 1)
  | .split, e :: .variable array :: rest => do
    let text ← textAt self e
    let s ← match rest with
      | [sep] => separatorAt self sep
      | _ => do
        let fs ← specialText "FS"
        separatorOf fs
    let found := parts s false text
    let n ← tableNumber array
    setTable n (.ofList (found.map Value.input))
    natural found.length
  | .sub, [pattern, by_] => substitute self false pattern by_ (.field (.number 0))
  | .gsub, [pattern, by_] => substitute self true pattern by_ (.field (.number 0))
  | .sub, [pattern, by_, target] => substitute self false pattern by_ target
  | .gsub, [pattern, by_, target] => substitute self true pattern by_ target
  | .match_, [e, pattern] => do
    let text ← textAt self e
    let r ← regexAt self pattern
    match search r (subject text) 0 with
    | some m =>
      setSpecial "RSTART" (.number (Float.ofNat (m.start + 1)))
      setSpecial "RLENGTH" (.number (Float.ofNat (m.finish - m.start)))
      natural (m.start + 1)
    | none =>
      setSpecial "RSTART" (.number 0)
      setSpecial "RLENGTH" (.number (-1))
      natural 0
  | .sprintf, e :: rest => do
    let format ← textAt self e
    let values ← rest.mapM self.value
    let text ← formatted "sprintf" (fun _ => pure ()) format values
    pure (.text text)
  | .sin, [e] => do number (Float.sin (← numberAt self e))
  | .cos, [e] => do number (Float.cos (← numberAt self e))
  | .atan2, [a, b] => do
    let x ← numberAt self a
    let y ← numberAt self b
    number (Float.atan2 x y)
  | .exp, [e] => do number (Float.exp (← numberAt self e))
  | .log, [e] => do number (Float.log (← numberAt self e))
  | .sqrt, [e] => do number (Float.sqrt (← numberAt self e))
  | .int, [e] => do number (truncated (← numberAt self e))
  | .rand, [] => do number (← nextRandom)
  | .srand, _ => do
    let old := (← get).seed
    let seed ← match args with
      | [e] => numberAt self e
      | _ => do
        let now ← ask .now
        pure (Float.ofNat (now / 1000000))
    seedRandom seed
    number old
  | .tolower, [e] => do
    let text ← textAt self e
    pure (.text (String.ofList (text.toList.map Char.toLower)))
  | .toupper, [e] => do
    let text ← textAt self e
    pure (.text (String.ofList (text.toList.map Char.toUpper)))
  | .system, [e] => do
    let command ← textAt self e
    let status ← runCommand command
    natural status
  | .close, [e] => do
    let name ← textAt self e
    let status ← closeNamed name
    number (Float.ofInt status)
  | .fflush, [] => do
    flushAll
    number 0
  | .fflush, _ => do
    let name ← match args with
      | [e] => textAt self e
      | _ => pure ""
    flushAll
    number (if name == "" || name == "/dev/stdout" || ((← get).drains.lookup name).isSome then 0 else -1)
  | .systime, _ => do
    let now ← ask .now
    natural (now / 1000000)
  | .strftime, _ => do
    let format ← match args with
      | e :: _ => textAt self e
      | [] => pure "%c"
    let seconds : Int ← match args with
      | _ :: e :: _ => do pure (wholeOf (← numberAt self e))
      | _ => do
        let now ← ask .now
        pure ((now / 1000000 : Nat) : Int)
    pure (.text ((Text.Moment.ofSeconds seconds).format (fun _ => none) format))
  | .mktime, e :: _ => do
    let text ← textAt self e
    number (match secondsOf? text with
      | some n => Float.ofInt n
      | none => -1)
  | _, _ => pure .nothing

/-- Functions that may call each other in a chain. -/
def depthLimit : Nat := 100000

/-- What a parameter holds for an argument: tables are not copied. -/
def passed (e : Expr) : Rec Slot := do
  match e with
  | .variable v =>
    if isFieldCount v then
      let x ← self.value e
      pure (.value x)
    else
      match ← slot v with
      | .nothing =>
        let n ← newTable .empty
        setSlot v (.open_ n)
        pure (.open_ n)
      | s => pure s
  | e =>
    let x ← self.value e
    pure (.value x)

/-- Calls a function of the script. -/
def callFunction (f : Nat) (args : List Expr) : Rec Value := do
  let s ← get
  let function := s.script.functions[f]?.getD default
  if s.depth ≥ depthLimit then fail "program limit exceeded: function calls nested too deep"
  ask .tick
  let slots ← args.mapM (passed self)
  let outer := (← get).parameters
  let frame := slots.toArray ++ Array.replicate (function.parameters.length - slots.length) .nothing
  modify fun s => { s with parameters := frame, depth := s.depth + 1 }
  let r ← attempt (self.run function.body)
  modify fun s => { s with parameters := outer, depth := s.depth - 1 }
  match r with
  | .ok _ => pure .nothing
  | .error (.return v) => pure v
  | .error j => throw j

/-! ## Expressions -/

/-- Does the comparison hold for an order? -/
def holds (c : Comparison) (o : Ordering) : Bool :=
  match c with
  | .less => o == .lt
  | .lessEqual => o != .gt
  | .equal => o == .eq
  | .notEqual => o != .eq
  | .greater => o == .gt
  | .greaterEqual => o != .lt

/-- The value of an expression. -/
def valueOf (e : Expr) : Rec Value := do
  match e with
  | .number x => pure (.number x)
  | .text s => pure (.text s)
  | .regex _ r =>
    let v ← wholeRecord
    let text ← textOf v
    pure (truth (search r (subject text) 0).isSome)
  | .variable v => variableValue v
  | .field e =>
    let n ← fieldNumber self e
    field n
  | .element v es =>
    let k ← subscriptKey self es
    let n ← tableNumber v
    let (x, t) := (← table n).demand k
    setTable n t
    pure x
  | .member es v =>
    let k ← subscriptKey self es
    let n ← tableNumber v
    let t ← table n
    setTable n (t.touch k)
    pure (truth (t.get? k).isSome)
  | .assign op place value =>
    let p ← placeAt self place
    match op with
    | none =>
      let v ← self.value value
      store p v
      pure v
    | some op =>
      let y ← numberAt self value
      let x ← load p
      let v := Value.number (operate op x.toNumber y)
      store p v
      pure v
  | .step place up after =>
    let p ← placeAt self place
    let old ← load p
    let x := old.toNumber
    let y := if up then x + 1 else x - 1
    store p (.number y)
    pure (.number (if after then x else y))
  | .choice test yes no =>
    let v ← self.value test
    if v.isTrue then self.value yes else self.value no
  | .either a b =>
    let v ← self.value a
    if v.isTrue then pure (truth true)
    else
      let w ← self.value b
      pure (truth w.isTrue)
  | .both a b =>
    let v ← self.value a
    if !v.isTrue then pure (truth false)
    else
      let w ← self.value b
      pure (truth w.isTrue)
  | .negation e =>
    let v ← self.value e
    pure (truth (!v.isTrue))
  | .minus e =>
    let x ← numberAt self e
    pure (.number (-x))
  | .plus e =>
    let x ← numberAt self e
    pure (.number x)
  | .binary op a b =>
    let x ← numberAt self a
    let y ← numberAt self b
    pure (.number (operate op x y))
  | .compare c a b =>
    let x ← self.value a
    let y ← self.value b
    let f ← format
    pure (truth (holds c (x.order f y)))
  | .matching wanted e pattern =>
    let text ← textAt self e
    let r ← regexAt self pattern
    pure (truth ((search r (subject text) 0).isSome == wanted))
  | .join a b =>
    let s ← textAt self a
    let t ← textAt self b
    pure (.text (s ++ t))
  | .builtin f args => callBuiltin self f args
  | .call f args => callFunction self f args
  | .getline file command place => readRecord self file command place

/-! ## Statements -/

/-- Writes to where output goes. -/
def putOut (o : Outlet) (text : String) : Rec Unit := do
  match o with
  | .standard => put text
  | .file e =>
    let name ← textAt self e
    putTo .file name text
  | .append e =>
    let name ← textAt self e
    putTo .append name text
  | .command e =>
    let name ← textAt self e
    putTo .command name text

/-- A value as it is written. -/
def shownText (v : Value) : Rec String := do
  match v with
  | .number x =>
    match whole? x with
    | some n => pure (toString n)
    | none => do
      let f ← specialText "OFMT"
      pure (numberText f x)
  | v => textOf v

/-- Runs the body of a loop; says whether the loop goes on. -/
def turn (body : Statement) : Rec Bool := do
  ask .tick
  match ← attempt (self.run body) with
  | .ok _ => pure true
  | .error .continue => pure true
  | .error .break => pure false
  | .error j => throw j

/-- Carries out a statement. -/
def carryOut (s : Statement) : Rec Unit := do
  match s with
  | .nothing => pure ()
  | .expression e =>
    let _ ← self.value e
  | .print values o =>
    let texts ← match values with
      | [] => do
        let v ← wholeRecord
        let t ← textOf v
        pure [t]
      | es => es.mapM fun e => do
        let v ← self.value e
        shownText v
    let ofs ← specialText "OFS"
    let ors ← specialText "ORS"
    putOut self o (ofs.intercalate texts ++ ors)
  | .printf values o =>
    match values with
    | [] => pure ()
    | e :: rest =>
      let format ← textAt self e
      let values ← rest.mapM self.value
      let text ← formatted "printf" (putOut self o) format values
      putOut self o text
  | .block body => body.forM self.run
  | .choice test yes no =>
    let v ← self.value test
    if v.isTrue then self.run yes else self.run no
  | .loop test body =>
    iterate (fun (_ : Unit) => do
      let v ← self.value test
      if !v.isTrue then pure (.inr ())
      else
        let onward ← turn self body
        pure (if onward then .inl () else .inr ())) Kernel.endless ()
  | .loopAfter body test =>
    iterate (fun (_ : Unit) => do
      let onward ← turn self body
      if !onward then pure (.inr ())
      else
        let v ← self.value test
        pure (if v.isTrue then .inl () else .inr ())) Kernel.endless ()
  | .loopFor start test last body =>
    self.run start
    iterate (fun (_ : Unit) => do
      let going ← match test with
        | some e => do
          let v ← self.value e
          pure v.isTrue
        | none => pure true
      if !going then pure (.inr ())
      else
        let onward ← turn self body
        if !onward then pure (.inr ())
        else
          self.run last
          pure (.inl ())) Kernel.endless ()
  | .loopIn v array body =>
    let n ← tableNumber array
    let (keys, t) := (← table n).keys
    setTable n t
    iterate (fun (keys : List String) => do
      match keys with
      | [] => pure (.inr ())
      | k :: rest =>
        setVariable v (.text k)
        let onward ← turn self body
        pure (if onward then .inl rest else .inr ())) Kernel.endless keys
  | .delete array subscripts =>
    let n ← tableNumber array
    match subscripts with
    | none => setTable n .empty
    | some es =>
      let k ← subscriptKey self es
      let t ← table n
      setTable n (t.erase k)
  | .next => throw .next
  | .nextFile => throw .nextFile
  | .exit e =>
    if let some e := e then
      let x ← numberAt self e
      modify fun s => { s with status := ((wholeOf x) % 256).toNat }
    throw .exit
  | .return e =>
    let v ← match e with
      | some e => self.value e
      | none => pure .nothing
    throw (.return v)
  | .break => throw .break
  | .continue => throw .continue

end

/-- The evaluator; `limit` bounds how deep expressions and calls are nested. -/
def evaluator : (limit : Nat) → Evaluator
  | 0 => default
  | limit + 1 =>
    { value := fun e => valueOf (evaluator limit) e
      run := fun s => carryOut (evaluator limit) s }

/-- Expressions and calls nested in each other at most. -/
def nesting : Nat := 0x100000000

/-! ## Rules -/

/-- The value of an expression. -/
def evaluate (e : Expr) : Rec Value := (evaluator nesting).value e

/-- Carries out a statement. -/
def run (s : Statement) : Rec Unit := (evaluator nesting).run s

/-- Does a rule apply to the record? -/
def applies (i : Nat) (s : Selection) : Rec Bool := do
  match s with
  | .always => pure true
  | .when e =>
    let v ← evaluate e
    pure v.isTrue
  | .between first last =>
    let open_ := (← get).ranges.contains i
    let enters ← if open_ then pure true else do
      let v ← evaluate first
      pure v.isTrue
    if !enters then pure false
    else
      let v ← evaluate last
      modify fun s => { s with
        ranges := if v.isTrue then s.ranges.filter (· != i) else i :: s.ranges.filter (· != i) }
      pure true

/-- Goes through the rules for a record. -/
def throughRules : (rules : List (Rule × Nat)) → Rec Unit
  | [] => pure ()
  | (rule, i) :: rest => do
    let fits ← applies i rule.selection
    if fits then
      match rule.action with
      | some s => run s
      | none => run (.print [] .standard)
    throughRules rest

/-- Goes through all records. -/
def throughRecords : Rec Unit := do
  let rules := (← get).script.rules.toList.zipIdx
  iterate (fun (_ : Unit) => do
    ask .tick
    match ← nextMain with
    | none => pure (.inr ())
    | some text =>
      setRecord (.input text)
      count "NR"
      count "FNR"
      match ← attempt (throughRules rules) with
      | .ok _ => pure (.inl ())
      | .error .next => pure (.inl ())
      | .error .nextFile =>
        endInput
        pure (.inl ())
      | .error j => throw j) Kernel.endless ()

/-- Runs the whole script; gives its status. -/
def wholeScript : Rec Nat := do
  let script := (← get).script
  let r ← attempt do
    script.begin_.forM run
    if !script.rules.isEmpty || !script.end_.isEmpty then throughRecords
  let r ← match r with
    | .ok _ | .error .exit => attempt (script.end_.forM run)
    | .error j => pure (.error j)
  match r with
  | .error .failed => pure ()
  | _ => pure ()
  closeAll
  pure (← get).status

end HardenAudit.Program.Records.Rec
