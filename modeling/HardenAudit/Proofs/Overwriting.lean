import HardenAudit.Proofs.Resolving

/-!
# Writing one file after the other

A write that is accepted lands at a location, and what it changes is one cell: the node that this
location has of its own, or the one that it shares.  Where a write lands depends on ways and rights,
which writes keep.  So writes can be reordered and repeated like assignments to variables.

    a write is a refusal, or it fills the cell where it lands              (write_eq)
    where a write lands stays the same after other writes                  (Extends.lands?)
    of two writes into one cell the second one counts                      (fill_fill)
    writes into different cells may change places                          (fill_comm)
    writing the same files again in the same order changes nothing         (overwriteAll_again)
-/

namespace HardenAudit

namespace FileSystem

open Text (Bytes)

variable {fs fs' : FileSystem}

/-! ## Cells -/

/-- What holds the node at a location: the location itself, or a number that it shares. -/
inductive Cell where
  | own (loc : Location)
  | common (number : Nat)
  deriving DecidableEq

/-- The cell that a location stands for. -/
def cell (fs : FileSystem) (loc : Location) : Cell :=
  match fs.entries.find? loc with
  | some (.shared number) => if (fs.shared.find? number).isSome then .common number else .own loc
  | _ => .own loc

/-- The node in a cell. -/
def nodeIn? (fs : FileSystem) : Cell → Option Node
  | .own loc => match fs.entries.find? loc with
    | some (.sole n) => some n
    | _ => none
  | .common number => fs.shared.find? number

/-- The file system with another node in a cell. -/
def setIn (fs : FileSystem) (n : Node) : Cell → FileSystem
  | .own loc => fs.put loc n
  | .common number => { fs with shared := fs.shared.insert number n }

theorem node?_eq_nodeIn? (fs : FileSystem) {loc : Location} (hloc : loc ≠ []) :
    fs.node? loc = fs.nodeIn? (fs.cell loc) := by
  unfold node? cell
  rw [if_neg hloc]
  cases he : fs.entries.find? loc with
  | none => simp only [nodeIn?, he]
  | some e =>
    cases e with
    | sole n => simp only [nodeIn?, he]
    | shared k =>
      dsimp only
      cases hk : fs.shared.find? k with
      | none => simp [nodeIn?, he]
      | some n => simp [nodeIn?, hk]

theorem nodeIn?_setIn (fs : FileSystem) (n : Node) (c c' : Cell) :
    (fs.setIn n c).nodeIn? c' = if c' = c then some n else fs.nodeIn? c' := by
  cases c with
  | own loc =>
    cases c' with
    | own loc' =>
      by_cases h : loc' = loc
      · subst h
        simp [setIn, put, nodeIn?, SortedMap.find?_insert]
      · simp [setIn, put, nodeIn?, SortedMap.find?_insert, h]
    | common k => simp [setIn, put, nodeIn?]
  | common k =>
    cases c' with
    | own loc' => simp [setIn, nodeIn?]
    | common k' => simp [setIn, nodeIn?, SortedMap.find?_insert]

/-- A cell is common only if there is a node in it. -/
theorem cell_cases (fs : FileSystem) (loc : Location) : fs.cell loc = .own loc ∨
    ∃ k n, fs.cell loc = .common k ∧ fs.entries.find? loc = some (.shared k) ∧
      fs.shared.find? k = some n := by
  unfold cell
  split
  · next k he =>
    cases hk : fs.shared.find? k with
    | none => exact .inl rfl
    | some n => exact .inr ⟨k, n, rfl, he, hk⟩
  · exact .inl rfl

/-- Locations stand for the same cells whatever is put into one. -/
theorem cell_setIn (fs : FileSystem) (n : Node) (loc l : Location) :
    (fs.setIn n (fs.cell loc)).cell l = fs.cell l := by
  rcases fs.cell_cases loc with hc | ⟨k, m, hc, -, hm⟩
  · by_cases hl : l = loc
    · subst hl
      rw [hc]
      unfold setIn put cell
      dsimp only
      rw [SortedMap.find?_insert, if_pos rfl]
    · rw [hc]
      unfold setIn put cell
      dsimp only
      rw [SortedMap.find?_insert, if_neg hl]
  · rw [hc]
    unfold setIn cell
    dsimp only
    cases fs.entries.find? l with
    | none => rfl
    | some e =>
      cases e with
      | sole _ => rfl
      | shared k' =>
        dsimp only
        rw [SortedMap.find?_insert]
        by_cases hk : k' = k
        · subst hk
          rw [if_pos rfl, hm]
          rfl
        · rw [if_neg hk]

theorem setIn_setIn (fs : FileSystem) (m n : Node) (c : Cell) :
    (fs.setIn m c).setIn n c = fs.setIn n c := by
  cases c <;> simp [setIn, put, SortedMap.insert_insert]

theorem setIn_comm (fs : FileSystem) (m n : Node) {c c' : Cell} (h : c ≠ c') :
    (fs.setIn m c).setIn n c' = (fs.setIn n c').setIn m c := by
  cases c with
  | own loc =>
    cases c' with
    | own loc' =>
      have hloc : loc ≠ loc' := fun e => h (by rw [e])
      simp [setIn, put, SortedMap.insert_comm _ hloc]
    | common k => rfl
  | common k =>
    cases c' with
    | own loc' => rfl
    | common k' =>
      have hk : k ≠ k' := fun e => h (by rw [e])
      simp [setIn, SortedMap.insert_comm _ hk]

/-! ## Filling a cell -/

/-- What a write makes of what is in a cell: a new file where nothing is, a file with a new content,
and anything else stays. -/
def rewritten (content : Bytes) (time : Nat) : Option Node → Node
  | none => { matter := .file content, mode := fileMode, changed := time }
  | some n => if n.isOrdinary then { n with matter := .file content, changed := time } else n

/-- The file system with a content written into a cell. -/
def fill (fs : FileSystem) (content : Bytes) (c : Cell) : FileSystem :=
  fs.setIn (rewritten content fs.time (fs.nodeIn? c)) c

theorem time_setIn (fs : FileSystem) (n : Node) (c : Cell) : (fs.setIn n c).time = fs.time := by
  cases c <;> rfl

theorem here_setIn (fs : FileSystem) (n : Node) (c : Cell) : (fs.setIn n c).here = fs.here := by
  cases c <;> rfl

theorem rewritten_rewritten (first second : Bytes) (time : Nat) (x : Option Node) :
    rewritten second time (some (rewritten first time x)) = rewritten second time x := by
  cases x with
  | none => rfl
  | some n =>
    unfold rewritten
    dsimp only
    by_cases h : n.isOrdinary = true
    · have hnew : Node.isOrdinary { n with matter := .file first, changed := time } = true := rfl
      rw [if_pos h, if_pos hnew, if_pos h]
    · rw [if_neg h, if_neg h]

theorem fill_fill (fs : FileSystem) (first second : Bytes) (c : Cell) :
    (fs.fill first c).fill second c = fs.fill second c := by
  unfold fill
  rw [nodeIn?_setIn, if_pos rfl, time_setIn, rewritten_rewritten, setIn_setIn]

theorem fill_comm (fs : FileSystem) (x y : Bytes) {c c' : Cell} (h : c ≠ c') :
    (fs.fill x c).fill y c' = (fs.fill y c').fill x c := by
  unfold fill
  rw [nodeIn?_setIn, if_neg (Ne.symm h), time_setIn, nodeIn?_setIn, if_neg h, time_setIn,
    setIn_comm fs _ _ h]

theorem node?_fill (fs : FileSystem) (content : Bytes) (loc : Location) {l : Location} (hl : l ≠ []) :
    (fs.fill content (fs.cell loc)).node? l = if fs.cell l = fs.cell loc then
      some (rewritten content fs.time (fs.nodeIn? (fs.cell loc))) else fs.node? l := by
  unfold fill
  rw [node?_eq_nodeIn? _ hl, cell_setIn, nodeIn?_setIn, node?_eq_nodeIn? fs hl]

theorem shape_rewritten (content : Bytes) (time : Nat) (n : Node) :
    (rewritten content time (some n)).shape = n.shape := by
  unfold rewritten
  dsimp only
  split
  · next h =>
    have hnew : Node.isOrdinary { n with matter := .file content, changed := time } = true := rfl
    unfold Node.shape
    rw [if_pos h, if_pos hnew]
  · rfl

/-! ## Where a write lands -/

/-- Succeeds if a content may be written at a location that was opened for writing. -/
def allow (fs : FileSystem) (loc : Location) (content : Bytes) : Except FileError Unit :=
  match fs.node? loc with
  | none => fs.requireAccess loc
  | some n =>
    if n.grants .write then
      if n.isOrdinary = false ∧ loc = ["dev", "full"] ∧ content ≠ [] then .error .noSpace else .ok ()
    else .error .permissionDenied

/-- The location where a write lands, unless it is refused. -/
def landing (fs : FileSystem) (p : Path) (content : Bytes) : Except FileError Location := do
  let loc ← fs.writable (← p.route)
  fs.allow loc content
  .ok loc

theorem writable_ne_nil {r : Route} {loc : Location} (h : fs.writable r = .ok loc) : loc ≠ [] := by
  intro hnil
  have hroot := (writable_ok fs r loc h).2 _ (by unfold node?; rw [if_pos hnil])
  simp [Node.isDirectory] at hroot

theorem landing_ok {p : Path} {content : Bytes} {loc : Location}
    (h : fs.landing p content = .ok loc) :
    ∃ r, p.route = .ok r ∧ fs.writable r = .ok loc ∧ fs.allow loc content = .ok () := by
  unfold landing at h
  obtain ⟨r, hr, h⟩ := bind_ok h
  obtain ⟨loc', hloc, h⟩ := bind_ok h
  obtain ⟨_, hallow, h⟩ := bind_ok h
  cases h
  exact ⟨r, hr, hloc, hallow⟩

theorem cell_eq_own {loc : Location} (hloc : loc ≠ []) (hnone : fs.node? loc = none) :
    fs.cell loc = .own loc := by
  rcases fs.cell_cases loc with hc | ⟨k, n, hc, -, hn⟩
  · exact hc
  · rw [node?_eq_nodeIn? fs hloc, hc] at hnone
    unfold nodeIn? at hnone
    dsimp only at hnone
    rw [hn] at hnone
    cases hnone

theorem update_eq_setIn {loc : Location} {old : Node} (hloc : loc ≠ [])
    (hold : fs.node? loc = some old) (n : Node) : fs.update loc n = fs.setIn n (fs.cell loc) := by
  unfold node? at hold
  rw [if_neg hloc] at hold
  unfold update cell
  cases he : fs.entries.find? loc with
  | none => rw [he] at hold; cases hold
  | some e =>
    rw [he] at hold
    cases e with
    | sole m => rfl
    | shared k =>
      dsimp only at hold ⊢
      rw [hold]
      rfl

theorem filled_eq (n : Node) (loc : Location) (content : Bytes) (time : Nat) :
    n.filled loc content time =
      if n.isOrdinary = false ∧ loc = ["dev", "full"] ∧ content ≠ [] then .error .noSpace
      else .ok (rewritten content time (some n)) := by
  obtain ⟨matter, mode, own, changed⟩ := n
  cases matter <;> simp [Node.filled, rewritten, Node.isOrdinary]

/-- A write is refused, or it fills the cell where it lands. -/
theorem write_eq (fs : FileSystem) (p : Path) (content : Bytes) : fs.write p content =
    (fs.landing p content).map fun loc => fs.fill content (fs.cell loc) := by
  unfold write landing
  cases p.route with
  | error e => rfl
  | ok r =>
    cases hw : fs.writable r with
    | error e => simp [bind, Except.bind, hw, Except.map]
    | ok loc =>
      have hloc := writable_ne_nil hw
      simp only [bind, Except.bind, hw]
      unfold allow fill
      cases hn : fs.node? loc with
      | none =>
        have hcell := cell_eq_own hloc hn
        rw [node?_eq_nodeIn? fs hloc, hcell] at hn
        dsimp only
        unfold create
        cases fs.requireAccess loc with
        | error e => rfl
        | ok =>
          simp only [bind, Except.bind, Except.map]
          rw [hcell, hn]
          rfl
      | some n =>
        have hnode := hn
        rw [node?_eq_nodeIn? fs hloc] at hnode
        dsimp only
        rw [filled_eq]
        split
        · by_cases hfull : n.isOrdinary = false ∧ loc = ["dev", "full"] ∧ content ≠ []
          · rw [if_pos hfull, if_pos hfull]
            rfl
          · rw [if_neg hfull, if_neg hfull]
            simp only [Except.map]
            rw [update_eq_setIn hloc hn, hnode]
        · rfl

/-- The cell where a write lands, unless it is refused. -/
def lands? (fs : FileSystem) (p : Path) (content : Bytes) : Option Cell :=
  match fs.landing p content with
  | .ok loc => some (fs.cell loc)
  | .error _ => none

/-- The file system after a write, whether or not it was refused. -/
def overwritten (fs : FileSystem) (p : Path) (content : Bytes) : FileSystem :=
  match fs.write p content with
  | .ok fs' => fs'
  | .error _ => fs

theorem overwritten_eq (fs : FileSystem) (p : Path) (content : Bytes) :
    fs.overwritten p content = match fs.lands? p content with
      | some c => fs.fill content c
      | none => fs := by
  unfold overwritten lands?
  rw [write_eq]
  cases fs.landing p content <;> rfl

theorem cell_overwritten (fs : FileSystem) (p : Path) (content : Bytes) (l : Location) :
    (fs.overwritten p content).cell l = fs.cell l := by
  rw [overwritten_eq]
  unfold lands?
  cases fs.landing p content with
  | error e => rfl
  | ok loc => exact cell_setIn fs _ loc l

/-! ## What a write keeps -/

theorem requireAccess_eq (fs : FileSystem) (l : Location) : fs.requireAccess l =
    match fs.shape? l.dropLast with
    | none => .error .notFound
    | some n => if n.grants .write && n.grants .execute then .ok () else .error .permissionDenied := by
  unfold requireAccess shape?
  cases fs.node? l.dropLast <;> rfl

namespace Grows

/-- No entry is made in an ordinary file that was made just now. -/
theorem requireAccess_ok (h : Grows fs fs') {l : Location} (hl : fs'.requireAccess l = .ok ()) :
    fs.requireAccess l = .ok () := by
  rw [requireAccess_eq] at hl ⊢
  rcases h.shape l.dropLast with hsame | ⟨-, -, -, hfresh⟩
  · rwa [hsame] at hl
  · rw [hfresh] at hl
    cases hl

theorem requireAccess (h : Grows fs fs') {l : Location} (hl : fs.HoldsDirectory l.dropLast) :
    fs'.requireAccess l = fs.requireAccess l := by
  obtain ⟨n, hn, -⟩ := hl
  rw [requireAccess_eq, requireAccess_eq, h.shape?_eq hn]
  unfold FileSystem.shape?
  rw [hn]
  rfl

theorem trans {fs'' : FileSystem} (h : Grows fs fs') (h' : Grows fs' fs'') : Grows fs fs'' where
  here := by rw [h'.here, h.here]
  shape l := by
    rcases h'.shape l with hsame' | ⟨hnone', hhere', haccess', hfresh'⟩
    · rw [hsame']
      exact h.shape l
    · rw [← shape?_eq_none_iff] at hnone'
      rcases h.shape l with hsame | ⟨-, -, -, hfresh⟩
      · refine .inr ⟨?_, h.here ▸ hhere', h.requireAccess_ok haccess', hfresh'⟩
        rw [← shape?_eq_none_iff, ← hsame, hnone']
      · rw [hfresh] at hnone'
        cases hnone'

/-- A content may be written at the locations where it could be written before. -/
theorem allow (h : Grows fs fs') (hfs : fs.Grounded) {r : Route} {loc : Location}
    (hw : fs.writable r = .ok loc) (content : Bytes) :
    fs'.allow loc content = fs.allow loc content := by
  have hloc := writable_ne_nil hw
  have hparent := (Above.locate hfs (locate_of_writable fs r loc hw)).dropLast hloc
  unfold FileSystem.allow
  cases hn : fs.node? loc with
  | none =>
    rcases h.shape loc with hsame | ⟨-, -, haccess, hfresh⟩
    · have hnone' : fs'.node? loc = none := by
        rw [← shape?_eq_none_iff, hsame, shape?_eq_none_iff, hn]
      rw [hnone']
      exact h.requireAccess hparent
    · -- a file that was made just now may be written
      unfold FileSystem.shape? at hfresh
      obtain ⟨m, hm, hshape⟩ := Option.map_eq_some_iff.mp hfresh
      have hgrants : m.grants .write = true := by
        rw [← m.grants_shape, hshape]
        rfl
      have hordinary : m.isOrdinary = true := by
        rw [← m.isOrdinary_shape, hshape]
        rfl
      rw [hm]
      simp [hgrants, hordinary, haccess]
  | some n =>
    have hshape := h.shape?_eq hn
    unfold FileSystem.shape? at hshape
    obtain ⟨m, hm, hshape⟩ := Option.map_eq_some_iff.mp hshape
    rw [hm]
    dsimp only
    rw [← m.grants_shape, ← m.isOrdinary_shape, hshape, n.grants_shape, n.isOrdinary_shape]

theorem landing (h : Grows fs fs') (hfs : fs.Grounded) (p : Path) (content : Bytes) :
    Akin (fs.landing p content) (fs'.landing p content) := by
  unfold FileSystem.landing
  refine (Akin.refl p.route).bind fun r _ => (h.writable r).bind fun loc hw => ?_
  rw [h.allow hfs hw]
  exact .refl _

end Grows

/-- Where something was, filling a cell keeps the shapes of all that is in it. -/
theorem shape?_fill (content : Bytes) {loc l : Location} {n : Node} (hloc : loc ≠ []) (hl : l ≠ [])
    (hn : fs.node? loc = some n) : (fs.fill content (fs.cell loc)).shape? l = fs.shape? l := by
  unfold shape?
  rw [node?_fill fs content loc hl]
  by_cases hc : fs.cell l = fs.cell loc
  · rw [if_pos hc, node?_eq_nodeIn? fs hl, hc, ← node?_eq_nodeIn? fs hloc, hn]
    exact congrArg some (shape_rewritten content fs.time n)
  · rw [if_neg hc]

/-- Where nothing was, filling a cell makes a file at one location only. -/
theorem shape?_fill_fresh (content : Bytes) {loc l : Location} (hloc : loc ≠ []) (hl : l ≠ [])
    (hnone : fs.node? loc = none) : (fs.fill content (fs.cell loc)).shape? l =
      if l = loc then some freshShape else fs.shape? l := by
  have hcell := cell_eq_own hloc hnone
  unfold shape?
  rw [node?_fill fs content loc hl]
  by_cases hsame : l = loc
  · subst hsame
    rw [if_pos rfl, if_pos rfl, ← node?_eq_nodeIn? fs hl, hnone]
    rfl
  · rw [if_neg hsame, if_neg fun hc => hsame ?_]
    rcases fs.cell_cases l with hown | ⟨k, -, hcommon, -⟩
    · rw [hown, hcell] at hc
      exact Cell.own.inj hc
    · rw [hcommon, hcell] at hc
      cases hc

/-- A write only makes or fills an ordinary file. -/
theorem grows_fill (hfs : fs.Grounded) {p : Path} {content : Bytes} {loc : Location}
    (h : fs.landing p content = .ok loc) : Grows fs (fs.fill content (fs.cell loc)) where
  here := here_setIn fs _ _
  shape l := by
    obtain ⟨r, -, hw, hallow⟩ := landing_ok h
    have hloc := writable_ne_nil hw
    by_cases hl : l = []
    · left
      unfold shape? node?
      rw [if_pos hl, if_pos hl]
    cases hn : fs.node? loc with
    | some n => exact .inl (shape?_fill content hloc hl hn)
    | none =>
      rw [shape?_fill_fresh content hloc hl hn]
      by_cases hsame : l = loc
      · subst hsame
        rw [if_pos rfl]
        refine .inr ⟨hn, ?_, ?_, rfl⟩
        · rintro rfl
          obtain ⟨n, hhere, -⟩ := hfs.here
          rw [hn] at hhere
          cases hhere
        · unfold FileSystem.allow at hallow
          rwa [hn] at hallow
      · rw [if_neg hsame]
        exact .inl rfl

theorem grows_overwritten (hfs : fs.Grounded) (p : Path) (content : Bytes) :
    Grows fs (fs.overwritten p content) := by
  rw [overwritten_eq]
  unfold lands?
  cases h : fs.landing p content with
  | error e => exact .refl fs
  | ok loc => exact grows_fill hfs h

/-- Between two file systems nothing but ordinary files changed, and locations share what they shared. -/
structure Extends (fs fs' : FileSystem) : Prop where
  grows : Grows fs fs'
  cell : ∀ l, fs'.cell l = fs.cell l

namespace Extends

theorem refl (fs : FileSystem) : Extends fs fs := ⟨.refl fs, fun _ => rfl⟩

theorem trans {fs'' : FileSystem} (h : Extends fs fs') (h' : Extends fs' fs'') : Extends fs fs'' :=
  ⟨h.grows.trans h'.grows, fun l => by rw [h'.cell, h.cell]⟩

/-- A write lands where it landed before. -/
theorem lands? (h : Extends fs fs') (hfs : fs.Grounded) (p : Path) (content : Bytes) :
    fs'.lands? p content = fs.lands? p content := by
  have hakin := h.grows.landing hfs p content
  unfold FileSystem.lands?
  cases hl : fs.landing p content with
  | ok loc =>
    rw [(hakin.ok_iff loc).mp hl]
    exact congrArg some (h.cell loc)
  | error e =>
    cases hl' : fs'.landing p content with
    | error e' => rfl
    | ok loc =>
      rw [(hakin.ok_iff loc).mpr hl'] at hl
      cases hl

end Extends

theorem extends_overwritten (hfs : fs.Grounded) (p : Path) (content : Bytes) :
    Extends fs (fs.overwritten p content) :=
  ⟨grows_overwritten hfs p content, cell_overwritten fs p content⟩

/-! ## Other files stay as they are -/

/-- Two paths lead to one file, or to the place where one would be. -/
def SameFile (fs : FileSystem) (p q : Path) : Prop :=
  ∃ l m, fs.place p = .ok l ∧ fs.place q = .ok m ∧ fs.cell l = fs.cell m

theorem sameFile_iff (fs : FileSystem) (p q : Path) : fs.SameFile p q ↔
    (match fs.place p, fs.place q with
      | .ok l, .ok m => decide (fs.cell l = fs.cell m)
      | _, _ => false) = true := by
  unfold SameFile
  cases fs.place p <;> cases fs.place q <;> simp

instance (fs : FileSystem) (p q : Path) : Decidable (fs.SameFile p q) :=
  decidable_of_iff _ (sameFile_iff fs p q).symm

theorem place_of_landing {p : Path} {content : Bytes} {loc : Location}
    (h : fs.landing p content = .ok loc) : fs.place p = .ok loc := by
  obtain ⟨r, hr, hw, -⟩ := landing_ok h
  unfold place
  rw [hr]
  exact locate_of_writable fs r loc hw

theorem Extends.sameFile_iff (h : Extends fs fs') (p q : Path) :
    fs'.SameFile p q ↔ fs.SameFile p q := by
  unfold SameFile
  simp only [(h.grows.place p).ok_iff, (h.grows.place q).ok_iff, h.cell]

theorem sameFile_of_lands {p q : Path} {x y : Bytes} {c : Cell} (hp : fs.lands? p x = some c)
    (hq : fs.lands? q y = some c) : fs.SameFile p q := by
  unfold lands? at hp hq
  cases hl : fs.landing p x with
  | error e => rw [hl] at hp; cases hp
  | ok l =>
    cases hm : fs.landing q y with
    | error e => rw [hm] at hq; cases hq
    | ok m =>
      rw [hl] at hp
      rw [hm] at hq
      exact ⟨l, m, place_of_landing hl, place_of_landing hm, Option.some.inj (hp.trans hq.symm)⟩

/-- What a path leads to stays as it is while another file is written. -/
theorem seen?_overwritten (hfs : fs.Grounded) {p q : Path} (hother : ¬ fs.SameFile p q)
    (content : Bytes) : (fs.overwritten q content).seen? p = fs.seen? p := by
  have hgrows := grows_overwritten hfs q content
  rw [seen?_eq, seen?_eq, (hgrows.place p).toOption_eq]
  cases hl : fs.place p with
  | error e => dsimp only [Except.toOption, Option.bind]
  | ok l =>
    have hnode : (fs.overwritten q content).node? l = fs.node? l := by
      by_cases hroot : l = []
      · unfold node?
        rw [if_pos hroot, if_pos hroot]
      rw [overwritten_eq]
      unfold lands?
      cases hq : fs.landing q content with
      | error e => rfl
      | ok m =>
        have hne : fs.cell l ≠ fs.cell m := fun h => hother ⟨l, m, hl, place_of_landing hq, h⟩
        dsimp only
        rw [node?_fill fs content m hroot, if_neg hne]
    dsimp only [Except.toOption, Option.bind]
    unfold found
    rw [hnode, hgrows.here]

/-- What can be read can still be read after another file was written, and nothing else can. -/
theorem isReadable_overwritten (hfs : fs.Grounded) {p q : Path} (hother : ¬ fs.SameFile p q)
    (content : Bytes) : (fs.overwritten q content).isReadable p = fs.isReadable p := by
  rw [isReadable_eq_any, isReadable_eq_any, seen?_overwritten hfs hother]

/-! ## Several writes -/

/-- The file system after some writes, whether or not they were refused. -/
def overwriteAll (fs : FileSystem) (writes : List (Path × Bytes)) : FileSystem :=
  writes.foldl (fun fs x => fs.overwritten x.1 x.2) fs

theorem overwriteAll_nil (fs : FileSystem) : fs.overwriteAll [] = fs := by
  unfold overwriteAll
  rw [List.foldl_nil]

theorem overwriteAll_cons (fs : FileSystem) (x : Path × Bytes) (rest : List (Path × Bytes)) :
    fs.overwriteAll (x :: rest) = (fs.overwritten x.1 x.2).overwriteAll rest := by
  unfold overwriteAll
  rw [List.foldl_cons]

theorem overwriteAll_append (fs : FileSystem) (writes more : List (Path × Bytes)) :
    fs.overwriteAll (writes ++ more) = (fs.overwriteAll writes).overwriteAll more := by
  unfold overwriteAll
  rw [List.foldl_append]

/-- The file system with some cells filled one after the other. -/
def fillAll (fs : FileSystem) (fills : List (Cell × Bytes)) : FileSystem :=
  fills.foldl (fun fs x => fs.fill x.2 x.1) fs

/-- The cells that some writes fill. -/
def plan (fs : FileSystem) (writes : List (Path × Bytes)) : List (Cell × Bytes) :=
  writes.filterMap fun x => (fs.lands? x.1 x.2).map fun c => (c, x.2)

theorem extends_overwriteAll (writes : List (Path × Bytes)) : ∀ {fs : FileSystem}, fs.Grounded →
    Extends fs (fs.overwriteAll writes) := by
  induction writes with
  | nil =>
    intro fs _
    rw [overwriteAll_nil]
    exact .refl fs
  | cons x rest ih =>
    intro fs hfs
    have hfirst := extends_overwritten hfs x.1 x.2
    rw [overwriteAll_cons]
    exact hfirst.trans (ih (hfs.grows hfirst.grows))

theorem isReadable_overwriteAll {p : Path} (writes : List (Path × Bytes)) : ∀ {fs : FileSystem},
    fs.Grounded → (∀ x ∈ writes, ¬ fs.SameFile p x.1) →
      (fs.overwriteAll writes).isReadable p = fs.isReadable p := by
  induction writes with
  | nil => exact fun _ _ => rfl
  | cons x rest ih =>
    intro fs hfs h
    obtain ⟨hx, hrest⟩ := List.forall_mem_cons.mp h
    have hfirst := extends_overwritten hfs x.1 x.2
    rw [overwriteAll_cons, ih (hfs.grows hfirst.grows), isReadable_overwritten hfs hx]
    exact fun y hy hsame => hrest y hy ((hfirst.sameFile_iff p y.1).mp hsame)

/-- Writes fill the cells that can be planned for them beforehand. -/
theorem overwriteAll_eq (writes : List (Path × Bytes)) : ∀ {fs' : FileSystem}, fs.Grounded →
    Extends fs fs' → fs'.overwriteAll writes = fs'.fillAll (fs.plan writes) := by
  induction writes with
  | nil => exact fun _ _ => rfl
  | cons x rest ih =>
    intro fs' hfs h
    have hnext := h.trans (extends_overwritten (hfs.grows h.grows) x.1 x.2)
    have hrest := ih hfs hnext
    rw [overwriteAll_cons, hrest, overwritten_eq, h.lands? hfs]
    unfold plan
    rw [List.filterMap_cons]
    cases fs.lands? x.1 x.2 <;> rfl

/-- A cell that is filled anyway may be filled with anything before. -/
theorem fillAll_fill (content : Bytes) (c : Cell) (fills : List (Cell × Bytes)) : ∀ fs : FileSystem,
    c ∈ fills.map (·.1) → (fs.fill content c).fillAll fills = fs.fillAll fills := by
  induction fills with
  | nil => exact fun _ h => absurd h List.not_mem_nil
  | cons x rest ih =>
    intro fs hc
    show ((fs.fill content c).fill x.2 x.1).fillAll rest = (fs.fill x.2 x.1).fillAll rest
    by_cases hsame : c = x.1
    · rw [hsame, fill_fill]
    · rw [fill_comm fs _ _ hsame]
      exact ih _ ((List.mem_cons.mp hc).resolve_left hsame)

/-- Cells that are filled anyway may be filled with anything before. -/
theorem fillAll_fillAll (fills : List (Cell × Bytes)) (before : List (Cell × Bytes)) :
    ∀ fs : FileSystem, (∀ x ∈ before, x.1 ∈ fills.map (·.1)) →
      (fs.fillAll before).fillAll fills = fs.fillAll fills := by
  induction before with
  | nil => exact fun _ _ => rfl
  | cons x rest ih =>
    intro fs h
    obtain ⟨hx, hrest⟩ := List.forall_mem_cons.mp h
    show ((fs.fill x.2 x.1).fillAll rest).fillAll fills = _
    rw [ih _ hrest, fillAll_fill _ _ _ _ hx]

theorem fill_fillAll (content : Bytes) (c : Cell) (fills : List (Cell × Bytes)) : ∀ fs : FileSystem,
    (∀ x ∈ fills, x.1 ≠ c) → (fs.fill content c).fillAll fills = (fs.fillAll fills).fill content c := by
  induction fills with
  | nil => exact fun _ _ => rfl
  | cons x rest ih =>
    intro fs h
    obtain ⟨hx, hrest⟩ := List.forall_mem_cons.mp h
    show ((fs.fill content c).fill x.2 x.1).fillAll rest = ((fs.fill x.2 x.1).fillAll rest).fill _ _
    rw [fill_comm fs _ _ (Ne.symm hx), ih _ hrest]

/-- Fillings of different cells may change places. -/
theorem fillAll_comm (fills : List (Cell × Bytes)) (others : List (Cell × Bytes)) :
    ∀ fs : FileSystem, (∀ x ∈ fills, ∀ y ∈ others, x.1 ≠ y.1) →
      (fs.fillAll fills).fillAll others = (fs.fillAll others).fillAll fills := by
  induction others with
  | nil => exact fun _ _ => rfl
  | cons y rest ih =>
    intro fs h
    show ((fs.fillAll fills).fill y.2 y.1).fillAll rest = ((fs.fill y.2 y.1).fillAll rest).fillAll fills
    rw [← fill_fillAll y.2 y.1 fills fs fun x hx => h x hx y List.mem_cons_self,
      ih _ fun x hx z hz => h x hx z (List.mem_cons_of_mem _ hz)]

/-- **Writing the same files again changes nothing.** -/
theorem overwriteAll_again (hfs : fs.Grounded) (writes : List (Path × Bytes)) :
    (fs.overwriteAll writes).overwriteAll writes = fs.overwriteAll writes := by
  rw [overwriteAll_eq writes hfs (extends_overwriteAll writes hfs),
    overwriteAll_eq writes hfs (.refl fs)]
  exact fillAll_fillAll _ _ _ fun x hx => List.mem_map_of_mem hx

/-- **Groups of writes may be reordered** if writes of different groups never land in one cell. -/
theorem overwriteAll_perm {α : Type} (hfs : fs.Grounded) (writes : α → List (Path × Bytes))
    {l l' : List α} (hperm : l.Perm l')
    (hapart : ∀ x ∈ l, ∀ y ∈ l, x ≠ y → ∀ p ∈ writes x, ∀ q ∈ writes y, ¬ fs.SameFile p.1 q.1) :
    fs.overwriteAll (l.flatMap writes) = fs.overwriteAll (l'.flatMap writes) := by
  have hfold : ∀ l : List α, fs.overwriteAll (l.flatMap writes) =
      l.foldl (fun fs' x => fs'.fillAll (fs.plan (writes x))) fs := by
    intro l
    rw [overwriteAll_eq _ hfs (.refl fs)]
    unfold plan fillAll
    rw [List.filterMap_flatMap, List.foldl_flatMap]
  rw [hfold, hfold]
  refine hperm.foldl_eq' (fun x hx y hy fs' => ?_) fs
  by_cases hxy : x = y
  · rw [hxy]
  · refine fillAll_comm _ _ fs' fun c hc d hd hsame => ?_
    unfold plan at hc hd
    obtain ⟨p, hp, hpc⟩ := List.mem_filterMap.mp hc
    obtain ⟨q, hq, hqd⟩ := List.mem_filterMap.mp hd
    obtain ⟨c', hlandp, rfl⟩ := Option.map_eq_some_iff.mp hpc
    obtain ⟨d', hlandq, rfl⟩ := Option.map_eq_some_iff.mp hqd
    dsimp only at hsame
    subst hsame
    exact hapart x hx y hy hxy p hp q hq (sameFile_of_lands hlandp hlandq)

end FileSystem
end HardenAudit
