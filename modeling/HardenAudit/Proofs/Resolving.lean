import HardenAudit.Proofs.Writing

/-!
# Paths while ordinary files come and go

Where a path leads depends on directories and links.  When ordinary files are made or filled, it leads
where it led before; only a directory that is missing on the way can become one that is no directory,
and so a refusal can become another one.

    fs.Grows fs' → every answer about ways is akin in fs and fs'        (Grows.walk, Grows.writable)
    what stands above a location that was reached is a directory        (Above.walk)
    a way that can be gone to the end can be gone up to its last piece  (walk_concat)
    what is asked of a path is asked of the place that it leads to      (stat_eq)
-/

namespace HardenAudit

/-! ## Answers that hardly differ -/

/-- Two answers are akin if they are equal, or if the second one finds something in the way where the
first one finds nothing. -/
def Akin {α : Type} (x y : Except FileError α) : Prop :=
  y = x ∨ x = .error .notFound ∧ y = .error .notDirectory

namespace Akin

variable {α β : Type} {x y : Except FileError α}

theorem refl (x : Except FileError α) : Akin x x := .inl rfl

theorem bind {f g : α → Except FileError β} (h : Akin x y) (hf : ∀ a, x = .ok a → Akin (f a) (g a)) :
    Akin (x >>= f) (y >>= g) := by
  rcases h with rfl | ⟨rfl, rfl⟩
  · cases y with
    | error e => exact refl _
    | ok a => exact hf a rfl
  · exact .inr ⟨rfl, rfl⟩

theorem ok_iff (h : Akin x y) (a : α) : x = .ok a ↔ y = .ok a := by
  rcases h with rfl | ⟨rfl, rfl⟩
  · rfl
  · constructor <;> intro h <;> cases h

theorem eq_of_ne (h : Akin x y) (hfound : x ≠ .error .notFound) : y = x := by
  rcases h with h | ⟨h, -⟩
  · exact h
  · exact absurd h hfound

theorem toOption_eq (h : Akin x y) : y.toOption = x.toOption := by
  rcases h with rfl | ⟨rfl, rfl⟩
  · rfl
  · rfl

theorem antisymm (h : Akin x y) (h' : Akin y x) : y = x := by
  rcases h with h | ⟨rfl, rfl⟩
  · exact h
  · rcases h' with h' | ⟨h', -⟩
    · cases h'
    · cases h'

end Akin

/-! ## Shapes -/

namespace Node

/-- A node without the content of an ordinary file and without its date: what ways depend on. -/
def shape (n : Node) : Node :=
  { n with matter := if n.isOrdinary then .file [] else n.matter, changed := 0 }

@[simp] theorem isDirectory_shape (n : Node) : n.shape.isDirectory = n.isDirectory := by
  obtain ⟨matter, mode, own, changed⟩ := n
  cases matter <;> rfl

@[simp] theorem isOrdinary_shape (n : Node) : n.shape.isOrdinary = n.isOrdinary := by
  obtain ⟨matter, mode, own, changed⟩ := n
  cases matter <;> rfl

theorem isOrdinary_of_isDirectory (n : Node) (h : n.isDirectory = true) : n.isOrdinary = false := by
  obtain ⟨matter, mode, own, changed⟩ := n
  cases matter <;> first | rfl | cases h

@[simp] theorem grants_shape (n : Node) (r : Right) : n.shape.grants r = n.grants r := rfl

/-- Where a node leads, if it is a link. -/
def link? (n : Node) : Option String :=
  match n.matter with
  | .link target => some target
  | _ => none

@[simp] theorem link?_shape (n : Node) : n.shape.link? = n.link? := by
  obtain ⟨matter, mode, own, changed⟩ := n
  cases matter <;> rfl

end Node

namespace FileSystem

variable {fs fs' : FileSystem}

/-- The shape of the node at a location. -/
def shape? (fs : FileSystem) (loc : Location) : Option Node := (fs.node? loc).map Node.shape

/-- The shape of a file that was made just now. -/
def freshShape : Node := { matter := .file [], mode := fileMode }

/-- From `fs` to `fs'` nothing changed but the contents of ordinary files, their dates, and that some
were made where nothing was and where entries may be made. -/
structure Grows (fs fs' : FileSystem) : Prop where
  here : fs'.here = fs.here
  shape : ∀ l, fs'.shape? l = fs.shape? l ∨ fs.node? l = none ∧ l ≠ fs.here ∧
    fs.requireAccess l = .ok () ∧ fs'.shape? l = some freshShape

theorem shape?_eq_none_iff (fs : FileSystem) (l : Location) : fs.shape? l = none ↔ fs.node? l = none := by
  unfold shape?
  exact Option.map_eq_none_iff

theorem requireDirectory_eq (fs : FileSystem) (l : Location) : fs.requireDirectory l =
    match fs.shape? l with
    | none => if l = fs.here then .ok () else .error .notFound
    | some n =>
      if !n.isDirectory then .error .notDirectory
      else if n.grants .execute then .ok ()
      else .error .permissionDenied := by
  unfold requireDirectory shape?
  cases fs.node? l with
  | none => rfl
  | some n =>
    dsimp only [Option.map]
    rw [n.isDirectory_shape, n.grants_shape]

theorem link?_eq (fs : FileSystem) (l : Location) : fs.link? l = (fs.shape? l).bind Node.link? := by
  unfold link? shape?
  cases fs.node? l with
  | none => rfl
  | some n =>
    show n.link? = n.shape.link?
    rw [n.link?_shape]

theorem requireNoDirectory_eq (fs : FileSystem) (l : Location) : fs.requireNoDirectory l =
    match fs.shape? l with
    | some n => if n.isDirectory then .error .isDirectory else .ok ()
    | none => .ok () := by
  unfold requireNoDirectory shape?
  cases fs.node? l with
  | none => rfl
  | some n => simp

namespace Grows

theorem refl (fs : FileSystem) : Grows fs fs := ⟨rfl, fun _ => .inl rfl⟩

theorem requireDirectory (h : Grows fs fs') (l : Location) :
    Akin (fs.requireDirectory l) (fs'.requireDirectory l) := by
  rw [requireDirectory_eq fs, requireDirectory_eq fs', h.here]
  rcases h.shape l with hsame | ⟨hnone, hhere, -, hfresh⟩
  · rw [hsame]
    exact .refl _
  · rw [hfresh, (shape?_eq_none_iff fs l).mpr hnone]
    dsimp only
    rw [if_neg hhere]
    exact .inr ⟨rfl, rfl⟩

theorem link? (h : Grows fs fs') (l : Location) : fs'.link? l = fs.link? l := by
  rw [link?_eq fs, link?_eq fs']
  rcases h.shape l with hsame | ⟨hnone, -, -, hfresh⟩
  · rw [hsame]
  · rw [hfresh, (shape?_eq_none_iff fs l).mpr hnone]
    rfl

theorem requireNoDirectory (h : Grows fs fs') (l : Location) :
    fs'.requireNoDirectory l = fs.requireNoDirectory l := by
  rw [requireNoDirectory_eq fs, requireNoDirectory_eq fs']
  rcases h.shape l with hsame | ⟨hnone, -, -, hfresh⟩
  · rw [hsame]
  · rw [hfresh, (shape?_eq_none_iff fs l).mpr hnone]
    rfl

/-- What is there keeps its shape. -/
theorem shape?_eq (h : Grows fs fs') {l : Location} {n : Node} (hn : fs.node? l = some n) :
    fs'.shape? l = some n.shape := by
  rcases h.shape l with hsame | ⟨hnone, -⟩
  · rw [hsame]
    unfold FileSystem.shape?
    rw [hn]
    rfl
  · rw [hn] at hnone
    cases hnone

/-! ## Ways -/

theorem step (h : Grows fs fs') (l : Location) (piece : String) :
    Akin (fs.step l piece) (fs'.step l piece) := by
  unfold FileSystem.step
  exact (h.requireDirectory l).bind fun _ _ => .refl _

theorem walkWith (h : Grows fs fs') (through : Bool)
    (follow follow' : Location → List String → Except FileError Location)
    (hf : ∀ l ps, Akin (follow l ps) (follow' l ps)) (ps : List String) : ∀ l,
    Akin (fs.walkWith through follow l ps) (fs'.walkWith through follow' l ps) := by
  induction ps with
  | nil => exact fun l => .refl _
  | cons p rest ih =>
    intro l
    unfold FileSystem.walkWith
    rcases h.step l p with hsame | ⟨hmissing, hobstacle⟩
    · rw [hsame]
      cases fs.step l p with
      | error e => exact .refl _
      | ok next =>
        dsimp only
        rw [h.link? next]
        cases fs.link? next with
        | none => exact ih next
        | some target =>
          dsimp only
          split
          · exact .refl _
          · exact hf _ _
    · rw [hmissing, hobstacle]
      exact .inr ⟨rfl, rfl⟩

theorem walk (h : Grows fs fs') (through : Bool) (links : Nat) : ∀ l ps,
    Akin (fs.walk through links l ps) (fs'.walk through links l ps) := by
  induction links with
  | zero => exact fun l ps => h.walkWith through _ _ (fun _ _ => .refl _) ps l
  | succ n ih => exact fun l ps => h.walkWith through _ _ ih ps l

theorem origin (h : Grows fs fs') (r : Route) : fs'.origin r = fs.origin r := by
  unfold FileSystem.origin
  rw [h.here]

theorem locate (h : Grows fs fs') (r : Route) : Akin (fs.locate r) (fs'.locate r) := by
  unfold FileSystem.locate
  rw [h.origin]
  exact h.walk true linkLimit _ _

theorem target (h : Grows fs fs') (r : Route) : Akin (fs.target r) (fs'.target r) := by
  unfold FileSystem.target
  rw [h.origin]
  dsimp only
  cases (r.pieces.reverse.dropWhile (· == "")).reverse.getLast? with
  | none => exact .refl _
  | some last =>
    exact (h.walk true linkLimit _ _).bind fun parent _ => (h.step parent last).bind fun _ _ => .refl _

theorem writable (h : Grows fs fs') (r : Route) : Akin (fs.writable r) (fs'.writable r) := by
  unfold FileSystem.writable
  refine (h.target r).bind fun t _ => ?_
  cases t with
  | present => exact .refl _
  | entry loc slash =>
    cases slash with
    | true => exact .refl _
    | false =>
      dsimp only
      rw [h.link? loc]
      refine Akin.bind ?_ fun loc _ => ?_
      · split
        · exact h.locate r
        · exact .refl _
      · rw [h.requireNoDirectory loc]
        exact .refl _

end Grows

/-! ## What stands above a location -/

/-- There is a directory at a location. -/
def HoldsDirectory (fs : FileSystem) (loc : Location) : Prop :=
  ∃ n, fs.node? loc = some n ∧ n.isDirectory = true

/-- The working directory is there, in directories up to the root.  So it is in every file system that
is reached (`Reachable.grounded`). -/
def Grounded (fs : FileSystem) : Prop := ∀ l, l <+: fs.here → fs.HoldsDirectory l

/-- Everything above a location is a directory. -/
def Above (fs : FileSystem) (loc : Location) : Prop :=
  ∀ l, l <+: loc → l ≠ loc → fs.HoldsDirectory l

theorem HoldsDirectory.grows (h : Grows fs fs') {l : Location} (hl : fs.HoldsDirectory l) :
    fs'.HoldsDirectory l := by
  obtain ⟨n, hn, hdir⟩ := hl
  have hshape := h.shape?_eq hn
  unfold shape? at hshape
  obtain ⟨m, hm, hsame⟩ := Option.map_eq_some_iff.mp hshape
  refine ⟨m, hm, ?_⟩
  rw [← m.isDirectory_shape, hsame, n.isDirectory_shape]
  exact hdir

/-- A working directory that is the root is there. -/
theorem Grounded.of_here_eq_nil (h : fs.here = []) : fs.Grounded := by
  intro l hl
  rw [h] at hl
  rw [List.prefix_nil.mp hl]
  exact ⟨_, rfl, rfl⟩

theorem Grounded.grows (h : Grows fs fs') (hfs : fs.Grounded) : fs'.Grounded := by
  intro l hl
  rw [h.here] at hl
  exact (hfs l hl).grows h

theorem Grounded.here (h : fs.Grounded) : fs.HoldsDirectory fs.here := h _ List.prefix_rfl

theorem Grounded.holdsDirectory (h : fs.Grounded) {l : Location}
    (hl : fs.requireDirectory l = .ok ()) : fs.HoldsDirectory l := by
  unfold requireDirectory at hl
  split at hl
  · split at hl
    · next hhere => exact hhere ▸ h.here
    · cases hl
  · next n hn =>
    split at hl
    · cases hl
    · next hdir => exact ⟨n, hn, by simpa using hdir⟩

theorem HoldsDirectory.link? {l : Location} (h : fs.HoldsDirectory l) : fs.link? l = none := by
  obtain ⟨n, hn, hdir⟩ := h
  unfold FileSystem.link?
  rw [hn]
  unfold Node.isDirectory at hdir
  cases hm : n.matter <;> simp_all

theorem HoldsDirectory.isSome_node? {l : Location} (h : fs.HoldsDirectory l) :
    (fs.node? l).isSome = true := by
  obtain ⟨n, hn, -⟩ := h
  rw [hn]
  rfl

theorem isSome_node?_of_link? {l : Location} {target : String} (h : fs.link? l = some target) :
    (fs.node? l).isSome = true := by
  unfold FileSystem.link? at h
  cases hn : fs.node? l with
  | none => rw [hn] at h; cases h
  | some n => rfl

theorem link?_of_requireDirectory {l : Location} (h : fs.requireDirectory l = .ok ()) :
    fs.link? l = none := by
  cases hn : fs.node? l with
  | none =>
    unfold FileSystem.link?
    rw [hn]
  | some n =>
    unfold requireDirectory at h
    rw [hn] at h
    dsimp only at h
    split at h
    · cases h
    · next hdir => exact HoldsDirectory.link? ⟨n, hn, by simpa using hdir⟩

/-- A step stays, goes up, or goes down by the piece. -/
theorem step_ok {l r : Location} {piece : String} (h : fs.step l piece = .ok r) :
    fs.requireDirectory l = .ok () ∧
    (Path.isIdle piece.toList = true ∧ r = l ∨
      piece = ".." ∧ r = l.dropLast ∨
      Path.isIdle piece.toList = false ∧ piece ≠ ".." ∧ r = l ++ [piece]) := by
  unfold step at h
  obtain ⟨_, hdir, h⟩ := bind_ok h
  refine ⟨hdir, ?_⟩
  split at h
  · next hidle => cases h; exact .inl ⟨hidle, rfl⟩
  next hidle =>
  split at h
  · next hup => cases h; exact .inr (.inl ⟨hup, rfl⟩)
  next hup =>
  split at h
  · cases h
  · cases h; exact .inr (.inr ⟨by simpa using hidle, hup, rfl⟩)

namespace Above

theorem nil (fs : FileSystem) : fs.Above [] := fun _ hl hne => absurd (List.prefix_nil.mp hl) hne

theorem dropLast {loc : Location} (h : fs.Above loc) (hloc : loc ≠ []) :
    fs.HoldsDirectory loc.dropLast :=
  h _ (List.dropLast_prefix loc) fun hsame => hloc (by
    have := congrArg List.length hsame
    rw [List.length_dropLast] at this
    cases loc with
    | nil => rfl
    | cons x xs => simp at this)

theorem origin (hfs : fs.Grounded) (r : Route) : fs.Above (fs.origin r) := by
  unfold FileSystem.origin
  split
  · exact nil fs
  · exact fun l hl _ => hfs l hl

theorem step (hfs : fs.Grounded) {l r : Location} {piece : String} (h : fs.Above l)
    (hs : fs.step l piece = .ok r) : fs.Above r := by
  obtain ⟨hdir, ⟨-, rfl⟩ | ⟨-, rfl⟩ | ⟨-, -, rfl⟩⟩ := step_ok hs
  · exact h
  · intro k hk hne
    have hlen : k.length ≤ l.dropLast.length := hk.length_le
    refine h k (hk.trans (List.dropLast_prefix l)) fun hsame => hne ?_
    subst hsame
    exact hk.eq_of_length_le (by rw [List.length_dropLast]; omega)
  · intro k hk hne
    rcases List.prefix_concat_iff.mp hk with hk | hk
    · exact absurd hk hne
    · by_cases hkl : k = l
      · exact hkl ▸ hfs.holdsDirectory hdir
      · exact h k hk hkl

theorem walkWith (hfs : fs.Grounded) (through : Bool)
    (follow : Location → List String → Except FileError Location)
    (hf : ∀ l ps r, fs.Above l → follow l ps = .ok r → fs.Above r) (ps : List String) : ∀ l r,
    fs.Above l → fs.walkWith through follow l ps = .ok r → fs.Above r := by
  induction ps with
  | nil =>
    intro l r h hw
    cases hw
    exact h
  | cons p rest ih =>
    intro l r h hw
    unfold FileSystem.walkWith at hw
    cases hs : fs.step l p with
    | error e => rw [hs] at hw; cases hw
    | ok next =>
      rw [hs] at hw
      dsimp only at hw
      cases hl : fs.link? next with
      | none => rw [hl] at hw; exact ih next r (h.step hfs hs) hw
      | some target =>
        rw [hl] at hw
        dsimp only at hw
        split at hw
        · cases hw
          exact h.step hfs hs
        · refine hf _ _ r ?_ hw
          split
          · exact nil fs
          · exact h

/-- Everything above a location that was reached is a directory. -/
theorem walk (hfs : fs.Grounded) (through : Bool) (links : Nat) : ∀ l ps r, fs.Above l →
    fs.walk through links l ps = .ok r → fs.Above r := by
  induction links with
  | zero => exact fun l ps r => walkWith hfs through _ (fun _ _ _ _ hr => by cases hr) ps l r
  | succ n ih => exact fun l ps r => walkWith hfs through _ ih ps l r

theorem locate (hfs : fs.Grounded) {r : Route} {loc : Location} (h : fs.locate r = .ok loc) :
    fs.Above loc := walk hfs true linkLimit _ _ _ (origin hfs r) h

end Above

/-! ## The last piece of a way -/

/-- A way that can be gone to the end can be gone up to its last piece. -/
theorem walkWith_concat (fs : FileSystem)
    (follow : Location → List String → Except FileError Location) (last : String)
    (hf : ∀ l ps r, follow l (ps ++ [last]) = .ok r → ∃ parent, follow l ps = .ok parent ∧
      ∃ next, fs.step parent last = .ok next ∧ (fs.link? next = none → r = next))
    (ps : List String) : ∀ l r, fs.walkWith true follow l (ps ++ [last]) = .ok r →
      ∃ parent, fs.walkWith true follow l ps = .ok parent ∧
        ∃ next, fs.step parent last = .ok next ∧ (fs.link? next = none → r = next) := by
  induction ps with
  | nil =>
    intro l r hw
    refine ⟨l, rfl, ?_⟩
    rw [List.nil_append] at hw
    unfold walkWith at hw
    cases hs : fs.step l last with
    | error e => rw [hs] at hw; cases hw
    | ok next =>
      rw [hs] at hw
      dsimp only at hw
      refine ⟨next, rfl, fun hlink => ?_⟩
      rw [hlink] at hw
      cases hw
      rfl
  | cons p rest ih =>
    intro l r hw
    rw [List.cons_append] at hw
    unfold walkWith at hw ⊢
    cases hs : fs.step l p with
    | error e => rw [hs] at hw; cases hw
    | ok next =>
      rw [hs] at hw
      dsimp only at hw ⊢
      cases hl : fs.link? next with
      | none => rw [hl] at hw; exact ih next r hw
      | some target =>
        rw [hl] at hw
        simp only [Bool.not_true, Bool.and_false, Bool.false_eq_true, if_false] at hw ⊢
        rw [← List.append_assoc] at hw
        exact hf _ _ r hw

theorem walk_concat (fs : FileSystem) (links : Nat) (last : String) : ∀ l ps r,
    fs.walk true links l (ps ++ [last]) = .ok r → ∃ parent, fs.walk true links l ps = .ok parent ∧
      ∃ next, fs.step parent last = .ok next ∧ (fs.link? next = none → r = next) := by
  induction links with
  | zero => exact fun l ps r => walkWith_concat fs _ last (fun _ _ _ h => by cases h) ps l r
  | succ n ih => exact fun l ps r => walkWith_concat fs _ last ih ps l r

/-! ## Places -/

/-- The location that a path leads to, whether or not something stands there. -/
def place (fs : FileSystem) (p : Path) : Except FileError Location := do fs.locate (← p.route)

theorem Leads.place (h : Leads fs fs') (p : Path) (loc : Location) (hp : fs.place p = .ok loc) :
    fs'.place p = .ok loc := by
  unfold FileSystem.place at hp ⊢
  obtain ⟨r, hr, hloc⟩ := bind_ok hp
  rw [hr]
  exact h.locate r loc hloc

theorem Grows.place (h : Grows fs fs') (p : Path) : Akin (fs.place p) (fs'.place p) := by
  unfold FileSystem.place
  exact (Akin.refl p.route).bind fun r _ => h.locate r

theorem stat_eq (fs : FileSystem) (p : Path) : fs.stat p = fs.place p >>= fs.found := by
  unfold stat place
  cases p.route <;> rfl

/-- What stands where a path leads is what it leads to. -/
theorem stat_of_place {p : Path} {l : Location} {n : Node} (hplace : fs.place p = .ok l)
    (hn : fs.node? l = some n) : fs.stat p = .ok n := by
  rw [stat_eq, hplace]
  dsimp only [bind, Except.bind]
  unfold found
  rw [hn]

/-- The node that a path leads to, if there is one. -/
def seen? (fs : FileSystem) (p : Path) : Option Node := (fs.stat p).toOption

theorem seen?_eq (fs : FileSystem) (p : Path) :
    fs.seen? p = (fs.place p).toOption.bind fun l => (fs.found l).toOption := by
  unfold seen?
  rw [stat_eq]
  cases fs.place p <;> rfl

theorem isReadable_eq_any (fs : FileSystem) (p : Path) :
    fs.isReadable p = (fs.seen? p).any fun n => n.isOrdinary && n.grants .read := by
  unfold isReadable seen?
  cases fs.stat p <;> rfl

theorem content?_eq (fs : FileSystem) (p : Path) :
    fs.content? p = (fs.seen? p).bind fun n => match n.matter with
      | .file content => some content
      | _ => none := by
  unfold content? seen?
  cases fs.stat p <;> rfl

theorem isReadable_eq (fs : FileSystem) (p : Path) : fs.isReadable p =
    (fs.place p).toOption.any fun l =>
      (fs.shape? l).any fun n => n.isOrdinary && n.grants .read := by
  unfold isReadable
  rw [stat_eq]
  cases fs.place p with
  | error e => rfl
  | ok l =>
    dsimp only [bind, Except.bind, Except.toOption, Option.any]
    unfold found shape?
    cases hn : fs.node? l with
    | none =>
      -- a working directory that was removed is no file either
      by_cases hhere : l = fs.here
      · simp [hhere, Node.isOrdinary]
      · simp [hhere]
    | some n => simp

theorem isDirectory_eq (fs : FileSystem) (p : Path) : fs.isDirectory p =
    match fs.place p with
    | .ok l => match fs.shape? l with
      | some n => n.isDirectory
      | none => decide (l = fs.here)
    | .error _ => false := by
  unfold isDirectory
  rw [stat_eq]
  cases fs.place p with
  | error e => rfl
  | ok l =>
    dsimp only [bind, Except.bind]
    unfold found shape?
    cases fs.node? l with
    | some n => exact n.isDirectory_shape.symm
    | none =>
      by_cases hhere : l = fs.here
      · simp [hhere, Node.isDirectory]
      · simp [hhere]

theorem HoldsDirectory.of_isDirectory (hfs : fs.Grounded) {p : Path} (hdir : fs.isDirectory p = true) :
    ∃ l, fs.place p = .ok l ∧ fs.HoldsDirectory l := by
  rw [isDirectory_eq] at hdir
  cases hl : fs.place p with
  | error e => rw [hl] at hdir; cases hdir
  | ok l =>
    refine ⟨l, rfl, ?_⟩
    rw [hl] at hdir
    dsimp only at hdir
    cases hn : fs.node? l with
    | none =>
      rw [(shape?_eq_none_iff fs l).mpr hn] at hdir
      rw [of_decide_eq_true hdir]
      exact hfs.here
    | some n =>
      unfold shape? at hdir
      rw [hn] at hdir
      exact ⟨n, hn, n.isDirectory_shape ▸ hdir⟩

/-- A directory stays one while files are written. -/
theorem Grows.isDirectory (h : Grows fs fs') {p : Path} (hdir : fs.isDirectory p = true) :
    fs'.isDirectory p = true := by
  rw [isDirectory_eq] at hdir ⊢
  cases hl : fs.place p with
  | error e =>
    rw [hl] at hdir
    cases hdir
  | ok l =>
    rw [hl] at hdir
    rw [((h.place p).ok_iff l).mp hl]
    dsimp only at hdir ⊢
    rcases h.shape l with hsame | ⟨hnone, hhere, -⟩
    · rw [hsame, h.here]
      exact hdir
    · rw [(shape?_eq_none_iff fs l).mpr hnone] at hdir
      exact absurd (of_decide_eq_true hdir) hhere

end FileSystem
end HardenAudit
