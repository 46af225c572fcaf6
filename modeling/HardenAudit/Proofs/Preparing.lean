import HardenAudit.FileSystem.Tree
import HardenAudit.Proofs.Resolving

/-!
# A directory that was prepared

Making a directory together with its ancestors adds directories and keeps everything else.  When it
succeeds, the path leads to a directory, and then making it once more changes nothing.

    fs.makeTree p makes directories at ancestors of p, nothing else     (made_makeTree, Made.new)
    fs.makeTree p = (none, fs') → p.text = "" ∨ fs'.isDirectory p       (isDirectory_makeTree)
    p.text = "" ∨ fs.isDirectory p → fs.makeTree p = (none, fs)         (makeTree_again)
-/

namespace HardenAudit.FileSystem

variable {fs fs' : FileSystem}

/-! ## What was there stays -/

/-- Everything that was there is still there. -/
structure Keeps (fs fs' : FileSystem) : Prop where
  here : fs'.here = fs.here
  node : ∀ l n, fs.node? l = some n → fs'.node? l = some n

namespace Keeps

theorem refl (fs : FileSystem) : Keeps fs fs := ⟨rfl, fun _ _ h => h⟩

theorem trans {fs'' : FileSystem} (h : Keeps fs fs') (h' : Keeps fs' fs'') : Keeps fs fs'' :=
  ⟨by rw [h'.here, h.here], fun l n hn => h'.node l n (h.node l n hn)⟩

end Keeps

theorem Grounded.keeps (hfs : fs.Grounded) (h : Keeps fs fs') : fs'.Grounded := by
  intro l hl
  rw [h.here] at hl
  obtain ⟨n, hn, hdir⟩ := hfs l hl
  exact ⟨n, h.node l n hn, hdir⟩

/-- The node of a new directory. -/
def newDirectory (fs : FileSystem) : Node :=
  { matter := .directory, mode := directoryMode, changed := fs.time }

theorem grants_newDirectory (fs : FileSystem) : fs.newDirectory.grants .execute = true := by
  simp [newDirectory, Node.grants, directoryMode, Right.bit]

/-- A directory is made where nothing was. -/
theorem makeDirectory_ok {p : Path} (h : fs.makeDirectory p = .ok fs') :
    ∃ r loc slash, p.route = .ok r ∧ fs.target r = .ok (.entry loc slash) ∧ loc ≠ [] ∧
      fs.node? loc = none ∧ fs' = fs.put loc fs.newDirectory := by
  unfold makeDirectory at h
  obtain ⟨r, hr, h⟩ := bind_ok h
  unfold make at h
  obtain ⟨t, ht, h⟩ := bind_ok h
  cases t with
  | present => cases h
  | entry loc slash =>
    dsimp only at h
    split at h
    · cases h
    next hsome =>
    split at h
    · cases h
    unfold create at h
    obtain ⟨_, -, h⟩ := bind_ok h
    cases h
    have hnone : fs.node? loc = none := by simpa using hsome
    refine ⟨r, loc, slash, hr, ht, ?_, hnone, rfl⟩
    rintro rfl
    unfold node? at hnone
    rw [if_pos rfl] at hnone
    cases hnone

theorem keeps_makeDirectory {p : Path} (h : fs.makeDirectory p = .ok fs') : Keeps fs fs' := by
  obtain ⟨r, loc, slash, -, -, hloc, hnone, rfl⟩ := makeDirectory_ok h
  refine ⟨rfl, fun l n hn => ?_⟩
  rw [node?_put fs loc l _ hloc, if_neg, hn]
  rintro rfl
  rw [hnone] at hn
  cases hn

/-! ## A new directory is found -/

theorem split_trailing (pieces : List String) : ∃ trail,
    pieces = (pieces.reverse.dropWhile (· == "")).reverse ++ trail ∧ ∀ x ∈ trail, x = "" := by
  refine ⟨(pieces.reverse.takeWhile (· == "")).reverse, ?_, fun x hx => ?_⟩
  · rw [← List.reverse_append, List.takeWhile_append_dropWhile, List.reverse_reverse]
  · simpa using List.all_eq_true.mp List.all_takeWhile x (List.mem_reverse.mp hx)

/-- A new entry is found behind the directory that the front of the route leads to. -/
theorem target_entry {r : Route} {loc : Location} {slash : Bool}
    (h : fs.target r = .ok (.entry loc slash)) : ∃ front last trail parent,
      r.pieces = front ++ [last] ++ trail ∧ (∀ x ∈ trail, x = "") ∧
      fs.walk true linkLimit (fs.origin r) front = .ok parent ∧ fs.step parent last = .ok loc := by
  unfold target at h
  dsimp only at h
  obtain ⟨trail, hpieces, htrail⟩ := split_trailing r.pieces
  split at h
  · cases h
  next last hlast =>
  obtain ⟨parent, hparent, h⟩ := bind_ok h
  obtain ⟨loc', hstep, h⟩ := bind_ok h
  split at h
  · cases h
  cases h
  obtain ⟨front, hfront⟩ := List.getLast?_eq_some_iff.mp hlast
  rw [hfront] at hpieces hparent
  rw [List.dropLast_concat] at hparent
  exact ⟨front, last, trail, parent, hpieces, htrail, hparent, hstep⟩

theorem step_empty {l : Location} (h : fs.requireDirectory l = .ok ()) : fs.step l "" = .ok l := by
  unfold step
  rw [h]
  rfl

theorem walk_append_trailing (fs : FileSystem) (links : Nat) {loc : Location}
    (hdir : fs.requireDirectory loc = .ok ()) (hlink : fs.link? loc = none) (o : Location)
    (trail : List String) : ∀ ps, (∀ x ∈ trail, x = "") → fs.walk true links o ps = .ok loc →
      fs.walk true links o (ps ++ trail) = .ok loc := by
  induction trail with
  | nil =>
    intro ps _ hw
    rwa [List.append_nil]
  | cons x rest ih =>
    intro ps htrail hw
    obtain ⟨rfl, hrest⟩ := List.forall_mem_cons.mp htrail
    rw [← List.singleton_append, ← List.append_assoc]
    exact ih _ hrest (walk_append_last fs links loc loc "" (step_empty hdir) hlink o ps hw)

section NewDirectory

variable {loc : Location}

theorem node?_put_newDirectory (hloc : loc ≠ []) :
    (fs.put loc fs.newDirectory).node? loc = some fs.newDirectory := by
  rw [node?_put fs loc loc _ hloc, if_pos rfl]

theorem requireDirectory_put (hloc : loc ≠ []) :
    (fs.put loc fs.newDirectory).requireDirectory loc = .ok () := by
  unfold requireDirectory
  rw [node?_put_newDirectory hloc]
  dsimp only
  rw [if_neg (by simp [newDirectory, Node.isDirectory]), if_pos fs.grants_newDirectory]

theorem link?_put (hloc : loc ≠ []) : (fs.put loc fs.newDirectory).link? loc = none := by
  unfold link?
  rw [node?_put_newDirectory hloc]
  rfl

/-- Where nothing was, a new directory is in nobody's way. -/
theorem leads_put (hloc : loc ≠ []) (hnone : fs.node? loc = none) :
    Leads fs (fs.put loc fs.newDirectory) where
  here := rfl
  directory l hl := by
    by_cases hsame : l = loc
    · rw [hsame]
      exact requireDirectory_put hloc
    · unfold requireDirectory at hl ⊢
      rw [node?_put fs loc l _ hloc, if_neg hsame]
      exact hl
  link l := by
    by_cases hsame : l = loc
    · rw [hsame, link?_put hloc]
      unfold link?
      rw [hnone]
    · unfold link?
      rw [node?_put fs loc l _ hloc, if_neg hsame]

end NewDirectory

/-- A directory that was made is where the path leads. -/
theorem place_makeDirectory {p : Path} (h : fs.makeDirectory p = .ok fs') :
    ∃ loc, loc ≠ [] ∧ fs.node? loc = none ∧ fs' = fs.put loc fs.newDirectory ∧
      fs'.place p = .ok loc := by
  obtain ⟨r, loc, slash, hr, ht, hloc, hnone, rfl⟩ := makeDirectory_ok h
  obtain ⟨front, last, trail, parent, hpieces, htrail, hparent, hstep⟩ := target_entry ht
  have hleads := leads_put hloc hnone
  have hwalk := walk_append_last _ linkLimit parent loc last (hleads.step _ _ _ hstep)
    (link?_put hloc) _ _ (hleads.walk true linkLimit _ _ _ hparent)
  refine ⟨loc, hloc, hnone, rfl, ?_⟩
  unfold place locate
  rw [hr]
  dsimp only [bind, Except.bind]
  rw [hpieces]
  exact walk_append_trailing _ linkLimit (requireDirectory_put hloc) (link?_put hloc) _ trail _
    htrail hwalk

theorem isDirectory_makeDirectory {p : Path} (h : fs.makeDirectory p = .ok fs') :
    fs'.isDirectory p = true := by
  obtain ⟨loc, hloc, -, rfl, hplace⟩ := place_makeDirectory h
  unfold isDirectory
  rw [stat_of_place hplace (node?_put_newDirectory hloc)]
  rfl

/-! ## Directories made one after the other -/

/-- From `fs` on directories were made at some of these paths, and nothing else happened. -/
inductive Made (paths : List Path) (fs : FileSystem) : FileSystem → Prop where
  | refl : Made paths fs fs
  | make {between fs' : FileSystem} {p : Path} (before : Made paths fs between) (mem : p ∈ paths)
    (made : between.makeDirectory p = .ok fs') : Made paths fs fs'

namespace Made

variable {paths : List Path}

theorem trans {fs'' : FileSystem} (h : Made paths fs fs') (h' : Made paths fs' fs'') :
    Made paths fs fs'' := by
  induction h' with
  | refl => exact h
  | make _ mem made ih => exact .make ih mem made

theorem mono {more : List Path} (h : Made paths fs fs') (hsub : ∀ p ∈ paths, p ∈ more) :
    Made more fs fs' := by
  induction h with
  | refl => exact .refl
  | make _ mem made ih => exact .make ih (hsub _ mem) made

theorem keeps (h : Made paths fs fs') : Keeps fs fs' := by
  induction h with
  | refl => exact .refl fs
  | make _ _ made ih => exact ih.trans (keeps_makeDirectory made)

/-- New directories are in nobody's way. -/
theorem leads (h : Made paths fs fs') : Leads fs fs' := by
  induction h with
  | refl => exact ⟨rfl, fun _ h => h, fun _ => rfl⟩
  | make _ _ made ih =>
    obtain ⟨loc, hloc, hnone, rfl, -⟩ := place_makeDirectory made
    exact ih.trans (leads_put hloc hnone)

theorem newDirectory (h : Made paths fs fs') : fs'.newDirectory = fs.newDirectory := by
  induction h with
  | refl => rfl
  | make _ _ made ih =>
    obtain ⟨loc, -, -, rfl, -⟩ := place_makeDirectory made
    exact ih

/-- What is new is a new directory, and one of the paths leads to it. -/
theorem new (h : Made paths fs fs') {l : Location} {n : Node} (hnone : fs.node? l = none)
    (hn : fs'.node? l = some n) : n = fs.newDirectory ∧ ∃ p ∈ paths, fs'.place p = .ok l := by
  induction h with
  | refl =>
    rw [hnone] at hn
    cases hn
  | make before mem made ih =>
    obtain ⟨loc, hloc, hfree, rfl, hplace⟩ := place_makeDirectory made
    rw [node?_put _ loc l _ hloc] at hn
    by_cases hsame : l = loc
    · rw [if_pos hsame] at hn
      cases hn
      exact ⟨before.newDirectory, _, mem, hsame ▸ hplace⟩
    · rw [if_neg hsame] at hn
      obtain ⟨hnew, q, hq, hlead⟩ := ih hn
      exact ⟨hnew, q, hq, (leads_put hloc hfree).place q l hlead⟩

end Made

theorem made_attempt {paths : List Path} {p : Path} (hp : p ∈ paths) (h : fs.attempt p = .ok fs') :
    Made paths fs fs' := by
  unfold attempt at h
  split at h
  · next hmade =>
    cases h
    exact .make .refl hp hmade
  · split at h
    · cases h
      exact .refl
    · cases h

/-- A lineage is made by making directories, and if that fails, then the first one is not made. -/
theorem made_makeLineage (paths : List Path) : ∀ fs, Made paths fs (makeLineage paths fs).2 ∧
    ((makeLineage paths fs).1 ≠ none → Made paths.tail fs (makeLineage paths fs).2) := by
  induction paths with
  | nil => exact fun fs => ⟨.refl, fun _ => .refl⟩
  | cons p up ih =>
    intro fs
    unfold makeLineage
    split
    · exact ⟨.refl, fun _ => .refl⟩
    split
    · next hmade => exact ⟨.make .refl List.mem_cons_self hmade, fun h => absurd rfl h⟩
    · obtain ⟨hup, htail⟩ := ih fs
      split
      · next hfailed =>
        rw [hfailed] at htail
        have hmade := (htail (by simp)).mono fun q hq => List.mem_of_mem_tail hq
        exact ⟨hmade.mono fun q hq => List.mem_cons_of_mem p hq, fun _ => hmade⟩
      · next hmade =>
        rw [hmade] at hup
        have hall := hup.mono fun q hq => List.mem_cons_of_mem p hq
        split
        · next hattempt =>
          exact ⟨hall.trans (made_attempt List.mem_cons_self hattempt), fun h => absurd rfl h⟩
        · exact ⟨hall, fun _ => hup⟩
    · split
      · exact ⟨.refl, fun _ => .refl⟩
      · exact ⟨.refl, fun _ => .refl⟩

/-- Making a directory with its ancestors only makes directories there. -/
theorem made_makeTree (fs : FileSystem) (p : Path) : Made (lineage p) fs (fs.makeTree p).2 :=
  (made_makeLineage _ fs).1

theorem keeps_makeTree (fs : FileSystem) (p : Path) : Keeps fs (fs.makeTree p).2 :=
  (fs.made_makeTree p).keeps

theorem lineage_eq_cons (p : Path) : ∃ up, lineage p = p :: up := by
  unfold lineage
  cases p.text.length with
  | zero => exact ⟨[], rfl⟩
  | succ n =>
    unfold lineageFrom
    split
    · exact ⟨[], rfl⟩
    · exact ⟨_, rfl⟩

/-- **A path that was made with its ancestors leads to a directory.** -/
theorem isDirectory_makeTree {p : Path} (h : fs.makeTree p = (none, fs')) :
    p.text = "" ∨ fs'.isDirectory p = true := by
  obtain ⟨up, hup⟩ := lineage_eq_cons p
  unfold makeTree at h
  rw [hup] at h
  unfold makeLineage at h
  split at h
  · next hempty => exact .inl hempty
  right
  split at h
  · next hmade =>
    cases h
    exact isDirectory_makeDirectory hmade
  · split at h
    · cases h
    · split at h
      · next hattempt =>
        cases h
        unfold attempt at hattempt
        split at hattempt
        · next hmade =>
          cases hattempt
          exact isDirectory_makeDirectory hmade
        · split at hattempt
          · next hdir =>
            cases hattempt
            exact hdir
          · cases hattempt
      · cases h
  · split at h
    · next hdir =>
      cases h
      exact hdir
    · cases h

/-! ## A directory that is there is not made again -/

/-- Empty pieces behind a way stay where it ends. -/
theorem walk_of_append_trailing (fs : FileSystem) (links : Nat) (o loc : Location)
    (trail : List String) : ∀ ps, (∀ x ∈ trail, x = "") →
      fs.walk true links o (ps ++ trail) = .ok loc → fs.walk true links o ps = .ok loc := by
  induction trail with
  | nil =>
    intro ps _ hw
    rwa [List.append_nil] at hw
  | cons x rest ih =>
    intro ps htrail hw
    obtain ⟨rfl, hrest⟩ := List.forall_mem_cons.mp htrail
    rw [← List.singleton_append, ← List.append_assoc] at hw
    obtain ⟨parent, hparent, next, hstep, hlast⟩ := walk_concat fs links _ _ _ _ (ih _ hrest hw)
    have hdir := (step_ok hstep).1
    rw [step_empty hdir, Except.ok.injEq] at hstep
    subst hstep
    rwa [hlast (link?_of_requireDirectory hdir)]

/-- The name at the end of a way is there, and the way ends there unless it is a link. -/
theorem target_of_walk {r : Route} {loc : Location}
    (h : fs.walk true linkLimit (fs.origin r) (r.pieces.reverse.dropWhile (· == "")).reverse =
      .ok loc) : fs.target r = .ok .present ∨ ∃ next slash, fs.target r = .ok (.entry next slash) ∧
      (fs.link? next = none → loc = next) := by
  unfold target
  dsimp only
  cases hlast : (r.pieces.reverse.dropWhile (· == "")).reverse.getLast? with
  | none => exact .inl rfl
  | some last =>
    obtain ⟨front, hfront⟩ := List.getLast?_eq_some_iff.mp hlast
    rw [hfront] at h
    obtain ⟨parent, hparent, next, hstep, hend⟩ := walk_concat fs linkLimit _ _ _ _ h
    dsimp only [bind, Except.bind]
    rw [hfront, List.dropLast_concat, hparent]
    dsimp only
    rw [hstep]
    dsimp only
    split
    · exact .inl rfl
    · exact .inr ⟨next, _, rfl, hend⟩

/-- The name of a path that leads somewhere is there, and the path leads there unless it is a link. -/
theorem target_of_locate {r : Route} {loc : Location} (h : fs.locate r = .ok loc) :
    fs.target r = .ok .present ∨ ∃ next slash, fs.target r = .ok (.entry next slash) ∧
      (fs.link? next = none → loc = next) := by
  unfold locate at h
  obtain ⟨trail, hpieces, htrail⟩ := split_trailing r.pieces
  rw [hpieces] at h
  exact target_of_walk (walk_of_append_trailing fs linkLimit _ loc trail _ htrail h)

/-- What a path that leads to a directory is named by is taken already. -/
theorem target_of_isDirectory (hfs : fs.Grounded) {p : Path} {r : Route} (hr : p.route = .ok r)
    (hdir : fs.isDirectory p = true) : fs.target r = .ok .present ∨
      ∃ loc slash, fs.target r = .ok (.entry loc slash) ∧ (fs.node? loc).isSome = true := by
  obtain ⟨loc, hplace, hholds⟩ := HoldsDirectory.of_isDirectory hfs hdir
  unfold place at hplace
  rw [hr] at hplace
  rcases target_of_locate hplace with hpresent | ⟨next, slash, hentry, hend⟩
  · exact .inl hpresent
  · refine .inr ⟨next, slash, hentry, ?_⟩
    cases hl : fs.link? next with
    | none => exact hend hl ▸ hholds.isSome_node?
    | some target => exact isSome_node?_of_link? hl

theorem makeDirectory_again (hfs : fs.Grounded) {p : Path} (hdir : fs.isDirectory p = true) :
    fs.makeDirectory p = .error .alreadyExists := by
  obtain ⟨loc, hplace, -⟩ := HoldsDirectory.of_isDirectory hfs hdir
  obtain ⟨r, hr, -⟩ := bind_ok hplace
  unfold makeDirectory make
  rw [hr]
  dsimp only [bind, Except.bind]
  rcases target_of_isDirectory hfs hr hdir with hthere | ⟨loc, slash, hentry, htaken⟩
  · rw [hthere]
  · rw [hentry]
    dsimp only
    rw [if_pos htaken]

/-- **Making a directory once more changes nothing.** -/
theorem makeTree_again (hfs : fs.Grounded) {p : Path}
    (hdir : p.text = "" ∨ fs.isDirectory p = true) : fs.makeTree p = (none, fs) := by
  obtain ⟨up, hup⟩ := lineage_eq_cons p
  unfold makeTree
  rw [hup]
  unfold makeLineage
  split
  · rfl
  next hnonempty =>
  have hdir := hdir.resolve_left hnonempty
  rw [makeDirectory_again hfs hdir]
  dsimp only
  rw [if_pos hdir]

end HardenAudit.FileSystem
