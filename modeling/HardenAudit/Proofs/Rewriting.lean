import HardenAudit.Proofs.Containment

/-!
# What a write leaves alone

A write changes the file where it lands, under all its names, and nothing else.  So what a path leads to
stays as it is while other files are written.  Different names in one directory stand for different
files, unless they are linked.

    what is not at the path that was written is as it was             (Rewrites.seen?)
    what was written is there, unless a pipe or a device took it      (content?_written)
    unlinked names in one directory are different files               (not_sameFile_join)
-/

namespace HardenAudit

open Text (Bytes Utf8.encode)

/-! ## Algorithm -/

namespace FileSystem

/-- From `fs` on the file at a path was written any number of times while time went by, and nothing else
happened. -/
inductive Rewrites (fs : FileSystem) (p : Path) : FileSystem → Prop where
  | refl : Rewrites fs p fs
  | wait {fs' : FileSystem} (before : Rewrites fs p fs') (time : Nat) :
    Rewrites fs p { fs' with time := time }
  | write {fs' : FileSystem} (before : Rewrites fs p fs') (content : Bytes) :
    Rewrites fs p (fs'.overwritten p content)

/-- What a path names is a link, or a file that has other names, too. -/
def linked (fs : FileSystem) (p : Path) : Bool :=
  match (do fs.target (← p.route) : Except FileError Target) with
  | .ok (.entry loc _) => (fs.link? loc).isSome || fs.cell loc != .own loc
  | _ => false

/-- Two paths do not lead to one file, if one of them is linked. -/
def Apart (fs : FileSystem) (p q : Path) : Prop :=
  fs.linked p = true ∨ fs.linked q = true → ¬ fs.SameFile p q

instance (fs : FileSystem) (p q : Path) : Decidable (fs.Apart p q) :=
  inferInstanceAs (Decidable (fs.linked p = true ∨ fs.linked q = true → ¬ fs.SameFile p q))

/-- A text that was stored is in the file at a path, or the path led to a pipe or a device, and these
keep nothing. -/
def Holds (start final : FileSystem) (p : Path) (text : String) : Prop :=
  final.content? p = some (Utf8.encode text) ∨
    ∃ n, start.seen? p = some n ∧ (n.matter = .fifo ∨ n.matter = .device)

end FileSystem

/-! ## Where nothing was written -/

namespace FileSystem

variable {fs fs' start : FileSystem} {p q : Path}

theorem extends_wait (fs : FileSystem) (time : Nat) : Extends fs { fs with time := time } :=
  ⟨⟨rfl, fun _ => .inl rfl⟩, fun _ => rfl⟩

theorem seen?_wait (fs : FileSystem) (time : Nat) (q : Path) :
    FileSystem.seen? { fs with time := time } q = fs.seen? q := by
  rw [seen?_eq, seen?_eq, ((extends_wait fs time).grows.place q).toOption_eq]
  rfl

namespace Rewrites

theorem extend (h : fs.Rewrites p fs') (hfs : fs.Grounded) : Extends fs fs' := by
  induction h with
  | refl => exact .refl fs
  | wait _ time ih => exact ih.trans (extends_wait _ time)
  | write _ content ih => exact ih.trans (extends_overwritten (hfs.grows ih.grows) p content)

/-- What is not at the path that was written is as it was. -/
theorem seen? (h : fs.Rewrites p fs') (hfs : fs.Grounded) (hother : ¬ fs.SameFile q p) :
    fs'.seen? q = fs.seen? q := by
  induction h with
  | refl => rfl
  | wait _ time ih => rw [seen?_wait, ih]
  | write before content ih =>
    have hext := before.extend hfs
    rw [seen?_overwritten (hfs.grows hext.grows) (mt (hext.sameFile_iff q p).mp hother), ih]

end Rewrites

theorem Leads.seen? (h : Leads fs fs') (hkeeps : Keeps fs fs') (hfs : fs.Grounded) {n : Node}
    (hn : fs.seen? p = some n) : fs'.seen? p = some n := by
  rw [seen?_eq] at hn ⊢
  obtain ⟨l, hl, hfound⟩ := Option.bind_eq_some_iff.mp hn
  rw [h.place p l (toOption_eq_some_iff.mp hl)]
  dsimp only [Except.toOption, Option.bind]
  unfold found at hfound ⊢
  rw [hkeeps.here]
  cases hnode : fs.node? l with
  | some m =>
    rw [hkeeps.node l m hnode]
    rwa [hnode] at hfound
  | none =>
    -- the working directory is there
    rw [hnode] at hfound
    dsimp only at hfound
    split at hfound
    · next hhere =>
      obtain ⟨m, hm, -⟩ := hfs.here
      rw [← hhere, hnode] at hm
      cases hm
    · cases hfound

/-! ## What was written -/

/-- A way that is gone to the end does not end at a link. -/
theorem link?_walkWith (follow : Location → List String → Except FileError Location)
    (hf : ∀ l ps r, ps ≠ [] → follow l ps = .ok r → fs.link? r = none) (ps : List String) : ∀ l r,
    ps ≠ [] ∨ fs.link? l = none → fs.walkWith true follow l ps = .ok r → fs.link? r = none := by
  induction ps with
  | nil =>
    intro l r h hw
    cases hw
    exact h.resolve_left fun hne => hne rfl
  | cons p rest ih =>
    intro l r _ hw
    unfold walkWith at hw
    cases hs : fs.step l p with
    | error e => rw [hs] at hw; cases hw
    | ok next =>
      rw [hs] at hw
      dsimp only at hw
      cases hl : fs.link? next with
      | none => rw [hl] at hw; exact ih next r (.inr hl) hw
      | some target =>
        rw [hl] at hw
        simp only [Bool.not_true, Bool.and_false, Bool.false_eq_true, if_false] at hw
        refine hf _ _ r (fun hnil => ?_) hw
        obtain ⟨piece, pieces, hsplit⟩ := Path.exists_splitSlash_eq target.toList
        unfold Route.split at hnil
        rw [hsplit] at hnil
        cases hnil

theorem link?_walk (links : Nat) : ∀ l ps r, ps ≠ [] → fs.walk true links l ps = .ok r →
    fs.link? r = none := by
  induction links with
  | zero => exact fun l ps r h => link?_walkWith _ (fun _ _ _ _ hr => by cases hr) ps l r (.inl h)
  | succ n ih => exact fun l ps r h => link?_walkWith _ ih ps l r (.inl h)

theorem link?_place {loc : Location} (h : fs.place p = .ok loc) : fs.link? loc = none := by
  unfold place locate at h
  obtain ⟨r, hr, hloc⟩ := bind_ok h
  refine link?_walk linkLimit _ _ _ (fun hnil => ?_) hloc
  unfold Path.route Route.ofRaw at hr
  obtain ⟨_, -, hr⟩ := bind_ok hr
  cases hr
  obtain ⟨piece, pieces, hsplit⟩ := Path.exists_splitSlash_eq (Text.Raw.ofText p.text).toList
  unfold Route.split at hnil
  rw [hsplit] at hnil
  cases hnil

/-- What is neither a directory, nor a file, nor a link, is a pipe or a device. -/
theorem matter_of_not {l : Location} {n : Node} (hn : fs.node? l = some n)
    (hlink : fs.link? l = none) (hdir : n.isDirectory = false) (hfile : n.isOrdinary = false) :
    n.matter = .fifo ∨ n.matter = .device := by
  unfold FileSystem.link? at hlink
  rw [hn] at hlink
  unfold Node.isDirectory at hdir
  unfold Node.isOrdinary at hfile
  cases hm : n.matter <;> simp_all

/-- What a path leads to and is no file was there from the start. -/
theorem seen?_of_extends (hext : Extends start fs) {loc : Location} {n : Node}
    (hplace : fs.place p = .ok loc) (hn : fs.node? loc = some n) (hfile : n.isOrdinary = false) :
    ∃ n₀, start.seen? p = some n₀ ∧ n₀.matter = n.matter := by
  have hplace₀ := ((hext.grows.place p).ok_iff loc).mpr hplace
  rcases hext.grows.shape loc with hsame | ⟨-, -, -, hfresh⟩
  · unfold shape? at hsame
    rw [hn] at hsame
    obtain ⟨n₀, hn₀, hshape⟩ := Option.map_eq_some_iff.mp hsame.symm
    refine ⟨n₀, ?_, ?_⟩
    · unfold seen?
      rw [stat_of_place hplace₀ hn₀]
      rfl
    · have hkind : n₀.isOrdinary = false := by
        rw [← n₀.isOrdinary_shape, hshape, n.isOrdinary_shape, hfile]
      have hmatter := congrArg Node.matter hshape
      unfold Node.shape at hmatter
      dsimp only at hmatter
      rwa [hkind, hfile, if_neg Bool.false_ne_true, if_neg Bool.false_ne_true] at hmatter
  · -- what is new is a file
    unfold shape? at hfresh
    rw [hn, Option.map_some, Option.some.injEq] at hfresh
    rw [← n.isOrdinary_shape, hfresh] at hfile
    cases hfile

/-- The content at a path is that of the file where it leads. -/
theorem content?_of_place {loc : Location} {n : Node} {content : Bytes} (hplace : fs.place p = .ok loc)
    (hn : fs.node? loc = some n) (hmatter : n.matter = .file content) :
    fs.content? p = some content := by
  unfold content?
  rw [stat_of_place hplace hn]
  dsimp only
  rw [hmatter]

/-- **What was written is there**, unless a pipe or a device took it. -/
theorem content?_written {content : Bytes} (hstart : start.Grounded) (hext : Extends start fs)
    (h : fs.write p content = .ok fs') : fs'.content? p = some content ∨
      ∃ n, start.seen? p = some n ∧ (n.matter = .fifo ∨ n.matter = .device) := by
  have hfs' : fs' = fs.overwritten p content := by
    unfold overwritten
    rw [h]
  have hafter := extends_overwritten (hstart.grows hext.grows) p content
  rw [← hfs'] at hafter
  obtain ⟨r, loc, new, hr, hwritable, hloc, -, hnew, heffect⟩ := write_ok fs fs' p content h
  have hplace : fs.place p = .ok loc := by
    unfold place
    rw [hr]
    exact locate_of_writable fs r loc hwritable
  have hplace' := ((hafter.grows.place p).ok_iff loc).mp hplace
  rcases heffect with ⟨-, hmatter, -⟩ | ⟨old, hold, hfilled, -⟩
  · exact .inl (content?_of_place hplace' hnew hmatter)
  rcases filled_ok old new loc content fs.time hfilled with ⟨-, rfl⟩ | ⟨hfile, rfl⟩
  · exact .inl (content?_of_place hplace' hnew rfl)
  right
  obtain ⟨n, hseen, hmatter⟩ := seen?_of_extends hext hplace hold hfile
  refine ⟨n, hseen, ?_⟩
  rw [hmatter]
  exact matter_of_not hold (link?_place hplace) ((writable_ok fs r loc hwritable).2 new hold) hfile

/-! ## Different names of one directory -/

/-- A path to a name in a directory leads there, unless the name is linked. -/
theorem place_join (hfs : fs.Grounded) {dir : Path}
    (hdir : dir.text = "" ∨ fs.isDirectory dir = true) : ∃ parent, ∀ name, Path.EntryName name →
      ∀ l, fs.place (dir.join ⟨name⟩) = .ok l → fs.linked (dir.join ⟨name⟩) = false →
        l = parent ++ [String.ofList (Text.Raw.raw name.toList)] ∧ fs.cell l = .own l := by
  obtain ⟨parent, -, hentries⟩ := target_join hfs hdir
  refine ⟨parent, fun name hname l hplace hlinked => ?_⟩
  unfold place at hplace
  obtain ⟨r, hr, hlocate⟩ := bind_ok hplace
  unfold linked at hlinked
  rw [hr] at hlinked
  dsimp only [bind, Except.bind] at hlinked
  rcases target_of_locate hlocate with hpresent | ⟨next, slash, hentry, hend⟩
  · exact absurd (hentries name hname r _ hr hpresent) (by simp)
  · have hsame := hentries name hname r _ hr hentry
    rw [Target.entry.injEq] at hsame
    rw [hentry] at hlinked
    simp only [Bool.or_eq_false_iff, Option.isSome_eq_false_iff, Option.isNone_iff_eq_none,
      bne_eq_false_iff_eq] at hlinked
    obtain rfl := hend hlinked.1
    exact ⟨hsame.1, hlinked.2⟩

/-- Different names in a directory stand for different files if they are not linked. -/
theorem not_sameFile_join (hfs : fs.Grounded) {dir : Path}
    (hdir : dir.text = "" ∨ fs.isDirectory dir = true) {name other : String}
    (hname : Path.EntryName name) (hother : Path.EntryName other) (hne : name ≠ other)
    (hlinked : fs.linked (dir.join ⟨name⟩) = false) (hlinked' : fs.linked (dir.join ⟨other⟩) = false) :
    ¬ fs.SameFile (dir.join ⟨name⟩) (dir.join ⟨other⟩) := by
  rintro ⟨l, m, hl, hm, hcell⟩
  obtain ⟨parent, hplaces⟩ := place_join hfs hdir
  obtain ⟨hl, hownl⟩ := hplaces name hname l hl hlinked
  obtain ⟨hm, hownm⟩ := hplaces other hother m hm hlinked'
  rw [hownl, hownm, Cell.own.injEq, hl, hm] at hcell
  have hlast := List.append_cancel_left hcell
  rw [List.cons.injEq, String.ofList_inj] at hlast
  exact hne (String.toList_inj.mp (Text.Raw.raw_inj hlast.1))

end FileSystem

end HardenAudit
