import HardenAudit.FileSystem.Basic

/-!
# A file that was written holds what was written

A path is resolved through directories and links only, and writing changes neither: it replaces the
content of an ordinary file, or makes one where nothing was.  So every way of the file system after
a write was a way before it, and the path still leads where it was written.

    fs.write p content = .ok fs' → fs'.isFile p → fs'.content? p = some content       (content?_write)
-/

namespace HardenAudit

theorem bind_ok {ε α β : Type} {x : Except ε α} {f : α → Except ε β} {b : β}
    (h : (x >>= f) = .ok b) : ∃ a, x = .ok a ∧ f a = .ok b := by
  cases x with
  | error e => cases h
  | ok a => exact ⟨a, rfl, h⟩

theorem toOption_eq_some_iff {ε α : Type} {x : Except ε α} {a : α} :
    x.toOption = some a ↔ x = .ok a := by
  cases x <;> simp [Except.toOption]

namespace FileSystem

open Text (Bytes)

/-- The content of the ordinary file that a path leads to. -/
def content? (fs : FileSystem) (p : Path) : Option Bytes :=
  match fs.stat p with
  | .ok n => match n.matter with
    | .file content => some content
    | _ => none
  | .error _ => none

/-! ## Ways -/

/-- Every way through the directories and links of `fs` is one through those of `fs'`. -/
structure Leads (fs fs' : FileSystem) : Prop where
  here : fs'.here = fs.here
  directory : ∀ l, fs.requireDirectory l = .ok () → fs'.requireDirectory l = .ok ()
  link : ∀ l, fs'.link? l = fs.link? l

variable {fs fs' : FileSystem}

theorem Leads.step (h : Leads fs fs') (l l' : Location) (piece : String)
    (hs : fs.step l piece = .ok l') : fs'.step l piece = .ok l' := by
  unfold FileSystem.step at hs ⊢
  obtain ⟨_, hdir, hs⟩ := bind_ok hs
  rw [h.directory l hdir]
  exact hs

theorem Leads.walkWith (h : Leads fs fs') (through : Bool)
    (follow follow' : Location → List String → Except FileError Location)
    (hf : ∀ l ps r, follow l ps = .ok r → follow' l ps = .ok r) (ps : List String) : ∀ l r,
    fs.walkWith through follow l ps = .ok r → fs'.walkWith through follow' l ps = .ok r := by
  induction ps with
  | nil => intro l r hw; exact hw
  | cons p rest ih =>
    intro l r hw
    unfold FileSystem.walkWith at hw ⊢
    cases hs : fs.step l p with
    | error e => rw [hs] at hw; cases hw
    | ok next =>
      rw [hs] at hw
      rw [h.step l next p hs]
      dsimp only at hw ⊢
      rw [h.link next]
      cases hl : fs.link? next with
      | none => rw [hl] at hw; exact ih next r hw
      | some target =>
        rw [hl] at hw
        dsimp only at hw ⊢
        split
        · next hlast => rw [if_pos hlast] at hw; exact hw
        · next hlast => rw [if_neg hlast] at hw; exact hf _ _ r hw

theorem Leads.walk (h : Leads fs fs') (through : Bool) (links : Nat) : ∀ l ps r,
    fs.walk through links l ps = .ok r → fs'.walk through links l ps = .ok r := by
  induction links with
  | zero => exact fun l ps r => h.walkWith through _ _ (fun _ _ _ hr => by cases hr) ps l r
  | succ n ih => exact fun l ps r => h.walkWith through _ _ ih ps l r

theorem Leads.locate (h : Leads fs fs') (r : Route) (loc : Location)
    (hl : fs.locate r = .ok loc) : fs'.locate r = .ok loc := by
  have horigin : fs'.origin r = fs.origin r := by unfold origin; rw [h.here]
  unfold FileSystem.locate at hl ⊢
  rw [horigin]
  exact h.walk true linkLimit _ _ _ hl

theorem Leads.trans {fs'' : FileSystem} (h : Leads fs fs') (h' : Leads fs' fs'') : Leads fs fs'' where
  here := by rw [h'.here, h.here]
  directory l hl := h'.directory l (h.directory l hl)
  link l := by rw [h'.link, h.link]

/-! ## Where a path is written -/

theorem walkWith_append (fs : FileSystem)
    (follow : Location → List String → Except FileError Location) {loc : Location}
    {behind : List String} {x : Except FileError Location}
    (hend : fs.walkWith true follow loc behind = x)
    (hf : ∀ o ps, follow o ps = .ok loc → follow o (ps ++ behind) = x) (ps : List String) : ∀ o,
    fs.walkWith true follow o ps = .ok loc → fs.walkWith true follow o (ps ++ behind) = x := by
  induction ps with
  | nil =>
    intro o hw
    cases hw
    exact hend
  | cons p rest ih =>
    intro o hw
    rw [List.cons_append]
    unfold walkWith at hw ⊢
    cases hp : fs.step o p with
    | error e => rw [hp] at hw; cases hw
    | ok next =>
      rw [hp] at hw
      dsimp only at hw ⊢
      cases hl : fs.link? next with
      | none => rw [hl] at hw; exact ih next hw
      | some target =>
        -- the rest of the way is that of the link, with the pieces still behind it
        rw [hl] at hw
        simp only [Bool.not_true, Bool.and_false, Bool.false_eq_true, if_false] at hw ⊢
        rw [← List.append_assoc]
        exact hf _ _ hw

/-- A way that reaches a location goes on as from there, if no link is followed behind it. -/
theorem walk_append (fs : FileSystem) (links : Nat) {loc : Location} {behind : List String}
    {x : Except FileError Location} (hend : ∀ follow, fs.walkWith true follow loc behind = x) : ∀ o ps,
    fs.walk true links o ps = .ok loc → fs.walk true links o (ps ++ behind) = x := by
  induction links with
  | zero => exact fun o ps => walkWith_append fs _ (hend _) (fun _ _ h => by cases h) ps o
  | succ n ih => exact fun o ps => walkWith_append fs _ (hend _) ih ps o

theorem walk_append_last (fs : FileSystem) (links : Nat) (l loc : Location) (last : String)
    (hs : fs.step l last = .ok loc) (hlink : fs.link? loc = none) : ∀ o ps,
    fs.walk true links o ps = .ok l → fs.walk true links o (ps ++ [last]) = .ok loc :=
  walk_append fs links fun _ => by simp only [walkWith, hs, hlink]

theorem trailing_eq_self (pieces : List String)
    (h : (pieces.length != ((pieces.reverse.dropWhile (· == "")).reverse).length) = false) :
    (pieces.reverse.dropWhile (· == "")).reverse = pieces := by
  have hlen : (pieces.reverse.dropWhile (· == "")).length = pieces.reverse.length := by
    rw [bne_eq_false_iff_eq, List.length_reverse] at h
    rw [List.length_reverse, ← h]
  have hsame := (List.dropWhile_suffix (l := pieces.reverse) (· == "")).eq_of_length hlen
  rw [hsame, List.reverse_reverse]

theorem target_ok (fs : FileSystem) (r : Route) (loc : Location)
    (h : fs.target r = .ok (.entry loc false)) :
    ∃ last parent, r.pieces.getLast? = some last ∧
      fs.walk true linkLimit (fs.origin r) r.pieces.dropLast = .ok parent ∧
      fs.step parent last = .ok loc := by
  unfold target at h
  dsimp only at h
  split at h
  · cases h
  · next last hlast =>
    obtain ⟨parent, hparent, h⟩ := bind_ok h
    obtain ⟨loc', hstep, h⟩ := bind_ok h
    split at h
    · cases h
    · simp only [Except.ok.injEq, Target.entry.injEq] at h
      obtain ⟨rfl, hslash⟩ := h
      rw [trailing_eq_self _ hslash] at hparent hlast
      exact ⟨last, parent, hlast, hparent, hstep⟩

theorem requireNoDirectory_ok {loc : Location} {n : Node} (h : fs.requireNoDirectory loc = .ok ())
    (hn : fs.node? loc = some n) : n.isDirectory = false := by
  unfold requireNoDirectory at h
  rw [hn] at h
  dsimp only at h
  split at h
  · cases h
  · next hdir => exact Bool.not_eq_true _ ▸ hdir

theorem writable_ok (fs : FileSystem) (r : Route) (loc : Location) (h : fs.writable r = .ok loc) :
    (fs.locate r = .ok loc ∨ fs.target r = .ok (.entry loc false) ∧ fs.link? loc = none) ∧
    ∀ n, fs.node? loc = some n → n.isDirectory = false := by
  unfold writable at h
  obtain ⟨t, ht, h⟩ := bind_ok h
  cases t with
  | present => cases h
  | entry loc₀ slash =>
    cases slash with
    | true => cases h
    | false =>
      obtain ⟨loc₁, hloc₁, h⟩ := bind_ok h
      obtain ⟨_, hdir, h⟩ := bind_ok h
      cases h
      refine ⟨?_, fun n hn => requireNoDirectory_ok hdir hn⟩
      split at hloc₁
      · exact .inl hloc₁
      · next hlink =>
        cases hloc₁
        exact .inr ⟨ht, by simpa using hlink⟩

/-- A path leads to the location where it is written. -/
theorem locate_of_writable (fs : FileSystem) (r : Route) (loc : Location)
    (h : fs.writable r = .ok loc) : fs.locate r = .ok loc := by
  rcases (writable_ok fs r loc h).1 with hl | ⟨ht, hlink⟩
  · exact hl
  · obtain ⟨last, parent, hlast, hparent, hstep⟩ := target_ok fs r loc ht
    obtain ⟨front, hfront⟩ := List.getLast?_eq_some_iff.mp hlast
    rw [hfront, List.dropLast_concat] at hparent
    have hwalk := walk_append_last fs linkLimit parent loc last hstep hlink _ _ hparent
    rwa [← hfront] at hwalk

/-! ## Nodes after a write -/

theorem node?_put (fs : FileSystem) (loc l : Location) (n : Node) (hloc : loc ≠ []) :
    (fs.put loc n).node? l = if l = loc then some n else fs.node? l := by
  unfold put node?
  by_cases hl : l = loc
  · subst hl
    simp only [if_neg hloc, SortedMap.find?_insert, if_true]
  · simp only [SortedMap.find?_insert, if_neg hl]

/-- An update reaches its location, and beside it only locations that share the node. -/
theorem node?_update (fs : FileSystem) (loc : Location) (old n : Node) (hloc : loc ≠ [])
    (hold : fs.node? loc = some old) :
    (fs.update loc n).node? loc = some n ∧
    ∀ l, (fs.update loc n).node? l = fs.node? l ∨
      fs.node? l = some old ∧ (fs.update loc n).node? l = some n := by
  have hput : (fs.put loc n).node? loc = some n ∧ ∀ l, (fs.put loc n).node? l = fs.node? l ∨
      fs.node? l = some old ∧ (fs.put loc n).node? l = some n := by
    refine ⟨by rw [node?_put fs loc loc n hloc, if_pos rfl], fun l => ?_⟩
    rw [node?_put fs loc l n hloc]
    by_cases hl : l = loc
    · subst hl; exact .inr ⟨hold, if_pos rfl⟩
    · exact .inl (if_neg hl)
  unfold update
  split
  · next number hnum =>
    have hshared : fs.shared.find? number = some old := by
      unfold node? at hold
      rwa [if_neg hloc, hnum] at hold
    have hsame : ∀ l, l ≠ [] → fs.entries.find? l = some (.shared number) →
        fs.node? l = some old ∧
        node? { fs with shared := fs.shared.insert number n } l = some n := by
      intro l hl he
      unfold node?
      simp only [if_neg hl, he, hshared, SortedMap.find?_insert, if_true, and_self]
    refine ⟨(hsame loc hloc hnum).2, fun l => ?_⟩
    by_cases hl : l = []
    · left; unfold node?; rw [if_pos hl, if_pos hl]
    by_cases he : fs.entries.find? l = some (.shared number)
    · exact .inr (hsame l hl he)
    · left
      unfold node?
      rw [if_neg hl, if_neg hl]
      cases hfind : fs.entries.find? l with
      | none => rfl
      | some e =>
        cases e with
        | sole m => rfl
        | shared k =>
          have hk : k ≠ number := fun h => he (by rw [hfind, h])
          simp only [SortedMap.find?_insert, if_neg hk]
  · exact hput

/-- What a write does: it makes an ordinary file where nothing was, or fills the node that is there. -/
theorem write_ok (fs fs' : FileSystem) (p : Path) (content : Bytes)
    (h : fs.write p content = .ok fs') :
    ∃ r loc new, p.route = .ok r ∧ fs.writable r = .ok loc ∧ loc ≠ [] ∧
      fs'.here = fs.here ∧ fs'.node? loc = some new ∧
      ((fs.node? loc = none ∧ new.matter = .file content ∧
          ∀ l, l ≠ loc → fs'.node? l = fs.node? l) ∨
        ∃ old, fs.node? loc = some old ∧ old.filled loc content fs.time = .ok new ∧
          ∀ l, fs'.node? l = fs.node? l ∨ fs.node? l = some old ∧ fs'.node? l = some new) := by
  unfold write at h
  obtain ⟨r, hr, h⟩ := bind_ok h
  obtain ⟨loc, hloc, h⟩ := bind_ok h
  have hroot : loc ≠ [] := by
    intro hnil
    have := (writable_ok fs r loc hloc).2 _ (by unfold node?; rw [if_pos hnil])
    simp [Node.isDirectory] at this
  split at h
  · next hnone =>
    unfold create at h
    obtain ⟨_, -, h⟩ := bind_ok h
    cases h
    refine ⟨r, loc, { matter := .file content, mode := fileMode, changed := fs.time },
      hr, hloc, hroot, rfl, ?_, .inl ⟨hnone, rfl, fun l hl => ?_⟩⟩
    · rw [node?_put fs loc loc _ hroot, if_pos rfl]
    · rw [node?_put fs loc l _ hroot, if_neg hl]
  · next old hold =>
    split at h
    · obtain ⟨new, hnew, h⟩ := bind_ok h
      cases h
      obtain ⟨hself, hother⟩ := node?_update fs loc old new hroot hold
      refine ⟨r, loc, new, hr, hloc, hroot, ?_, hself, .inr ⟨old, hold, hnew, hother⟩⟩
      unfold update
      split <;> rfl
    · cases h

theorem filled_ok (n new : Node) (loc : Location) (content : Bytes) (time : Nat)
    (h : n.filled loc content time = .ok new) :
    n.isOrdinary = true ∧ new = { n with matter := .file content, changed := time } ∨
    n.isOrdinary = false ∧ new = n := by
  unfold Node.filled at h
  unfold Node.isOrdinary
  split at h <;> simp_all
  all_goals split at h <;> simp_all

theorem link?_eq_none {l : Location} {n : Node} (hn : fs.node? l = some n)
    (hord : n.isOrdinary = true) : fs.link? l = none := by
  unfold Node.isOrdinary at hord
  unfold link?
  simp only [hn]
  split
  · next hm => rw [hm] at hord; cases hord
  · rfl

/-- A write makes no way. -/
theorem leads_of_write (fs fs' : FileSystem) (p : Path) (content : Bytes)
    (h : fs.write p content = .ok fs') : Leads fs' fs := by
  obtain ⟨r, loc, new, -, hloc, -, hhere, hnew, heffect⟩ := write_ok fs fs' p content h
  -- a node that changed leads nowhere, before and after
  have hnode : ∀ l, fs'.node? l = fs.node? l ∨
      ∃ m, fs'.node? l = some m ∧ m.isDirectory = false ∧ fs'.link? l = fs.link? l := by
    intro l
    rcases heffect with ⟨hnone, hmatter, hother⟩ | ⟨old, hold, hfilled, hother⟩
    · by_cases hl : l = loc
      · subst hl
        refine .inr ⟨new, hnew, ?_, ?_⟩
        · unfold Node.isDirectory; rw [hmatter]
        · unfold link?; simp only [hnew, hnone, hmatter]
      · exact .inl (hother l hl)
    · rcases hother l with hsame | ⟨hbefore, hafter⟩
      · exact .inl hsame
      · rcases filled_ok old new loc content fs.time hfilled with ⟨hord, rfl⟩ | ⟨-, rfl⟩
        · exact .inr ⟨_, hafter, rfl, by rw [link?_eq_none hbefore hord, link?_eq_none hafter rfl]⟩
        · exact .inl (by rw [hbefore, hafter])
  refine ⟨hhere.symm, fun l hdir => ?_, fun l => ?_⟩
  · unfold requireDirectory at hdir ⊢
    rcases hnode l with hsame | ⟨m, hm, hno, -⟩
    · rw [hsame, hhere] at hdir
      exact hdir
    · rw [hm] at hdir
      simp [hno] at hdir
  · rcases hnode l with hsame | ⟨m, -, -, hlink⟩
    · unfold link?; rw [hsame]
    · exact hlink.symm

/-- **A path that was written holds what was written**, if it leads to an ordinary file. -/
theorem content?_write (fs fs' : FileSystem) (p : Path) (content : Bytes)
    (h : fs.write p content = .ok fs') (hfile : fs'.isFile p = true) :
    fs'.content? p = some content := by
  have hleads := leads_of_write fs fs' p content h
  obtain ⟨r, loc, new, hr, hloc, -, -, hnew, heffect⟩ := write_ok fs fs' p content h
  unfold isFile at hfile
  unfold content?
  cases hs : fs'.stat p with
  | error e => rw [hs] at hfile; cases hfile
  | ok n =>
    rw [hs] at hfile
    unfold stat at hs
    obtain ⟨r', hr', hs⟩ := bind_ok hs
    rw [hr] at hr'
    cases hr'
    obtain ⟨loc', hloc', hs⟩ := bind_ok hs
    have hsame := hleads.locate r loc' hloc'
    rw [locate_of_writable fs r loc hloc] at hsame
    cases hsame
    unfold found at hs
    rw [hnew] at hs
    cases hs
    rcases heffect with ⟨-, hmatter, -⟩ | ⟨old, -, hfilled, -⟩
    · dsimp only
      rw [hmatter]
    · rcases filled_ok old new loc content fs.time hfilled with ⟨-, rfl⟩ | ⟨hno, rfl⟩
      · rfl
      · dsimp only at hfile
        rw [hno] at hfile
        cases hfile

end FileSystem
end HardenAudit
