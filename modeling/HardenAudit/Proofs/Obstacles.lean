import HardenAudit.Pipeline
import HardenAudit.Proofs.Lineage

/-!
# A directory with its ancestors is made once, or not at all

Pieces that name nothing stay where they are, so only the names of a path say where it leads.  A file on
the way of a path is therefore met however the path is written, and it is no directory: neither is the
path one, nor can it be made, and no ancestor is tried.  A path that was made with its ancestors is there
when it is made again, in every state.

    a way with slashes and dots put in is the same way                 (Padded.walk)
    a file on the way of a path lets it fail, and nothing is made      (makeTree_obstructed)
    what was made with its ancestors is not made again                 (makeLineage_again)
-/

namespace HardenAudit

open Path

/-! ## Algorithm -/

namespace FileSystem

/-- Pieces that have some more among them that name nothing, each with a piece behind it. -/
inductive Padded : List String → List String → Prop
  | nil : Padded [] []
  | keep (piece : String) {ps qs : List String} (more : Padded ps qs) :
      Padded (piece :: ps) (piece :: qs)
  | pad {piece : String} {ps qs : List String} (idle : isIdle piece.toList = true) (behind : qs ≠ [])
      (more : Padded ps qs) : Padded (piece :: ps) qs

/-- What is new are directories, and to each of them one of some paths leads. -/
def NewAt (paths : List Path) (fs fs' : FileSystem) : Prop :=
  ∀ l n, fs.node? l = none → fs'.node? l = some n →
    n = fs.newDirectory ∧ ∃ p ∈ paths, fs'.place p = .ok l

end FileSystem

/-- Preparing a directory makes it and what is missing above it, and nothing else. -/
structure PreparesSafely (fs : FileSystem) (dir : Path) : Prop where
  /-- Going up from parent to parent ends, as each of them is shorter. -/
  parent : ∀ up, dir.parent? = some up →
    up.text.length < dir.text.length ∧ FileSystem.lineage dir = dir :: FileSystem.lineage up
  top : dir.parent? = none → FileSystem.lineage dir = [dir]
  ancestors : ∀ q ∈ FileSystem.lineage dir, q.IsAbove dir
  keeps : fs.Keeps (prepareOutput fs dir).2
  done : ∀ fs', prepareOutput fs dir = (.ok (), fs') →
    (dir.text = "" ∨ fs'.isDirectory dir = true) ∧
    FileSystem.NewAt (FileSystem.lineage dir) fs fs' ∧ prepareOutput fs' dir = (.ok (), fs')
  refused : ∀ e fs', prepareOutput fs dir = (.error e, fs') →
    (∃ reason, e = .artifactWrite dir reason) ∧ FileSystem.NewAt (FileSystem.lineage dir).tail fs fs'
  obstructed : ∀ q, q.IsAbove dir → fs.isFile q = true →
    ∃ reason, prepareOutput fs dir = (.error (.artifactWrite dir reason), fs)

namespace FileSystem

open Text.Raw

variable {fs fs' : FileSystem}

/-! ## Ways with slashes and dots put in -/

theorem Padded.append_left {ps qs : List String} (h : Padded ps qs) (front : List String) :
    Padded (front ++ ps) (front ++ qs) := by
  induction front with
  | nil => exact h
  | cons piece front ih => exact .keep piece ih

/-- Pieces that name nothing may be left out in front of a piece. -/
theorem padded_filter (front : List String) {behind : List String} (hbehind : behind ≠ []) :
    Padded (front ++ behind) (front.filter (fun piece => !isIdle piece.toList) ++ behind) := by
  induction front with
  | nil => simpa using Padded.append_left .nil behind
  | cons piece front ih =>
    cases hidle : isIdle piece.toList with
    | true =>
      rw [List.filter_cons_of_neg (by simp [hidle])]
      exact .pad hidle (by simp [hbehind]) ih
    | false =>
      rw [List.filter_cons_of_pos (by simp [hidle])]
      exact .keep piece ih

theorem step_error {l : Location} {e : FileError} (h : fs.requireDirectory l = .error e)
    (piece : String) : fs.step l piece = .error e := by
  unfold step
  rw [h]
  rfl

theorem step_idle {l : Location} (h : fs.requireDirectory l = .ok ()) {piece : String}
    (hidle : isIdle piece.toList = true) : fs.step l piece = .ok l := by
  unfold step
  rw [h]
  dsimp only [bind, Except.bind]
  rw [if_pos hidle]
  rfl

theorem Padded.walkWith (fs : FileSystem)
    (follow : Location → List String → Except FileError Location)
    (hf : ∀ l ps qs, Padded ps qs → follow l ps = follow l qs) {ps qs : List String}
    (h : Padded ps qs) : ∀ l, fs.walkWith true follow l ps = fs.walkWith true follow l qs := by
  induction h with
  | nil => exact fun _ => rfl
  | keep piece more ih =>
    intro l
    unfold FileSystem.walkWith
    cases fs.step l piece with
    | error e => rfl
    | ok next =>
      dsimp only
      cases fs.link? next with
      | none => exact ih next
      | some target =>
        simp only [Bool.not_true, Bool.and_false, Bool.false_eq_true, if_false]
        exact hf _ _ _ (more.append_left _)
  | @pad piece ps qs idle behind more ih =>
    intro l
    obtain ⟨next, rest, rfl⟩ := List.exists_cons_of_ne_nil behind
    rw [FileSystem.walkWith]
    cases hdir : fs.requireDirectory l with
    | error e =>
      -- the piece behind asks for the same directory
      rw [step_error hdir, FileSystem.walkWith, step_error hdir]
    | ok =>
      rw [step_idle hdir idle]
      dsimp only
      rw [link?_of_requireDirectory hdir]
      exact ih l

/-- A way with slashes and dots put in is the same way. -/
theorem Padded.walk (fs : FileSystem) (links : Nat) : ∀ l {ps qs : List String}, Padded ps qs →
    fs.walk true links l ps = fs.walk true links l qs := by
  induction links with
  | zero => exact fun l _ _ h => h.walkWith fs _ (fun _ _ _ _ => rfl) l
  | succ n ih => exact fun l _ _ h => h.walkWith fs _ (fun l _ _ h => ih l h) l

/-- A way that reaches something that is no directory does not go on from there. -/
theorem walk_append_error (fs : FileSystem) (links : Nat) {loc : Location} {e : FileError}
    (hloc : fs.requireDirectory loc = .error e) {behind : List String} (hbehind : behind ≠ []) :
    ∀ l ps, fs.walk true links l ps = .ok loc → fs.walk true links l (ps ++ behind) = .error e := by
  obtain ⟨piece, rest, rfl⟩ := List.exists_cons_of_ne_nil hbehind
  refine walk_append fs links fun follow => ?_
  rw [walkWith, step_error hloc]

/-! ## Names of a route -/

theorem isIdle_raw (cs : List Char) : isIdle (raw cs) = isIdle cs := by
  have hsame : ∀ other, raw other = other → (raw cs = other ↔ cs = other) := fun other hother =>
    ⟨fun h => raw_inj (h.trans hother.symm), fun h => h ▸ hother⟩
  unfold isIdle
  rw [Bool.eq_iff_iff]
  simp only [Bool.or_eq_true, beq_iff_eq]
  rw [hsame [] rfl, hsame ['.'] (by decide)]

/-- The names of a route are those of the path, as raw texts. -/
theorem filter_pieces {p : Path} {r : Route} (hr : p.route = .ok r) :
    r.pieces.filter (fun piece => !isIdle piece.toList) =
      (named p.text.toList).map fun piece => String.ofList (raw piece) := by
  rw [(route_ok hr).2, splitSlash_raw, List.map_map, List.filter_map]
  unfold named
  congr 2
  funext piece
  simp [isIdle_raw]

theorem origin_eq (fs : FileSystem) {p q : Path} {r s : Route} (hr : p.route = .ok r)
    (hs : q.route = .ok s) (h : q.isAbsolute = p.isAbsolute) : fs.origin s = fs.origin r := by
  have hraw : ∀ cs : List Char, ((raw cs).head? == some '/') = (cs.head? == some '/') := by
    intro cs
    cases cs with
    | nil => rfl
    | cons c rest =>
      rw [raw_cons, List.head?_append_of_ne_nil _ (rawChar_ne_nil c), List.head?_cons, Bool.eq_iff_iff,
        beq_iff_eq, beq_iff_eq, Option.some.injEq]
      constructor
      · exact fun hhead => (slash_mem_rawChar_iff c).mp (List.mem_of_head? hhead)
      · rintro rfl
        decide
  unfold origin
  rw [(route_ok hr).1, (route_ok hs).1, hraw, hraw]
  unfold isAbsolute at h
  rw [h]

/-! ## Files on the way -/

/-- Something that is there and is no directory. -/
def Obstacle (fs : FileSystem) (loc : Location) : Prop :=
  ∃ n, fs.node? loc = some n ∧ n.isDirectory = false

theorem Obstacle.requireDirectory {loc : Location} (h : fs.Obstacle loc) :
    fs.requireDirectory loc = .error .notDirectory := by
  obtain ⟨n, hn, hdir⟩ := h
  unfold FileSystem.requireDirectory
  rw [hn]
  dsimp only
  rw [hdir]
  rfl

theorem place_of_isFile {q : Path} (h : fs.isFile q = true) : ∃ s loc, q.route = .ok s ∧
    fs.locate s = .ok loc ∧ fs.Obstacle loc := by
  unfold isFile at h
  rw [stat_eq] at h
  unfold place at h
  cases hs : q.route with
  | error e => rw [hs] at h; cases h
  | ok s =>
    cases hloc : fs.locate s with
    | error e => rw [hs] at h; dsimp only [bind, Except.bind] at h; rw [hloc] at h; cases h
    | ok loc =>
      refine ⟨s, loc, rfl, hloc, ?_⟩
      rw [hs] at h
      dsimp only [bind, Except.bind] at h
      rw [hloc] at h
      dsimp only at h
      unfold found at h
      cases hn : fs.node? loc with
      | none =>
        -- a current directory that was removed is no file
        rw [hn] at h
        by_cases hhere : loc = fs.here
        · rw [if_pos hhere] at h
          exact absurd h (by decide)
        · rw [if_neg hhere] at h
          cases h
      | some n =>
        rw [hn] at h
        refine ⟨n, hn, ?_⟩
        rw [← Bool.not_eq_true]
        exact fun hdir => by simp [n.isOrdinary_of_isDirectory hdir] at h

/-- The way to something that is no directory ends in a name. -/
theorem walk_names {o loc : Location} {pieces : List String} (hpieces : pieces ≠ [])
    (h : fs.walk true linkLimit o pieces = .ok loc) (hloc : fs.Obstacle loc) :
    ∃ front last, pieces.filter (fun piece => !isIdle piece.toList) = front ++ [last] ∧
      fs.walk true linkLimit o (front ++ [last]) = .ok loc := by
  obtain ⟨init, last, rfl⟩ := (List.eq_nil_or_concat pieces).resolve_left hpieces
  rw [List.concat_eq_append] at h ⊢
  obtain ⟨parent, -, next, hstep, hend⟩ := walk_concat fs linkLimit _ _ _ _ h
  cases hidle : isIdle last.toList with
  | true =>
    -- the last piece would stay in a directory
    have hdir := (step_ok hstep).1
    rw [step_idle hdir hidle, Except.ok.injEq] at hstep
    subst hstep
    rw [hend (link?_of_requireDirectory hdir)] at hloc
    rw [hloc.requireDirectory] at hdir
    cases hdir
  | false =>
    refine ⟨_, last, by rw [List.filter_append, List.filter_singleton, hidle]; rfl, ?_⟩
    rw [← (padded_filter init (List.cons_ne_nil last [])).walk fs linkLimit o]
    exact h

/-- Pieces with some names have the first of them in a beginning. -/
theorem exists_pieces {pieces front more : List String} {last : String}
    (h : pieces.filter (fun piece => !isIdle piece.toList) = front ++ last :: more) : ∃ init rest,
      pieces = init ++ last :: rest ∧ init.filter (fun piece => !isIdle piece.toList) = front ∧
      isIdle last.toList = false := by
  obtain ⟨first, others, rfl, hfirst, hothers⟩ := List.filter_eq_append_iff.mp h
  obtain ⟨idle, rest, rfl, hidle, hlast, -⟩ := List.filter_eq_cons_iff.mp hothers
  refine ⟨first ++ idle, rest, by rw [List.append_assoc], ?_, by simpa using hlast⟩
  rw [List.filter_append, hfirst, List.filter_eq_nil_iff.mpr hidle, List.append_nil]

/-- The names of a path to a file lead to something that is no directory. -/
theorem names_of_isFile {q : Path} (h : fs.isFile q = true) : ∃ s front last loc, q.route = .ok s ∧
    (named q.text.toList).map (fun piece => String.ofList (raw piece)) = front ++ [last] ∧
    fs.walk true linkLimit (fs.origin s) (front ++ [last]) = .ok loc ∧ fs.Obstacle loc := by
  obtain ⟨s, loc, hs, hplace, hloc⟩ := place_of_isFile h
  have hpieces : s.pieces ≠ [] := by
    rw [(route_ok hs).2, ne_eq, List.map_eq_nil_iff]
    exact splitSlash_ne_nil _
  obtain ⟨front, last, hnames, hwalk⟩ := walk_names hpieces hplace hloc
  exact ⟨s, front, last, loc, hs, by rw [← filter_pieces hs, hnames], hwalk, hloc⟩

theorem text_ne_empty {p q : Path} (habove : q.IsAbove p) (hfile : fs.isFile q = true) :
    p.text ≠ "" := by
  intro hempty
  obtain ⟨-, front, last, -, -, hnames, -⟩ := names_of_isFile hfile
  have hnone := habove.names
  rw [hempty, show named "".toList = [] from rfl, List.prefix_nil] at hnone
  rw [hnone] at hnames
  simp at hnames

/-- The way of a path passes what stands at a name on it. -/
theorem exists_way {p q : Path} (habove : q.IsAbove p) (hfile : fs.isFile q = true) {r : Route}
    (hr : p.route = .ok r) : ∃ init last rest loc, r.pieces = init ++ last :: rest ∧ last ≠ "" ∧
      fs.walk true linkLimit (fs.origin r) (init ++ [last]) = .ok loc ∧ fs.Obstacle loc := by
  obtain ⟨s, front, last, loc, hs, hnames, hwalk, hloc⟩ := names_of_isFile hfile
  obtain ⟨more, hmore⟩ := habove.names
  have hall : r.pieces.filter (fun piece => !isIdle piece.toList) =
      front ++ last :: more.map fun piece => String.ofList (raw piece) := by
    rw [filter_pieces hr, ← hmore, List.map_append, hnames, List.append_assoc, List.singleton_append]
  obtain ⟨init, rest, hpieces, hinit, hlast⟩ := exists_pieces hall
  refine ⟨init, last, rest, loc, hpieces, ?_, ?_, hloc⟩
  · rintro rfl
    cases hlast
  · rw [(padded_filter init (List.cons_ne_nil last [])).walk fs linkLimit, hinit,
      ← origin_eq fs hr hs habove.absolute]
    exact hwalk

/-- Without the empty pieces behind it, a way still has the names in it. -/
theorem dropTrailing_append {last : String} (hlast : last ≠ "") (init rest : List String) :
    ∃ behind, ((init ++ last :: rest).reverse.dropWhile (· == "")).reverse =
      init ++ [last] ++ behind := by
  have hkept : (last :: init.reverse).dropWhile (· == "") = last :: init.reverse :=
    List.dropWhile_cons_of_neg (by simpa using hlast)
  have hrev : (init ++ last :: rest).reverse = rest.reverse ++ last :: init.reverse := by simp
  rw [hrev, List.dropWhile_append, hkept]
  split
  · exact ⟨[], by simp⟩
  · exact ⟨(rest.reverse.dropWhile (· == "")).reverse, by simp⟩

/-- A route that goes on behind something that is no directory ends there. -/
theorem locate_obstructed {r : Route} {init rest : List String} {last : String} {loc : Location}
    (hpieces : r.pieces = init ++ last :: rest) (hloc : fs.Obstacle loc)
    (hwalk : fs.walk true linkLimit (fs.origin r) (init ++ [last]) = .ok loc) :
    fs.locate r = .ok loc ∨ fs.locate r = .error .notDirectory := by
  unfold locate
  rw [hpieces, ← List.singleton_append, ← List.append_assoc]
  cases rest with
  | nil => exact .inl (by rw [List.append_nil, hwalk])
  | cons next more =>
    exact .inr (walk_append_error fs linkLimit hloc.requireDirectory (List.cons_ne_nil _ _) _ _ hwalk)

/-- Nothing new can be named behind something that is no directory, and its own name is taken. -/
theorem target_obstructed {r : Route} {init rest : List String} {last : String} {loc : Location}
    (hpieces : r.pieces = init ++ last :: rest) (hlast : last ≠ "") (hloc : fs.Obstacle loc)
    (hwalk : fs.walk true linkLimit (fs.origin r) (init ++ [last]) = .ok loc) :
    fs.target r = .error .notDirectory ∨ fs.target r = .ok .present ∨
      ∃ next slash, fs.target r = .ok (.entry next slash) ∧ (fs.node? next).isSome = true := by
  obtain ⟨behind, hbehind⟩ := dropTrailing_append hlast init rest
  rw [← hpieces] at hbehind
  rcases List.eq_nil_or_concat behind with rfl | ⟨front, final, rfl⟩
  · rw [List.append_nil] at hbehind
    rw [← hbehind] at hwalk
    rcases target_of_walk hwalk with hpresent | ⟨next, slash, hentry, hend⟩
    · exact .inr (.inl hpresent)
    · refine .inr (.inr ⟨next, slash, hentry, ?_⟩)
      cases hlink : fs.link? next with
      | some target => exact isSome_node?_of_link? hlink
      | none =>
        obtain ⟨n, hn, -⟩ := hloc
        rw [← hend hlink, hn]
        rfl
  · left
    rw [List.concat_eq_append, ← List.append_assoc] at hbehind
    unfold target
    dsimp only
    rw [hbehind, List.getLast?_concat, List.dropLast_concat]
    dsimp only [bind, Except.bind]
    cases front with
    | nil => rw [List.append_nil, hwalk]; dsimp only; rw [step_error hloc.requireDirectory]
    | cons next more =>
      rw [walk_append_error fs linkLimit hloc.requireDirectory (List.cons_ne_nil _ _) _ _ hwalk]

/-- What is taken, or has something in its way, is not made; and it is not missed either. -/
theorem makeDirectory_of_target {p : Path} {r : Route} (hr : p.route = .ok r)
    (h : fs.target r = .error .notDirectory ∨ fs.target r = .ok .present ∨
      ∃ next slash, fs.target r = .ok (.entry next slash) ∧ (fs.node? next).isSome = true) :
    ∃ e, e ≠ .notFound ∧ fs.makeDirectory p = .error e := by
  unfold makeDirectory make
  rw [hr]
  dsimp only [bind, Except.bind]
  rcases h with h | h | ⟨next, slash, h, htaken⟩
  · exact ⟨.notDirectory, by decide, by rw [h]⟩
  · exact ⟨.alreadyExists, by decide, by rw [h]⟩
  · refine ⟨.alreadyExists, by decide, ?_⟩
    rw [h]
    dsimp only
    rw [if_pos htaken]

/-- A path with a file on its way cannot be made a directory, and is none. -/
theorem makeDirectory_obstructed {p q : Path} (habove : q.IsAbove p) (hfile : fs.isFile q = true) :
    fs.isDirectory p = false ∧ ∃ e, e ≠ .notFound ∧ fs.makeDirectory p = .error e := by
  unfold isDirectory
  rw [stat_eq]
  unfold place
  cases hr : p.route with
  | error e =>
    refine ⟨rfl, e, ?_, ?_⟩
    · rintro rfl
      exact route_ne_notFound (text_ne_empty habove hfile) hr
    · unfold makeDirectory
      rw [hr]
      rfl
  | ok r =>
    obtain ⟨init, last, rest, loc, hpieces, hlast, hwalk, hloc⟩ := exists_way habove hfile hr
    refine ⟨?_, makeDirectory_of_target hr (target_obstructed hpieces hlast hloc hwalk)⟩
    dsimp only [bind, Except.bind]
    rcases locate_obstructed hpieces hloc hwalk with hplace | hplace
    · obtain ⟨n, hn, hdir⟩ := hloc
      rw [hplace]
      dsimp only
      unfold found
      rw [hn]
      exact hdir
    · rw [hplace]

/-- No ancestor is tried for a directory that is refused without being missed. -/
theorem makeLineage_refused {p : Path} {up : List Path} {e : FileError} (hnonempty : p.text ≠ "")
    (hmissed : e ≠ .notFound) (h : fs.makeDirectory p = .error e) :
    makeLineage (p :: up) fs = (if fs.isDirectory p = true then none else some e, fs) := by
  unfold makeLineage
  rw [if_neg hnonempty, h]
  split
  · next heq => cases heq
  · next heq => cases heq; exact absurd rfl hmissed
  · next heq => cases heq; split <;> rfl

/-- **With a file on its way a path is not made, and no ancestor of it either.** -/
theorem makeTree_obstructed {p q : Path} (habove : q.IsAbove p) (hfile : fs.isFile q = true) :
    ∃ e, fs.makeTree p = (some e, fs) := by
  obtain ⟨hdir, e, hmissed, hrefused⟩ := makeDirectory_obstructed habove hfile
  obtain ⟨up, hup⟩ := lineage_eq_cons p
  refine ⟨e, ?_⟩
  unfold makeTree
  rw [hup, makeLineage_refused (text_ne_empty habove hfile) hmissed hrefused, hdir]
  rfl

/-! ## Made once more -/

theorem Leads.target (h : Leads fs fs') {r : Route} {t : Target} (ht : fs.target r = .ok t) :
    fs'.target r = .ok t := by
  have horigin : fs'.origin r = fs.origin r := by
    unfold origin
    rw [h.here]
  unfold FileSystem.target at ht ⊢
  dsimp only at ht ⊢
  rw [horigin]
  split at ht
  · exact ht
  · obtain ⟨parent, hparent, ht⟩ := bind_ok ht
    obtain ⟨loc, hstep, ht⟩ := bind_ok ht
    rw [h.walk true linkLimit _ _ _ hparent]
    dsimp only [bind, Except.bind]
    rw [h.step _ _ _ hstep]
    exact ht

theorem makeDirectory_made {p : Path} (h : fs.makeDirectory p = .ok fs') :
    ∃ e, e ≠ .notFound ∧ fs'.makeDirectory p = .error e := by
  obtain ⟨r, loc, slash, hr, ht, hloc, hnone, rfl⟩ := makeDirectory_ok h
  refine makeDirectory_of_target hr (.inr (.inr ⟨loc, slash, (leads_put hloc hnone).target ht, ?_⟩))
  rw [node?_put_newDirectory hloc]
  rfl

/-- Once made, a directory is there the next time. -/
theorem makeLineage_made {p : Path} (hnonempty : p.text ≠ "") (h : fs.makeDirectory p = .ok fs')
    (up : List Path) : makeLineage (p :: up) fs' = (none, fs') := by
  obtain ⟨e, hmissed, hrefused⟩ := makeDirectory_made h
  rw [makeLineage_refused hnonempty hmissed hrefused, if_pos (isDirectory_makeDirectory h)]

theorem makeLineage_attempt {p : Path} {up : List Path} (hnonempty : p.text ≠ "")
    (hup : makeLineage up fs = (none, fs)) (h : fs.attempt p = .ok fs') :
    makeLineage (p :: up) fs' = (none, fs') := by
  have hattempt := h
  unfold attempt at h
  split at h
  · next hmade =>
    cases h
    exact makeLineage_made hnonempty hmade up
  next e hrefused =>
  split at h
  · next hdir =>
    cases h
    by_cases hmissed : e = .notFound
    · -- a directory that was missed all the same is missed again, and found at the second attempt
      rw [makeLineage, if_neg hnonempty, hrefused, hmissed]
      dsimp only
      rw [hup]
      dsimp only
      rw [hattempt]
    · rw [makeLineage_refused hnonempty hmissed hrefused, if_pos hdir]
  · cases h

/-- A lineage that was made is not made again. -/
theorem makeLineage_again (paths : List Path) : ∀ fs fs', makeLineage paths fs = (none, fs') →
    makeLineage paths fs' = (none, fs') := by
  induction paths with
  | nil => exact fun _ _ _ => rfl
  | cons p up ih =>
    intro fs fs' h
    rw [makeLineage] at h
    split at h
    · next hempty => rw [makeLineage, if_pos hempty]
    next hnonempty =>
    split at h
    · next hmade =>
      cases h
      exact makeLineage_made hnonempty hmade up
    · split at h
      · cases h
      next between hup =>
      split at h
      · next hattempt =>
        cases h
        exact makeLineage_attempt hnonempty (ih fs between hup) hattempt
      · cases h
    · next e hmissed hrefused =>
      split at h
      · next hdir =>
        cases h
        rw [makeLineage_refused hnonempty (fun he => hmissed (he ▸ rfl)) hrefused, if_pos hdir]
      · cases h

end FileSystem

/-! ## The directory for artifacts -/

open FileSystem

theorem prepareOutput_eq (fs : FileSystem) (dir : Path) : prepareOutput fs dir =
    ((fs.makeTree dir).1.elim (.ok ()) fun e => .error (.artifactWrite dir e.message),
      (fs.makeTree dir).2) := by
  unfold prepareOutput
  split
  · next hmade =>
    rw [hmade]
    rfl
  · next hmade =>
    rw [hmade]
    rfl

/-- **Preparing a directory keeps what is there and makes the directory with its ancestors, once.** -/
theorem prepareOutput_safely (fs : FileSystem) (dir : Path) : PreparesSafely fs dir where
  parent up hup := ⟨(parent?_text hup).2, lineage_of_parent? hup⟩
  top := lineage_of_none
  ancestors q := isAbove_of_mem_lineage
  keeps := by
    rw [prepareOutput_eq]
    exact fs.keeps_makeTree dir
  done fs' h := by
    have hmade : fs.makeTree dir = (none, fs') := by
      unfold prepareOutput at h
      split at h
      · next htree =>
        cases h
        exact htree
      · cases h
    refine ⟨isDirectory_makeTree hmade, fun l n hnone hn => ?_, ?_⟩
    · have hnew := fs.made_makeTree dir
      rw [hmade] at hnew
      exact hnew.new hnone hn
    · rw [prepareOutput_eq, show fs'.makeTree dir = (none, fs') from makeLineage_again _ fs fs' hmade]
      rfl
  refused e fs' h := by
    unfold prepareOutput at h
    split at h
    · cases h
    · next reason between htree =>
      cases h
      refine ⟨⟨reason.message, rfl⟩, fun l n hnone hn => ?_⟩
      have hnew := (made_makeLineage (lineage dir) fs).2
      unfold makeTree at htree
      rw [htree] at hnew
      exact (hnew (Option.some_ne_none reason)).new hnone hn
  obstructed q habove hfile := by
    obtain ⟨e, htree⟩ := makeTree_obstructed habove hfile
    exact ⟨e.message, by rw [prepareOutput_eq, htree]; rfl⟩

/-- A file that is met behind dots, and a directory with dots in its path that is made once. -/
theorem prepareOutput_safely_dots :
    let own : FileSystem := FileSystem.put { here := ["w"] } ["w"] { matter := .directory, mode := 0o755 }
    let blocked := own.put ["w", "f"] { matter := .file [], mode := 0o644 }
    (∃ reason, prepareOutput blocked ⟨"./f//../x"⟩ =
      (.error (.artifactWrite ⟨"./f//../x"⟩ reason), blocked)) ∧
    ∃ fs', prepareOutput own ⟨"a//./b/../c"⟩ = (.ok (), fs') ∧ fs'.isDirectory ⟨"a/c"⟩ = true ∧
      prepareOutput fs' ⟨"a//./b/../c"⟩ = (.ok (), fs') := by
  intro own blocked
  have hok : (prepareOutput own ⟨"a//./b/../c"⟩).1 = .ok () := by decide +kernel
  have hdir : (prepareOutput own ⟨"a//./b/../c"⟩).2.isDirectory ⟨"a/c"⟩ = true := by decide +kernel
  refine ⟨(prepareOutput_safely blocked ⟨"./f//../x"⟩).obstructed ⟨"f"⟩ ⟨rfl, by decide⟩
    (by decide +kernel), ?_⟩
  cases hmade : prepareOutput own ⟨"a//./b/../c"⟩ with
  | mk result fs' =>
    rw [hmade] at hok hdir
    cases hok
    exact ⟨fs', rfl, hdir, ((prepareOutput_safely own ⟨"a//./b/../c"⟩).done fs' hmade).2.2⟩

end HardenAudit
