import HardenAudit.FileSystem.Tree
import HardenAudit.Proofs.Containment

/-!
# The ancestors of a path

The parent of a path is a beginning of its text that has one component less.  So a parent is shorter, and
going from parent to parent ends at a path that has none; all paths on the way are ancestors component by
component, with as many slashes and single dots between the components as there were.

    an anchor and some pieces behind it have the names of the pieces   (named_anchor)
    a parent is a shorter beginning with fewer names                   (parent?_text, parent?_isAbove)
    a lineage is a path before the lineage of its parent               (lineage_of_parent?)
-/

namespace HardenAudit

/-! ## Algorithm -/

namespace Path

/-- The pieces of a text that are a name or go up. -/
def named (cs : List Char) : List (List Char) := (splitSlash cs).filter fun piece => !isIdle piece

/-- A path is another one or an ancestor of it, component by component. -/
structure IsAbove (q p : Path) : Prop where
  absolute : q.isAbsolute = p.isAbsolute
  names : named q.text.toList <+: named p.text.toList

example : IsAbove ⟨"d/..//f"⟩ ⟨"d/.././f/x"⟩ := ⟨rfl, by decide⟩

/-! ## Names in a text -/

theorem joinSlash_cons (piece : List Char) (pieces : List (List Char)) :
    joinSlash (piece :: pieces) = piece ++ pieces.flatMap ('/' :: ·) := by
  unfold joinSlash
  induction pieces generalizing piece with
  | nil => simp
  | cons next rest ih => rw [List.intercalate_cons_cons, ih next]; simp

theorem joinSlash_splitSlash (cs : List Char) : joinSlash (splitSlash cs) = cs := by
  induction cs with
  | nil => rfl
  | cons c rest ih =>
    obtain ⟨piece, pieces, h⟩ := exists_splitSlash_eq rest
    rw [h, joinSlash_cons] at ih
    rw [splitSlash_cons c h]
    split
    · next hc => rw [joinSlash_cons, List.flatMap_cons, List.nil_append, List.cons_append, ih, hc]
    · rw [joinSlash_cons, List.cons_append, ih]

theorem joinSlash_isPrefix {xs ys : List (List Char)} (h : xs <+: ys) : joinSlash xs <+: joinSlash ys := by
  obtain ⟨zs, rfl⟩ := h
  cases xs with
  | nil => exact List.nil_prefix
  | cons x xs =>
    rw [List.cons_append, joinSlash_cons, joinSlash_cons, List.flatMap_append, ← List.append_assoc]
    exact List.prefix_append _ _

theorem named_append_slash (xs ys : List Char) : named (xs ++ '/' :: ys) = named xs ++ named ys := by
  unfold named
  rw [splitSlash_append_slash, List.filter_append]

theorem named_joinSlash (pieces : List (List Char)) (h : ∀ piece ∈ pieces, '/' ∉ piece) :
    named (joinSlash pieces) = pieces.filter fun piece => !isIdle piece := by
  induction pieces with
  | nil => rfl
  | cons piece rest ih =>
    obtain ⟨hpiece, hrest⟩ := List.forall_mem_cons.mp h
    have hone : named piece = [piece].filter fun piece => !isIdle piece := by
      unfold named
      rw [splitSlash_eq_singleton hpiece]
    cases rest with
    | nil => rw [joinSlash_cons, List.flatMap_nil, List.append_nil, hone]
    | cons next more =>
      have hsplit : joinSlash (piece :: next :: more) = piece ++ '/' :: joinSlash (next :: more) := by
        rw [joinSlash_cons, joinSlash_cons, List.flatMap_cons, List.cons_append]
      rw [hsplit, named_append_slash, ih hrest, hone, ← List.filter_append, List.singleton_append]

theorem exists_idle (pieces : List (List Char)) :
    ∃ idle, pieces = trimIdle pieces ++ idle ∧ ∀ piece ∈ idle, isIdle piece = true := by
  refine ⟨(pieces.reverse.takeWhile isIdle).reverse, ?_, fun piece hp => ?_⟩
  · unfold trimIdle
    rw [← List.reverse_append, List.takeWhile_append_dropWhile, List.reverse_reverse]
  · exact List.all_eq_true.mp List.all_takeWhile piece (List.mem_reverse.mp hp)

theorem trimIdle_isPrefix (pieces : List (List Char)) : trimIdle pieces <+: pieces := by
  obtain ⟨idle, hidle, -⟩ := exists_idle pieces
  exact ⟨idle, hidle.symm⟩

theorem filter_trimIdle (pieces : List (List Char)) :
    (trimIdle pieces).filter (fun piece => !isIdle piece) =
      pieces.filter fun piece => !isIdle piece := by
  obtain ⟨idle, hidle, hall⟩ := exists_idle pieces
  have hnone : idle.filter (fun piece => !isIdle piece) = [] := by simpa using hall
  conv_rhs => rw [hidle, List.filter_append, hnone, List.append_nil]

/-! ## Parents -/

theorem anchor_append (cs : List Char) : (anchor cs).1 ++ (anchor cs).2 = cs := by
  unfold anchor
  split <;> rfl

/-- Behind an anchor, the first pieces have the names that they have on their own. -/
theorem named_anchor (cs : List Char) {pieces : List (List Char)}
    (h : pieces <+: splitSlash (anchor cs).2) :
    named ((anchor cs).1 ++ joinSlash pieces) = pieces.filter fun piece => !isIdle piece := by
  have hslash : ∀ piece ∈ pieces, '/' ∉ piece := fun piece hp =>
    slash_not_mem_of_mem_splitSlash _ piece (h.subset hp)
  -- a dot in front of an empty first piece is a piece of its own
  have hdot : pieces.head?.all (· == []) = true →
      named ('.' :: joinSlash pieces) = pieces.filter fun piece => !isIdle piece := by
    intro hfirst
    cases pieces with
    | nil => rfl
    | cons first rest =>
      obtain rfl : first = [] := by simpa using hfirst
      have hall : ∀ piece ∈ ['.'] :: rest, '/' ∉ piece :=
        List.forall_mem_cons.mpr ⟨by decide, (List.forall_mem_cons.mp hslash).2⟩
      rw [joinSlash_cons, List.nil_append, ← List.singleton_append, ← joinSlash_cons,
        named_joinSlash _ hall]
      rfl
  unfold anchor at h ⊢
  split at h
  · exact (named_append_slash [] _).trans (named_joinSlash pieces hslash)
  · refine hdot ?_
    cases pieces with
    | nil => rfl
    | cons first rest =>
      rw [show splitSlash [] = [[]] from rfl, List.cons_prefix_cons] at h
      simp [h.1]
  · next rest =>
    refine hdot ?_
    cases pieces with
    | nil => rfl
    | cons first more =>
      rw [show splitSlash ('/' :: rest) = [] :: splitSlash rest from splitSlash_append_slash [] rest,
        List.cons_prefix_cons] at h
      simp [h.1]
  · exact named_joinSlash pieces hslash

theorem named_body (p : Path) :
    named p.text.toList = p.body.filter fun piece => !isIdle piece := by
  have h := named_anchor p.text.toList (List.prefix_refl _)
  rw [joinSlash_splitSlash, anchor_append] at h
  rw [h, body, filter_trimIdle]

/-- A parent is the text of a path without its last component, or empty. -/
theorem parent?_cases {p up : Path} (h : p.parent? = some up) :
    (p.body = [] ∧ (anchor p.text.toList).1 = ['.'] ∧ up.text = "") ∨
    p.body ≠ [] ∧ up.text.toList = (anchor p.text.toList).1 ++ joinSlash (trimIdle p.body.dropLast) := by
  unfold parent? at h
  dsimp only at h
  split at h
  · next hbody =>
    split at h
    · next hdot =>
      cases h
      exact .inl ⟨hbody, hdot, rfl⟩
    · cases h
  · next hbody =>
    cases h
    exact .inr ⟨hbody, String.toList_ofList⟩

theorem dropLast_body_isPrefix (p : Path) :
    trimIdle p.body.dropLast <+: splitSlash (anchor p.text.toList).2 :=
  ((trimIdle_isPrefix _).trans (List.dropLast_prefix _)).trans (trimIdle_isPrefix _)

/-- A parent is a beginning of the path, and is not all of it. -/
theorem parent?_text {p up : Path} (h : p.parent? = some up) :
    up.text.toList <+: p.text.toList ∧ up.text.length < p.text.length := by
  rcases parent?_cases h with ⟨-, hdot, hup⟩ | ⟨hbody, hup⟩
  · have htext : p.text.toList ≠ [] := by
      rw [← anchor_append p.text.toList, hdot]
      simp
    rw [hup]
    refine ⟨List.nil_prefix, ?_⟩
    rw [← String.length_toList (s := p.text)]
    exact List.length_pos_iff.mpr htext
  · have hbegin : up.text.toList <+: p.text.toList := by
      conv_rhs => rw [← anchor_append p.text.toList, ← joinSlash_splitSlash (anchor p.text.toList).2]
      rw [hup, List.prefix_append_right_inj]
      exact joinSlash_isPrefix (dropLast_body_isPrefix p)
    refine ⟨hbegin, Nat.lt_of_not_le fun hle => ?_⟩
    -- the last component is missing, so the texts differ
    have hsame : up.text.toList = p.text.toList := hbegin.eq_of_length_le (by
      rwa [String.length_toList, String.length_toList])
    have hnames := congrArg named hsame
    obtain ⟨last, hlast⟩ := Option.isSome_iff_exists.mp (List.getLast?_isSome.mpr hbody)
    obtain ⟨front, hfront⟩ := List.getLast?_eq_some_iff.mp hlast
    have hidle : isIdle last = false := isIdle_getLast?_trimIdle hlast
    rw [hup, named_anchor _ (dropLast_body_isPrefix p), filter_trimIdle, named_body, hfront,
      List.dropLast_concat, List.filter_append] at hnames
    simp [hidle] at hnames

theorem parent?_isAbove {p up : Path} (h : p.parent? = some up) : up.IsAbove p := by
  have hbegin := (parent?_text h).1
  constructor
  · unfold isAbsolute
    by_cases hnil : up.text.toList = []
    · -- a parent with no text has no slash in front of it, and then the path has none either
      have hanchor : (anchor p.text.toList).1 ≠ ['/'] := by
        rcases parent?_cases h with ⟨-, hdot, -⟩ | ⟨-, hup⟩
        · rw [hdot]
          simp
        · intro hroot
          rw [hup, hroot] at hnil
          cases hnil
      have hhead : p.text.toList.head? ≠ some '/' := by
        intro hhead
        obtain ⟨rest, hrest⟩ := List.head?_eq_some_iff.mp hhead
        rw [hrest] at hanchor
        exact hanchor rfl
      rw [hnil, beq_false_of_ne hhead]
      rfl
    · obtain ⟨more, hmore⟩ := hbegin
      rw [← hmore, List.head?_append_of_ne_nil _ hnil]
  · rcases parent?_cases h with ⟨-, -, hup⟩ | ⟨-, hup⟩
    · rw [hup]
      exact List.nil_prefix
    · rw [hup, named_anchor _ (dropLast_body_isPrefix p), filter_trimIdle, named_body]
      exact (List.dropLast_prefix _).filter _

theorem IsAbove.refl (p : Path) : p.IsAbove p := ⟨rfl, List.prefix_refl _⟩

theorem IsAbove.trans {q p o : Path} (h : q.IsAbove p) (h' : p.IsAbove o) : q.IsAbove o :=
  ⟨h.absolute.trans h'.absolute, h.names.trans h'.names⟩

end Path

namespace FileSystem

open Path

/-! ## Lineages -/

theorem lineageFrom_of_none {p : Path} (h : p.parent? = none) (n : Nat) : lineageFrom n p = [p] := by
  cases n with
  | zero => rfl
  | succ n => rw [lineageFrom, h]

/-- As many steps as a path has characters are enough. -/
theorem lineageFrom_succ (n : Nat) : ∀ p : Path, p.text.length ≤ n →
    lineageFrom (n + 1) p = lineageFrom n p := by
  induction n with
  | zero =>
    intro p hp
    cases h : p.parent? with
    | none => rw [lineageFrom_of_none h, lineageFrom_of_none h]
    | some up => exact absurd (parent?_text h).2 (by omega)
  | succ n ih =>
    intro p hp
    cases h : p.parent? with
    | none => rw [lineageFrom_of_none h, lineageFrom_of_none h]
    | some up =>
      have hshorter := (parent?_text h).2
      rw [lineageFrom, h, lineageFrom, h]
      dsimp only
      rw [ih up (by omega)]

theorem lineageFrom_eq {n : Nat} {p : Path} (h : p.text.length ≤ n) : lineageFrom n p = lineage p := by
  obtain ⟨k, rfl⟩ := Nat.exists_eq_add_of_le h
  induction k with
  | zero => rfl
  | succ k ih => exact (lineageFrom_succ _ p (Nat.le_add_right _ k)).trans (ih (Nat.le_add_right _ k))

/-- **A lineage goes on with that of the parent**, and ends only where there is no parent. -/
theorem lineage_of_parent? {p up : Path} (h : p.parent? = some up) : lineage p = p :: lineage up := by
  have hshorter := (parent?_text h).2
  obtain ⟨n, hn⟩ := Nat.exists_eq_succ_of_ne_zero (Nat.ne_zero_of_lt hshorter)
  rw [lineage, hn, lineageFrom, h]
  dsimp only
  rw [lineageFrom_eq (by omega)]

example : lineage ⟨"./d//e/."⟩ = [⟨"./d//e/."⟩, ⟨"./d"⟩, ⟨"."⟩, ⟨""⟩] := by decide

theorem lineage_of_none {p : Path} (h : p.parent? = none) : lineage p = [p] := lineageFrom_of_none h _

theorem isAbove_of_mem_lineageFrom {q : Path} (n : Nat) : ∀ p : Path, q ∈ lineageFrom n p → q.IsAbove p := by
  induction n with
  | zero =>
    intro p hq
    rw [List.mem_singleton.mp hq]
    exact .refl p
  | succ n ih =>
    intro p hq
    unfold lineageFrom at hq
    split at hq
    · rw [List.mem_singleton.mp hq]
      exact .refl p
    · next up h =>
      rcases List.mem_cons.mp hq with rfl | hq
      · exact .refl q
      · exact (ih up hq).trans (parent?_isAbove h)

theorem isAbove_of_mem_lineage {p q : Path} (h : q ∈ lineage p) : q.IsAbove p :=
  isAbove_of_mem_lineageFrom _ p h

end FileSystem
end HardenAudit
