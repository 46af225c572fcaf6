import HardenAudit.Proofs.Additivity

/-!
# Markers do not overlap

Two patterns that stand apart can nowhere overlap: no end of one is a start of the other, and neither lies
within the other.  The four markers stand apart from each other, though three of them end in the same word.
So the places where they are found are disjoint, and a text has no more of them than fit side by side.  A
marker that is put between two texts makes no other one at its two borders, and it breaks none but those
that lay across.

    patterns that stand apart are found at disjoint places             (Apart.add_length_le)
    no pattern lies across the border of one that it stands apart from (Apart.not_straddles_before,
                                                                        Apart.not_straddles_behind)
    a marker that is put in adds itself and nothing else               (startCount_insert)
    markers fit side by side into the text                             (weight_le_length)
-/

namespace HardenAudit

namespace Text

variable {α : Type} {p q t x y : List α}

/-! ## Patterns that stand apart -/

/-- Wherever a second pattern starts within the first one, one of the two does not fit.  A pattern stands
apart from itself if only the whole of it starts at its start. -/
def Apart (p q : List α) : Prop :=
  ∀ k < p.length, (k = 0 → p ≠ q) → ¬ p.drop k <+: q ∧ ¬ q <+: p.drop k

instance [DecidableEq α] : Decidable (Apart p q) :=
  inferInstanceAs (Decidable (∀ k < p.length, (k = 0 → p ≠ q) → ¬ p.drop k <+: q ∧ ¬ q <+: p.drop k))

/-- Of two patterns that stand apart, one that starts behind the other starts behind its end. -/
theorem Apart.add_length_le (h : Apart p q) {i j : Nat} (hp : p <+: t.drop i) (hq : q <+: t.drop j)
    (hij : i ≤ j) (hne : i = j → p ≠ q) : i + p.length ≤ j := by
  apply Nat.le_of_not_lt
  intro hlt
  have hend : p.drop (j - i) <+: t.drop j := by
    obtain ⟨u, hu⟩ := hp
    rw [← Nat.add_sub_cancel' hij, ← List.drop_drop, ← hu, Nat.add_sub_cancel_left,
      List.drop_append_of_le_length (by omega)]
    exact List.prefix_append _ _
  obtain ⟨hdrop, hwithin⟩ := h (j - i) (by omega) (fun hk => hne (by omega))
  rcases List.prefix_or_prefix_of_prefix hend hq with hle | hle
  · exact hdrop hle
  · exact hwithin hle

/-- A pattern cannot reach into a text from in front, if this text starts with one that it stands apart
from. -/
theorem Apart.not_straddles_before (h : Apart q p) : ¬ Straddles q x (p ++ y) := by
  rintro ⟨u, v, rfl, hu, hv, -, hstarts⟩
  have hupos : 0 < u.length := List.length_pos_iff.mpr hu
  have hvpos : 0 < v.length := List.length_pos_iff.mpr hv
  obtain ⟨hdrop, hwithin⟩ := h u.length (by rw [List.length_append]; omega) (fun hk => by omega)
  rw [List.drop_left] at hdrop hwithin
  rcases List.prefix_or_prefix_of_prefix hstarts (List.prefix_append p y) with hle | hle
  · exact hdrop hle
  · exact hwithin hle

/-- Nor can it reach out of a text that ends with such a pattern. -/
theorem Apart.not_straddles_behind (h : Apart p q) (h' : Apart q p) : ¬ Straddles q (x ++ p) y := by
  rintro ⟨u, v, rfl, hu, hv, hends, -⟩
  have hupos : 0 < u.length := List.length_pos_iff.mpr hu
  have hvpos : 0 < v.length := List.length_pos_iff.mpr hv
  rcases List.suffix_or_suffix_of_suffix hends (List.suffix_append x p) with ⟨w, rfl⟩ | ⟨w, rfl⟩
  · -- the part in front of the border is an end of the pattern there
    have hne : w.length = 0 → w ++ u ≠ u ++ v := by
      intro hw heq
      have hlen := congrArg List.length heq
      simp only [List.length_append] at hlen
      omega
    refine (h w.length (by rw [List.length_append]; omega) hne).1 ?_
    rw [List.drop_left]
    exact List.prefix_append u v
  · -- that pattern lies within the part in front of the border
    have hne : w.length = 0 → w ++ p ++ v ≠ p := by
      intro hw heq
      have hlen := congrArg List.length heq
      simp only [List.length_append] at hlen
      omega
    refine (h' w.length (by simp only [List.length_append]; omega) hne).2 ?_
    rw [List.append_assoc, List.drop_left]
    exact List.prefix_append p v

/-! ## Places across a border -/

variable [BEq α] [LawfulBEq α]

/-- A pattern lies across a border if it is found at a place in front of it and ends behind it. -/
theorem straddles_iff_exists_mem_positions : Straddles p x y ↔
    ∃ i ∈ positions p (x ++ y), i < x.length ∧ x.length < i + p.length := by
  constructor
  · rintro ⟨u, v, rfl, hu, hv, ⟨w, rfl⟩, hstarts⟩
    have hupos : 0 < u.length := List.length_pos_iff.mpr hu
    have hvpos : 0 < v.length := List.length_pos_iff.mpr hv
    refine ⟨w.length, (mem_positions _ _ _).mpr ⟨?_, ?_⟩, ?_, ?_⟩
    · simp only [List.length_append]
      omega
    · rw [List.append_assoc, List.drop_left]
      exact (List.prefix_append_right_inj u).mpr hstarts
    · rw [List.length_append]
      omega
    · simp only [List.length_append]
      omega
  · rintro ⟨i, hi, hlt, hend⟩
    obtain ⟨-, hfound⟩ := (mem_positions _ _ _).mp hi
    rw [List.drop_append_of_le_length (Nat.le_of_lt hlt)] at hfound
    rcases prefix_append_iff.mp hfound with hwithin | ⟨v, hv, hwhole, hstarts⟩
    · have hlen := hwithin.length_le
      rw [List.length_drop] at hlen
      omega
    · refine ⟨x.drop i, v, hwhole.symm, ?_, hv, List.drop_suffix i x, hstarts⟩
      intro hnil
      have hlen := congrArg List.length hnil
      rw [List.length_drop, List.length_nil] at hlen
      omega

end Text

namespace Category

open Text (Apart Straddles positions startCount)

/-! ## Markers -/

/-- The places of a text where the marker of a category is found. -/
def places (c : Category) (text : String) : List Nat := positions c.marker.toList text.toList

theorem marker_apart (c d : Category) : Apart c.marker.toList d.marker.toList := by
  cases c <;> cases d <;> decide

/-- A marker holds itself and no other one. -/
theorem startCount_marker (c k : Category) :
    startCount c.marker.toList k.marker.toList = if c = k then 1 else 0 := by
  cases c <;> cases k <;> decide

/-- A marker that is put between two texts adds itself to what they hold together, if it breaks no marker
of the category that is counted. -/
theorem startCount_insert (c k : Category) {x y : List Char} (h : ¬ Straddles c.marker.toList x y) :
    startCount c.marker.toList (x ++ (k.marker.toList ++ y)) =
      startCount c.marker.toList (x ++ y) + if c = k then 1 else 0 := by
  have hb := c.marker_borderless
  have hne := c.marker_ne_nil
  have hbefore : ¬ Straddles c.marker.toList x (k.marker.toList ++ y) :=
    (marker_apart c k).not_straddles_before
  have hbehind : ¬ Straddles c.marker.toList k.marker.toList y := by
    have hjoined := (marker_apart k c).not_straddles_behind (x := []) (y := y) (marker_apart c k)
    rwa [List.nil_append] at hjoined
  rw [hb.startCount_append hne, hb.startCount_append hne, hb.startCount_append hne, if_neg hbefore,
    if_neg hbehind, if_neg h, startCount_marker]
  omega

/-- The characters that the markers of a text take together. -/
def weight (t : List Char) : Nat :=
  18 * startCount (marker .conditionalBranch).toList t + 16 * startCount (marker .load).toList t +
    17 * startCount (marker .store).toList t + 34 * startCount (marker .vulnerableInstruction).toList t

/-- A marker in front of a text adds its length to the weight. -/
theorem weight_marker_append (k : Category) (t : List Char) :
    weight (k.marker.toList ++ t) = k.marker.toList.length + weight t := by
  have hinsert : ∀ c : Category, startCount c.marker.toList (k.marker.toList ++ t) =
      startCount c.marker.toList t + if c = k then 1 else 0 := fun c =>
    startCount_insert c k (x := []) Text.not_straddles_nil
  have hlength : (marker .conditionalBranch).toList.length = 18 ∧ (marker .load).toList.length = 16 ∧
      (marker .store).toList.length = 17 ∧ (marker .vulnerableInstruction).toList.length = 34 := by decide
  unfold weight
  rw [hinsert, hinsert, hinsert, hinsert]
  cases k <;> simp only [hlength, reduceCtorEq, if_true, if_false] <;> omega

/-- A character with which no marker starts adds nothing. -/
theorem weight_cons {x : Char} {rest : List Char}
    (h : ∀ k : Category, ¬ k.marker.toList <+: x :: rest) : weight (x :: rest) = weight rest := by
  have hcount : ∀ k : Category, startCount k.marker.toList (x :: rest) = startCount k.marker.toList rest := by
    intro k
    rw [startCount, if_neg (fun hk => h k (List.isPrefixOf_iff_prefix.mp hk)), Nat.zero_add]
  unfold weight
  rw [hcount, hcount, hcount, hcount]

/-- All markers of a text fit into it side by side. -/
theorem weight_le_length (t : List Char) : weight t ≤ t.length := by
  -- over the length of the text, since a marker at its start is left out as a whole
  induction hn : t.length using Nat.strongRecOn generalizing t with
  | ind n ih =>
    subst hn
    by_cases hstarts : ∃ k : Category, k.marker.toList <+: t
    · obtain ⟨k, rest, rfl⟩ := hstarts
      have hpos : 0 < k.marker.toList.length := List.length_pos_iff.mpr k.marker_ne_nil
      have hrest := ih rest.length (by rw [List.length_append]; omega) rest rfl
      rw [weight_marker_append, List.length_append]
      omega
    · cases t with
      | nil => decide
      | cons x rest =>
        have hrest := ih rest.length (by rw [List.length_cons]; omega) rest rfl
        rw [weight_cons fun k hk => hstarts ⟨k, hk⟩, List.length_cons]
        omega

/-! ## Places and counts -/

theorem length_places (c : Category) (text : String) :
    (c.places text).length = startCount c.marker.toList text.toList := Text.length_positions _ _

/-- Places where markers are found are disjoint, for one category and for two. -/
theorem places_disjoint {text : String} {c d : Category} {i j : Nat} (hi : i ∈ c.places text)
    (hj : j ∈ d.places text) (hne : (c, i) ≠ (d, j)) :
    i + c.marker.length ≤ j ∨ j + d.marker.length ≤ i := by
  obtain ⟨-, hfound⟩ := (Text.mem_positions _ _ _).mp hi
  obtain ⟨-, hfound'⟩ := (Text.mem_positions _ _ _).mp hj
  have hmarker : i = j → c.marker.toList ≠ d.marker.toList := by
    rintro rfl heq
    have hcd : c = d := by
      revert heq
      cases c <;> cases d <;> decide
    exact hne (by rw [hcd])
  rw [← String.length_toList, ← String.length_toList]
  rcases Nat.le_total i j with hij | hji
  · exact .inl ((marker_apart c d).add_length_le hfound hfound' hij hmarker)
  · exact .inr ((marker_apart d c).add_length_le hfound' hfound hji fun h => (hmarker h.symm).symm)

/-- What becomes of the places and of the counts of a category when the marker of another one, or its own,
is put between two texts. -/
structure GainsOnly (c k : Category) (x y : String) : Prop where
  places : (c.places (x ++ k.marker ++ y)).length = (c.places (x ++ y)).length + if c = k then 1 else 0
  occurrences : c.occurrences (x ++ k.marker ++ y) = c.occurrences (x ++ y) + if c = k then 1 else 0
  counts : ∀ keys, (Counts.count (x ++ k.marker ++ y) keys).get? c =
    ((Counts.count (x ++ y) keys).get? c).map (· + if c = k then 1 else 0)

theorem gainsOnly (c k : Category) {x y : String} (h : ¬ Straddles c.marker.toList x.toList y.toList) :
    GainsOnly c k x y := by
  have hplaces : (c.places (x ++ k.marker ++ y)).length =
      (c.places (x ++ y)).length + if c = k then 1 else 0 := by
    rw [length_places, length_places, String.toList_append, String.toList_append, String.toList_append,
      List.append_assoc]
    exact c.startCount_insert k h
  have hoccurrences : c.occurrences (x ++ k.marker ++ y) =
      c.occurrences (x ++ y) + if c = k then 1 else 0 := by
    apply UInt32.toNat_inj.mp
    rw [UInt32.toNat_add, c.toNat_occurrences, c.toNat_occurrences]
    show (c.places _).length % 2 ^ 32 = ((c.places _).length % 2 ^ 32 + _) % 2 ^ 32
    rw [hplaces]
    split <;> simp
  refine ⟨hplaces, hoccurrences, fun keys => ?_⟩
  unfold Counts.count
  rw [Counts.get?_ofFn, Counts.get?_ofFn, hoccurrences]
  cases keys.contains c.key <;> rfl

/-! ## Top theorem -/

/-- **Categories are counted independently.**  The places where markers are found are disjoint, so that all
of them fit side by side into the text.  A marker that is put where no marker lies across is found once more
than before, and every other one as often as before. -/
theorem occurrences_independent :
    (∀ (text : String) (c d : Category) (i j : Nat), i ∈ c.places text → j ∈ d.places text →
      (c, i) ≠ (d, j) → i + c.marker.length ≤ j ∨ j + d.marker.length ≤ i) ∧
    (∀ text : String, 18 * (places .conditionalBranch text).length + 16 * (places .load text).length +
      17 * (places .store text).length + 34 * (places .vulnerableInstruction text).length ≤ text.length) ∧
    ∀ (x y : String) (k : Category),
      (∀ c : Category, ∀ i ∈ c.places (x ++ y), ¬ (i < x.length ∧ x.length < i + c.marker.length)) →
      ∀ c, GainsOnly c k x y := by
  refine ⟨fun text c d i j => places_disjoint, fun text => ?_, fun x y k hnone c => ?_⟩
  · rw [length_places, length_places, length_places, length_places, ← String.length_toList]
    exact weight_le_length text.toList
  · refine c.gainsOnly k fun hacross => ?_
    obtain ⟨i, hi, hlt, hend⟩ := Text.straddles_iff_exists_mem_positions.mp hacross
    rw [← String.toList_append] at hi
    rw [String.length_toList] at hlt hend
    exact hnone c i hi ⟨hlt, String.length_toList ▸ hend⟩

/-- Between the halves of a marker that lacks its blank, and beside markers that end in the same word. -/
theorem occurrences_independent_between :
    let x := "Store instructionLoad"
    let y := "instruction potentially vulnerable instruction"
    (∀ c : Category, ∀ i ∈ c.places (x ++ y), ¬ (i < x.length ∧ x.length < i + c.marker.length)) ∧
    Category.all.map (·.occurrences (x ++ marker .store ++ y)) = [0, 0, 2, 1] := by
  intro x y
  have hnone : ∀ c : Category, ∀ i ∈ c.places (x ++ y),
      ¬ (i < x.length ∧ x.length < i + c.marker.length) := by
    intro c
    cases c <;> decide
  refine ⟨hnone, ?_⟩
  have hgains := occurrences_independent.2.2 x y .store hnone
  simp only [Category.all, List.map_cons, List.map_nil, (hgains _).occurrences]
  decide

end Category
end HardenAudit
