import HardenAudit.Proofs.Counting

/-!
# Counts add up

Where two texts are joined, a pattern may lie across the border: its first part ends one text and its
second part begins the other.  A borderless pattern lies across a border in one way at most, so a joined
text has the matches of its parts and one more if there is such a way.  No marker has a line break in it,
so none lies across the end of a line, and the count of a report is the sum over its lines.

    a match that starts in a ends in a or lies across the border      (prefix_append_iff)
    matches in a ++ b = matches in a + matches in b + across           (Borderless.startCount_append)
    occurrences of joined lines = sum of the occurrences per line      (occurrences_lines)
-/

namespace HardenAudit

namespace Text

variable {α : Type} {p a b u v u' v' : List α}

/-! ## Patterns across a border -/

/-- A pattern cut in two, so that its first part ends a text and its second part begins another one. -/
structure Cut (pattern a b u v : List α) : Prop where
  whole : u ++ v = pattern
  first : u ≠ []
  second : v ≠ []
  ends : u <:+ a
  starts : v <+: b

/-- The pattern lies across the border of two texts. -/
def Straddles (pattern a b : List α) : Prop := ∃ u v, Cut pattern a b u v

theorem straddles_iff_exists_lt : Straddles p a b ↔
    ∃ k, k < p.length ∧ 0 < k ∧ p.take k <:+ a ∧ p.drop k <+: b := by
  constructor
  · rintro ⟨u, v, rfl, hu, hv, hends, hstarts⟩
    have hupos : 0 < u.length := List.length_pos_iff.mpr hu
    have hvpos : 0 < v.length := List.length_pos_iff.mpr hv
    refine ⟨u.length, by rw [List.length_append]; omega, hupos, ?_, ?_⟩
    · rwa [List.take_left]
    · rwa [List.drop_left]
  · rintro ⟨k, hk, hpos, hends, hstarts⟩
    refine ⟨p.take k, p.drop k, List.take_append_drop k p, ?_, ?_, hends, hstarts⟩
    · intro h
      have := congrArg List.length h
      rw [List.length_take, List.length_nil] at this
      omega
    · intro h
      have := congrArg List.length h
      rw [List.length_drop, List.length_nil] at this
      omega

instance [DecidableEq α] : Decidable (Straddles p a b) := decidable_of_iff' _ straddles_iff_exists_lt

theorem not_straddles_nil : ¬ Straddles p [] b := by
  rintro ⟨u, v, h⟩
  exact h.first (List.suffix_nil.mp h.ends)

/-- The part in front of the border is all of the first text, or it lies within the rest of it. -/
theorem straddles_cons {x : α} {rest : List α} : Straddles p (x :: rest) b ↔
    (∃ v, v ≠ [] ∧ p = x :: rest ++ v ∧ v <+: b) ∨ Straddles p rest b := by
  constructor
  · rintro ⟨u, v, rfl, hu, hv, hends, hstarts⟩
    rcases List.suffix_cons_iff.mp hends with rfl | hends
    · exact .inl ⟨v, hv, rfl, hstarts⟩
    · exact .inr ⟨u, v, rfl, hu, hv, hends, hstarts⟩
  · rintro (⟨v, hv, rfl, hstarts⟩ | ⟨u, v, h⟩)
    · exact ⟨x :: rest, v, rfl, List.cons_ne_nil x rest, hv, List.suffix_rfl, hstarts⟩
    · exact ⟨u, v, { h with ends := h.ends.trans (List.suffix_cons x rest) }⟩

/-- A pattern that starts a joined text ends in its first part, or lies across the border. -/
theorem prefix_append_iff : p <+: a ++ b ↔ p <+: a ∨ ∃ v, v ≠ [] ∧ p = a ++ v ∧ v <+: b := by
  constructor
  · intro h
    rcases List.prefix_or_prefix_of_prefix h (List.prefix_append a b) with ha | ⟨v, rfl⟩
    · exact .inl ha
    · by_cases hv : v = []
      · rw [hv, List.append_nil]
        exact .inl List.prefix_rfl
      · exact .inr ⟨v, hv, rfl, (List.prefix_append_right_inj a).mp h⟩
  · rintro (h | ⟨v, -, rfl, h⟩)
    · exact List.prefix_append_of_prefix h
    · exact (List.prefix_append_right_inj a).mpr h

/-- There is one way at most in which a borderless pattern lies across a border. -/
theorem Borderless.cut_unique (hb : Borderless p) (h : Cut p a b u v) (h' : Cut p a b u' v') :
    u = u' ∧ v = v' := by
  -- of two cuts, the longer first part ends with the shorter one: a border of the pattern
  have hle : ∀ {u v u' v' : List α}, Cut p a b u v → Cut p a b u' v' → ¬ u.length < u'.length := by
    intro u v u' v' h h' hlt
    obtain ⟨w, rfl⟩ := List.suffix_of_suffix_length_le h.ends h'.ends (Nat.le_of_lt hlt)
    have hlen := congrArg List.length (h.whole.trans h'.whole.symm)
    simp only [List.length_append] at hlen hlt
    have hv : v' <+: v := List.prefix_of_prefix_length_le h'.starts h.starts (by omega)
    have hdrop : p.drop w.length = u ++ v' := by
      rw [← h'.whole, List.append_assoc, List.drop_left]
    have hwhole := congrArg List.length h'.whole
    simp only [List.length_append] at hwhole
    have hpos : 0 < u.length := List.length_pos_iff.mpr h.first
    refine hb w.length (by omega) (by omega) ?_
    rw [hdrop, ← h.whole]
    exact (List.prefix_append_right_inj u).mpr hv
  have hlength : u.length = u'.length :=
    Nat.le_antisymm (Nat.not_lt.mp (hle h' h)) (Nat.not_lt.mp (hle h h'))
  exact List.append_inj (h.whole.trans h'.whole.symm) hlength

/-! ## Matches in a joined text -/

variable [DecidableEq α]

/-- A joined text has the matches of its parts, and the one that lies across the border. -/
theorem Borderless.startCount_append (hb : Borderless p) (hp : p ≠ []) (a b : List α) :
    startCount p (a ++ b) =
      startCount p a + startCount p b + (if Straddles p a b then 1 else 0) := by
  induction a with
  | nil => rw [List.nil_append, if_neg not_straddles_nil, startCount, Nat.zero_add, Nat.add_zero]
  | cons x rest ih =>
    rw [List.cons_append, startCount, startCount, ih]
    simp only [List.isPrefixOf_iff_prefix]
    rw [← List.cons_append]
    by_cases hwithin : p <+: x :: rest
    · -- a pattern within the first text is too short to reach across from its start
      have hacross : ¬ ∃ v, v ≠ [] ∧ p = x :: rest ++ v ∧ v <+: b := by
        rintro ⟨v, hv, rfl, -⟩
        have := hwithin.length_le
        have := List.length_pos_iff.mpr hv
        rw [List.length_append] at *
        omega
      rw [if_pos hwithin, if_pos (List.prefix_append_of_prefix hwithin)]
      simp only [straddles_cons, hacross, false_or]
      omega
    · by_cases hacross : ∃ v, v ≠ [] ∧ p = x :: rest ++ v ∧ v <+: b
      · -- no second match can lie across the same border
        have hother : ¬ Straddles p rest b := by
          rintro ⟨u, v, h⟩
          obtain ⟨v', hv', hwhole, hstarts⟩ := hacross
          have hcut : Cut p (x :: rest) b (x :: rest) v' :=
            ⟨hwhole.symm, List.cons_ne_nil x rest, hv', List.suffix_rfl, hstarts⟩
          have hsame := (hb.cut_unique hcut
            { h with ends := h.ends.trans (List.suffix_cons x rest) }).1
          have hlen := h.ends.length_le
          rw [← hsame, List.length_cons] at hlen
          omega
        rw [if_pos (prefix_append_iff.mpr (.inr hacross)), if_neg hwithin, if_neg hother,
          if_pos (straddles_cons.mpr (.inl hacross))]
        omega
      · have hnone : ¬ p <+: x :: rest ++ b := fun h =>
          (prefix_append_iff.mp h).elim hwithin hacross
        rw [if_neg hnone, if_neg hwithin]
        simp only [straddles_cons, hacross, false_or]
        omega

end Text

namespace Category

/-! ## Markers across the end of a line -/

theorem newline_not_mem_marker (c : Category) : '\n' ∉ c.marker.toList := by
  cases c <;> decide

theorem occurrences_append (c : Category) (a b : String) :
    c.occurrences (a ++ b) = c.occurrences a + c.occurrences b +
      (if Text.Straddles c.marker.toList a.toList b.toList then 1 else 0) := by
  have hb := c.marker_borderless
  have hne := c.marker_ne_nil
  have hscan : ∀ t, Text.scanCount c.marker.toList t = Text.startCount c.marker.toList t := fun t =>
    Text.scanFrom_eq_startCount c.marker.toList hb hne t 0
  unfold occurrences
  rw [String.toList_append, hscan, hscan, hscan, hb.startCount_append hne]
  simp only [Nat.toUInt32_eq, UInt32.ofNat_add]
  split <;> rfl

/-- No marker lies across a line break. -/
theorem not_straddles_newline (c : Category) (a b : List Char) :
    ¬ Text.Straddles c.marker.toList a ('\n' :: b) ∧
    ¬ Text.Straddles c.marker.toList (a ++ ['\n']) b := by
  constructor
  · rintro ⟨u, v, h⟩
    obtain hnil | ⟨v, rfl, -⟩ := List.prefix_cons_iff.mp h.starts
    · exact h.second hnil
    · refine c.newline_not_mem_marker ?_
      rw [← h.whole]
      exact List.mem_append_right u List.mem_cons_self
  · rintro ⟨u, v, h⟩
    obtain hnil | ⟨u, rfl, -⟩ := List.suffix_concat_iff.mp h.ends
    · exact h.first hnil
    · refine c.newline_not_mem_marker ?_
      rw [← h.whole]
      exact List.mem_append_left v (List.mem_concat_self)

/-! ## Lines of a report -/

/-- The findings of a category in several texts together, in 32-bit arithmetic. -/
def total (c : Category) (texts : List String) : UInt32 :=
  texts.foldr (fun text n => c.occurrences text + n) 0

theorem total_perm (c : Category) {texts texts' : List String} (h : texts.Perm texts') :
    c.total texts = c.total texts' :=
  h.foldr_eq' (fun a _ b _ n => by ac_rfl) 0

/-- The count of joined lines is the sum over the lines. -/
theorem occurrences_lines (c : Category) (lines : List String) :
    c.occurrences ("\n".intercalate lines) = c.total lines := by
  have hnewline : c.occurrences "\n" = 0 := by cases c <;> decide
  induction lines with
  | nil => cases c <;> decide
  | cons line lines ih =>
    cases lines with
    | nil => rw [String.intercalate_singleton, total, List.foldr_cons, List.foldr_nil, UInt32.add_zero]
    | cons next lines =>
      have hbefore := (c.not_straddles_newline line.toList []).1
      have hbehind := (c.not_straddles_newline line.toList ("\n".intercalate (next :: lines)).toList).2
      rw [String.intercalate_cons_cons, occurrences_append, occurrences_append, String.toList_append,
        show "\n".toList = ['\n'] from rfl, if_neg hbehind, if_neg hbefore, hnewline, ih,
        UInt32.add_zero, UInt32.add_zero, UInt32.add_zero]
      rfl

/-! ## Top theorem -/

/-- **Counts add up.**  A joined text has the findings of its parts, in 32-bit arithmetic, and one more if
the marker lies across the border, which it does in one way at most.  So the findings of a report are those
of its lines, whatever the order of the lines. -/
theorem occurrences_additive (c : Category) :
    (∀ a b : String, c.occurrences (a ++ b) = c.occurrences a + c.occurrences b +
      (if Text.Straddles c.marker.toList a.toList b.toList then 1 else 0)) ∧
    (∀ a b u v u' v', Text.Cut c.marker.toList a b u v → Text.Cut c.marker.toList a b u' v' →
      u = u' ∧ v = v') ∧
    (∀ lines, c.occurrences ("\n".intercalate lines) = c.total lines) ∧
    ∀ lines lines', lines.Perm lines' →
      c.occurrences ("\n".intercalate lines') = c.occurrences ("\n".intercalate lines) := by
  refine ⟨c.occurrences_append, fun a b u v u' v' => c.marker_borderless.cut_unique,
    c.occurrences_lines, ?_⟩
  intro lines lines' hperm
  rw [occurrences_lines, occurrences_lines, c.total_perm hperm]

/-- A marker cut behind its first word is found in the joined text besides what its parts hold, and lines
with markers may change places. -/
theorem occurrences_additive_across :
    let lines := ["Load instruction", "Load", " instruction"]
    let moved := [" instruction", "Load", "Load instruction"]
    Text.Cut Category.load.marker.toList "a Load".toList " instruction Load".toList "Load".toList
      " instruction".toList ∧
    Category.load.occurrences ("a Load" ++ " instruction Load") =
      Category.load.occurrences "a Load" + Category.load.occurrences " instruction Load" + 1 ∧
    lines.Perm moved ∧ Category.load.occurrences ("\n".intercalate moved) = 1 := by
  intro lines moved
  have hcut : Text.Cut Category.load.marker.toList "a Load".toList " instruction Load".toList
      "Load".toList " instruction".toList := by
    constructor <;> decide
  have hperm : lines.Perm moved := by decide
  obtain ⟨happend, -, hlines, horder⟩ := occurrences_additive .load
  have hjoined := happend "a Load" " instruction Load"
  rw [if_pos ⟨_, _, hcut⟩] at hjoined
  refine ⟨hcut, hjoined, hperm, ?_⟩
  rw [horder lines moved hperm, hlines]
  decide

end Category
end HardenAudit
