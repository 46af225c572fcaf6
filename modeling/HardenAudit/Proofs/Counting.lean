import HardenAudit.Diagnostic
import Mathlib.Algebra.Group.Nat.Defs

/-!
# The scan finds every occurrence

A category is counted by a scan that goes on behind each match, so in general it passes over a match
that overlaps the one before.  A pattern of which no proper end is also a start cannot overlap itself,
and then the scan meets every position at which the pattern starts.  The four markers are of this
kind.

    Borderless p → p ≠ [] → scanCount p t = (positions p t).length      (scanCount_eq_length_positions)
    scanCount p t * p.length ≤ t.length                                  (scanCount_mul_le)
    occurrences = positions of the marker, modulo 2 ^ 32                 (toNat_occurrences)
-/

namespace HardenAudit

namespace Text

variable {α : Type}

/-! ## Patterns that cannot overlap themselves -/

/-- No proper end of the pattern is also a start of it. -/
def Borderless (pattern : List α) : Prop :=
  ∀ k < pattern.length, 0 < k → ¬ pattern.drop k <+: pattern

/-- Two matches of a borderless pattern are at least its length apart. -/
theorem Borderless.not_prefix_drop {p t : List α} (hb : Borderless p) (ht : p <+: t) (k : Nat)
    (hk : 0 < k) (hkp : k < p.length) : ¬ p <+: t.drop k := by
  intro h
  have hend : p.drop k <+: t.drop k := by
    obtain ⟨u, rfl⟩ := ht
    rw [List.drop_append_of_le_length (by omega)]
    exact List.prefix_append _ _
  have hlen : (p.drop k).length ≤ p.length := by rw [List.length_drop]; omega
  exact hb k hkp hk (List.prefix_of_prefix_length_le hend h hlen)

/-! ## Positions -/

variable [BEq α]

/-- The positions of a text at which a pattern starts, in ascending order. -/
def positions (pattern text : List α) : List Nat :=
  (List.range text.length).filter fun i => pattern.isPrefixOf (text.drop i)

theorem positions_cons (p : List α) (x : α) (rest : List α) :
    positions p (x :: rest) =
      (if p.isPrefixOf (x :: rest) then [0] else []) ++ (positions p rest).map (· + 1) := by
  unfold positions
  rw [List.length_cons, List.range_succ_eq_map, List.filter_cons, List.filter_map]
  have hstep : ((fun i => p.isPrefixOf ((x :: rest).drop i)) ∘ Nat.succ) =
      fun i => p.isPrefixOf (rest.drop i) := rfl
  rw [hstep, List.drop_zero]
  split <;> rfl

theorem length_positions (p t : List α) : (positions p t).length = startCount p t := by
  induction t with
  | nil => rfl
  | cons x rest ih =>
    rw [positions_cons, List.length_append, List.length_map, ih, startCount]
    split <;> rfl

variable [LawfulBEq α]

theorem mem_positions (p t : List α) (i : Nat) :
    i ∈ positions p t ↔ i < t.length ∧ p <+: t.drop i := by
  unfold positions
  rw [List.mem_filter, List.mem_range, List.isPrefixOf_iff_prefix]

/-! ## The scan of a borderless pattern -/

theorem startCount_drop (p : List α) (k : Nat) : ∀ t : List α,
    (∀ i < k, ¬ p <+: t.drop i) → startCount p (t.drop k) = startCount p t := by
  induction k with
  | zero => intro t _; rfl
  | succ k ih =>
    intro t h
    cases t with
    | nil => rfl
    | cons x rest =>
      have h0 : p.isPrefixOf (x :: rest) = false := by
        rw [← Bool.not_eq_true, List.isPrefixOf_iff_prefix]
        exact h 0 (by omega)
      rw [List.drop_succ_cons, ih rest (fun i hi => h (i + 1) (by omega)), startCount, h0]
      simp

/-- The scan counts every start behind the items it still has to skip. -/
theorem scanFrom_eq_startCount (p : List α) (hb : Borderless p) (hp : p ≠ []) (t : List α) :
    ∀ skip, scanFrom p skip t = startCount p (t.drop skip) := by
  induction t with
  | nil => intro skip; cases skip <;> rfl
  | cons x rest ih =>
    intro skip
    cases skip with
    | succ k => exact ih k
    | zero =>
      rw [scanFrom, List.drop_zero, startCount]
      have hpos : 0 < p.length := List.length_pos_iff.mpr hp
      split
      · next h =>
        -- no start among the items that the match covers
        have hcover : ∀ i < p.length - 1, ¬ p <+: rest.drop i := fun i hi =>
          hb.not_prefix_drop (List.isPrefixOf_iff_prefix.mp h) (i + 1) (by omega) (by omega)
        rw [ih, startCount_drop p _ rest hcover]
        omega
      · rw [ih, List.drop_zero]
        omega

theorem scanCount_eq_length_positions (p : List α) (hb : Borderless p) (hp : p ≠ []) (t : List α) :
    scanCount p t = (positions p t).length := by
  rw [length_positions]
  exact scanFrom_eq_startCount p hb hp t 0

/-! ## Matches of the scan are disjoint -/

theorem scanFrom_mul_le (p : List α) (t : List α) :
    ∀ skip, scanFrom p skip t * p.length ≤ t.length - skip := by
  induction t with
  | nil => intro skip; cases skip <;> simp [scanFrom]
  | cons x rest ih =>
    intro skip
    cases skip with
    | succ k =>
      have := ih k
      rw [scanFrom, List.length_cons]
      omega
    | zero =>
      rw [scanFrom, List.length_cons]
      split
      · next h =>
        have hlen := (List.isPrefixOf_iff_prefix.mp h).length_le
        rw [List.length_cons] at hlen
        have := ih (p.length - 1)
        rw [Nat.add_mul, Nat.one_mul]
        omega
      · have := ih 0
        omega

theorem scanCount_mul_le (p t : List α) : scanCount p t * p.length ≤ t.length :=
  scanFrom_mul_le p t 0

end Text

namespace Category

/-! ## Markers -/

theorem marker_borderless (c : Category) : Text.Borderless c.marker.toList := by
  unfold Text.Borderless
  cases c <;> decide

theorem marker_ne_nil (c : Category) : c.marker.toList ≠ [] := by
  cases c <;> decide

theorem toNat_occurrences (c : Category) (text : String) :
    (c.occurrences text).toNat = (Text.positions c.marker.toList text.toList).length % 2 ^ 32 := by
  unfold occurrences
  rw [Text.scanCount_eq_length_positions _ c.marker_borderless c.marker_ne_nil]
  exact UInt32.toNat_ofNat'

/-! ## Top theorem -/

/-- **Counting is exact.**  Every position at which the marker starts is counted, overlapping or not:
the scan passes over none because no marker has a border.  Only the word size can shorten the count,
and not before the text has `2 ^ 32` times the length of the marker. -/
theorem occurrences_eq_positions (c : Category) (text : String) :
    let found := Text.positions c.marker.toList text.toList
    (∀ i, i ∈ found ↔ i < text.length ∧ c.marker.toList <+: text.toList.drop i) ∧ found.Nodup ∧
    Text.Borderless c.marker.toList ∧
    Text.scanCount c.marker.toList text.toList = found.length ∧
    (c.occurrences text).toNat = found.length % 2 ^ 32 ∧
    (text.length < 2 ^ 32 * c.marker.length → (c.occurrences text).toNat = found.length) := by
  intro found
  have hscan := Text.scanCount_eq_length_positions _ c.marker_borderless c.marker_ne_nil text.toList
  refine ⟨Text.mem_positions _ _, List.nodup_range.filter _, c.marker_borderless, hscan,
    c.toNat_occurrences text, ?_⟩
  intro hlen
  have hdisjoint := Text.scanCount_mul_le c.marker.toList text.toList
  rw [hscan, String.length_toList, String.length_toList] at hdisjoint
  have hsmall : found.length < 2 ^ 32 :=
    Nat.lt_of_mul_lt_mul_right (Nat.lt_of_le_of_lt hdisjoint hlen)
  rw [c.toNat_occurrences text, Nat.mod_eq_of_lt hsmall]

/-- Two markers side by side are two findings, in a text far below the bound. -/
theorem occurrences_adjacent_markers :
    "Load instructionLoad instruction".length < 2 ^ 32 * Category.load.marker.length ∧
    (Category.load.occurrences "Load instructionLoad instruction").toNat = 2 := by
  have hlen : "Load instructionLoad instruction".length < 2 ^ 32 * Category.load.marker.length := by
    decide
  refine ⟨hlen, ?_⟩
  rw [(occurrences_eq_positions .load "Load instructionLoad instruction").2.2.2.2.2 hlen]
  decide

end Category
end HardenAudit
