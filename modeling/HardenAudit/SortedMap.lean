/-!
# Maps kept in the order of their keys

A finite map as a list of entries in strictly ascending order of keys.  The order is part of the
type, so walking the entries visits the keys in order, and two maps with the same value at every
key are equal.

Main statements: `find?_insert`, `find?_ofList`, `find?_filter`, `find?_mapValues` (what an operation
does to a lookup), `find?_eq_some_iff` (a lookup finds an entry), `ext_find?` (a map is determined by
its lookups), `insert_insert` and `insert_comm` (insertions after each other).
-/

namespace HardenAudit

/-- A finite map whose entries stand in strictly ascending order of keys. -/
structure SortedMap (κ : Type) (ν : Type) [Ord κ] where
  entries : List (κ × ν) := []
  ascending : entries.Pairwise (fun a b => compare a.1 b.1 = .lt) := by exact List.Pairwise.nil

namespace SortedMap

variable {κ ν : Type} [Ord κ]

/-! ## Operations on entries -/

/-- Value of the first entry with a given key. -/
def findIn (key : κ) : List (κ × ν) → Option ν
  | [] => none
  | (k, v) :: rest => if compare key k = .eq then some v else findIn key rest

/-- Puts an entry at its place in an ascending list, over an entry with the same key. -/
def insertIn (key : κ) (value : ν) : List (κ × ν) → List (κ × ν)
  | [] => [(key, value)]
  | (k, v) :: rest =>
    match compare key k with
    | .lt => (key, value) :: (k, v) :: rest
    | .eq => (key, value) :: rest
    | .gt => (k, v) :: insertIn key value rest

theorem mem_insertIn {key : κ} {value : ν} {l : List (κ × ν)} {e : κ × ν}
    (h : e ∈ insertIn key value l) : e = (key, value) ∨ e ∈ l := by
  induction l with
  | nil => simpa [insertIn] using h
  | cons a rest ih =>
    obtain ⟨k, v⟩ := a
    simp only [insertIn] at h
    split at h
    · simpa using h
    · rcases List.mem_cons.1 h with h | h
      · exact .inl h
      · exact .inr (List.mem_cons_of_mem _ h)
    · rcases List.mem_cons.1 h with h | h
      · exact .inr (h ▸ List.mem_cons_self)
      · exact (ih h).imp_right (List.mem_cons_of_mem _)

theorem findIn_eq_none {key : κ} {l : List (κ × ν)} (h : ∀ e ∈ l, compare key e.1 = .lt) :
    findIn key l = none := by
  induction l with
  | nil => rfl
  | cons a rest ih =>
    have := h a List.mem_cons_self
    simp [findIn, this, ih fun e he => h e (List.mem_cons_of_mem _ he)]

theorem insertIn_ascending [Std.TransOrd κ] [Std.LawfulEqOrd κ] (key : κ) (value : ν)
    (l : List (κ × ν)) (h : l.Pairwise (fun a b => compare a.1 b.1 = .lt)) :
    (insertIn key value l).Pairwise (fun a b => compare a.1 b.1 = .lt) := by
  induction l with
  | nil => simp [insertIn]
  | cons a rest ih =>
    obtain ⟨k, v⟩ := a
    obtain ⟨hk, hr⟩ := List.pairwise_cons.1 h
    simp only [insertIn]
    split
    · rename_i hlt
      refine List.pairwise_cons.2 ⟨fun e he => ?_, h⟩
      rcases List.mem_cons.1 he with rfl | he
      · exact hlt
      · exact Std.TransCmp.lt_trans hlt (hk e he)
    · rename_i heq
      obtain rfl := Std.LawfulEqCmp.eq_of_compare heq
      exact List.pairwise_cons.2 ⟨hk, hr⟩
    · rename_i hgt
      refine List.pairwise_cons.2 ⟨fun e he => ?_, ih hr⟩
      rcases mem_insertIn he with rfl | he
      · exact Std.OrientedCmp.lt_of_gt hgt
      · exact hk e he

/-! ## The map -/

instance [DecidableEq κ] [DecidableEq ν] : DecidableEq (SortedMap κ ν) := fun a b =>
  decidable_of_iff (a.entries = b.entries) (by cases a; cases b; simp)

/-- The map without entries. -/
def empty : SortedMap κ ν := {}

instance : Inhabited (SortedMap κ ν) := ⟨empty⟩

/-- The value at a key. -/
def find? (m : SortedMap κ ν) (key : κ) : Option ν := findIn key m.entries

@[simp] theorem find?_empty (key : κ) : (empty : SortedMap κ ν).find? key = none := rfl

/-- The keys in ascending order. -/
def keys (m : SortedMap κ ν) : List κ := m.entries.map (·.1)

/-- The entries whose key satisfies a test. -/
def filter (m : SortedMap κ ν) (keep : κ → Bool) : SortedMap κ ν :=
  ⟨m.entries.filter fun e => keep e.1, m.ascending.filter _⟩

/-- The map with every value changed by a function. -/
def mapValues {ω : Type} (m : SortedMap κ ν) (f : ν → ω) : SortedMap κ ω :=
  ⟨m.entries.map fun e => (e.1, f e.2), List.pairwise_map.mpr m.ascending⟩

/-- The map with `value` at `key`, whatever stood there before. -/
def insert [Std.TransOrd κ] [Std.LawfulEqOrd κ] (m : SortedMap κ ν) (key : κ) (value : ν) :
    SortedMap κ ν :=
  ⟨insertIn key value m.entries, insertIn_ascending key value m.entries m.ascending⟩

/-- The map of a list of entries, in which a later entry wins over an earlier one. -/
def ofList [Std.TransOrd κ] [Std.LawfulEqOrd κ] (l : List (κ × ν)) : SortedMap κ ν :=
  l.foldl (fun m e => m.insert e.1 e.2) empty

/-! ## Lookups -/

theorem findIn_insertIn [Std.LawfulEqOrd κ] (key other : κ) (value : ν) (l : List (κ × ν)) :
    findIn other (insertIn key value l) =
      if compare other key = .eq then some value else findIn other l := by
  induction l with
  | nil => simp [insertIn, findIn]
  | cons a rest ih =>
    obtain ⟨k, v⟩ := a
    simp only [insertIn]
    split
    · simp [findIn]
    · rename_i heq
      obtain rfl := Std.LawfulEqCmp.eq_of_compare heq
      by_cases h : compare other key = .eq <;> simp [findIn, h]
    · rename_i hgt
      by_cases h : compare other k = .eq
      · obtain rfl := Std.LawfulEqCmp.eq_of_compare h
        have : compare other key ≠ .eq := fun e => by
          obtain rfl := Std.LawfulEqCmp.eq_of_compare e
          simp at hgt
        simp [findIn, this]
      · simp [findIn, h, ih]

/-- An insertion changes the lookup of its own key and of no other. -/
theorem find?_insert [DecidableEq κ] [Std.TransOrd κ] [Std.LawfulEqOrd κ] (m : SortedMap κ ν)
    (key other : κ) (value : ν) :
    (m.insert key value).find? other = if other = key then some value else m.find? other := by
  rw [find?, insert, findIn_insertIn]
  simp [find?, Std.LawfulEqCmp.compare_eq_iff_eq]

/-- The entries of a list, inserted one after the other, stand over what was there. -/
theorem find?_foldl_insert [BEq κ] [LawfulBEq κ] [Std.TransOrd κ] [Std.LawfulEqOrd κ]
    (l : List (κ × ν)) (key : κ) : ∀ m : SortedMap κ ν,
    (l.foldl (fun m e => m.insert e.1 e.2) m).find? key = (l.reverse.lookup key).or (m.find? key) := by
  classical
  induction l with
  | nil => intro m; rfl
  | cons e rest ih =>
    intro m
    obtain ⟨k, v⟩ := e
    rw [List.foldl_cons, ih, find?_insert, List.reverse_cons, List.lookup_append]
    cases rest.reverse.lookup key with
    | some found => rfl
    | none =>
      by_cases h : key = k
      · simp [h]
      · have hne : (key == k) = false := by simpa using h
        simp [h, hne, List.lookup_cons]

/-- Of two entries with one key in a list, the later one counts. -/
theorem find?_ofList [BEq κ] [LawfulBEq κ] [Std.TransOrd κ] [Std.LawfulEqOrd κ]
    (l : List (κ × ν)) (key : κ) : (ofList l).find? key = l.reverse.lookup key := by
  unfold ofList
  rw [find?_foldl_insert, find?_empty, Option.or_none]

/-- What is found at a key is the entry with this key. -/
theorem find?_eq_some_iff [Std.TransOrd κ] [Std.LawfulEqOrd κ] (m : SortedMap κ ν) (key : κ)
    (value : ν) : m.find? key = some value ↔ (key, value) ∈ m.entries := by
  obtain ⟨l, hl⟩ := m
  show findIn key l = some value ↔ (key, value) ∈ l
  induction l with
  | nil => simp [findIn]
  | cons a rest ih =>
    obtain ⟨k, v⟩ := a
    obtain ⟨hk, hrest⟩ := List.pairwise_cons.1 hl
    unfold findIn
    rw [List.mem_cons]
    split
    · next heq =>
      obtain rfl := Std.LawfulEqCmp.eq_of_compare heq
      constructor
      · intro h
        cases h
        exact .inl rfl
      · rintro (h | h)
        · cases h
          rfl
        · have := hk _ h
          simp at this
    · next hne =>
      rw [ih hrest]
      constructor
      · exact .inr
      · rintro (h | h)
        · cases h
          exact absurd Std.ReflCmp.compare_self hne
        · exact h

/-- Lookups after a selection of keys. -/
theorem find?_filter [Std.LawfulEqOrd κ] (m : SortedMap κ ν) (keep : κ → Bool) (key : κ) :
    (m.filter keep).find? key = if keep key then m.find? key else none := by
  obtain ⟨l, _⟩ := m
  simp only [find?, filter]
  induction l with
  | nil => simp [findIn]
  | cons a rest ih =>
    obtain ⟨k, v⟩ := a
    have ih := ih (List.Pairwise.of_cons ‹_›)
    by_cases hk : compare key k = .eq
    · obtain rfl := Std.LawfulEqCmp.eq_of_compare hk
      by_cases h : keep key
      · simp [findIn, h]
      · simp [h, ih]
    · by_cases h : keep k <;> simp [findIn, hk, h, ih]

/-- Lookups after a change of all values. -/
theorem find?_mapValues {ω : Type} (m : SortedMap κ ν) (f : ν → ω) (key : κ) :
    (m.mapValues f).find? key = (m.find? key).map f := by
  obtain ⟨l, _⟩ := m
  simp only [find?, mapValues]
  induction l with
  | nil => rfl
  | cons a rest ih =>
    have ih := ih (List.Pairwise.of_cons ‹_›)
    simp only [List.map_cons, findIn]
    split
    · rfl
    · exact ih

theorem entries_ext [Std.TransOrd κ] [Std.LawfulEqOrd κ] {l r : List (κ × ν)}
    (hl : l.Pairwise (fun a b => compare a.1 b.1 = .lt))
    (hr : r.Pairwise (fun a b => compare a.1 b.1 = .lt))
    (h : ∀ key, findIn key l = findIn key r) : l = r := by
  induction l generalizing r with
  | nil =>
    cases r with
    | nil => rfl
    | cons b rest => simpa [findIn] using h b.1
  | cons a rest ih =>
    cases r with
    | nil => simpa [findIn] using h a.1
    | cons b rest' =>
      obtain ⟨ka, va⟩ := a
      obtain ⟨kb, vb⟩ := b
      obtain ⟨ha, hl'⟩ := List.pairwise_cons.1 hl
      obtain ⟨hb, hr'⟩ := List.pairwise_cons.1 hr
      have hab : compare ka kb = .eq := by
        cases hc : compare ka kb with
        | eq => rfl
        | lt =>
          have hn : findIn ka ((kb, vb) :: rest') = none := findIn_eq_none fun e he => by
            rcases List.mem_cons.1 he with rfl | he
            · exact hc
            · exact Std.TransCmp.lt_trans hc (hb e he)
          have := h ka
          rw [hn] at this
          simp [findIn] at this
        | gt =>
          have hba := Std.OrientedCmp.lt_of_gt hc
          have hn : findIn kb ((ka, va) :: rest) = none := findIn_eq_none fun e he => by
            rcases List.mem_cons.1 he with rfl | he
            · exact hba
            · exact Std.TransCmp.lt_trans hba (ha e he)
          have := h kb
          rw [hn] at this
          simp [findIn] at this
      obtain rfl := Std.LawfulEqCmp.eq_of_compare hab
      have hv := h ka
      simp only [findIn, Std.ReflCmp.compare_self, if_true, Option.some.injEq] at hv
      subst hv
      congr 1
      refine ih hl' hr' fun key => ?_
      have hkey := h key
      by_cases hk : compare key ka = .eq
      · obtain rfl := Std.LawfulEqCmp.eq_of_compare hk
        rw [findIn_eq_none ha, findIn_eq_none hb]
      · simpa [findIn, hk] using hkey

/-- A map is determined by its lookups. -/
theorem ext_find? [Std.TransOrd κ] [Std.LawfulEqOrd κ] {m n : SortedMap κ ν}
    (h : ∀ key, m.find? key = n.find? key) : m = n := by
  obtain ⟨l, hl⟩ := m
  obtain ⟨r, hr⟩ := n
  have : l = r := entries_ext hl hr h
  subst this
  rfl

/-- The second of two insertions under one key counts. -/
theorem insert_insert [Std.TransOrd κ] [Std.LawfulEqOrd κ] (m : SortedMap κ ν) (key : κ)
    (first second : ν) : (m.insert key first).insert key second = m.insert key second := by
  classical
  refine ext_find? fun k => ?_
  simp only [find?_insert]
  split <;> rfl

theorem mapValues_insert {ω : Type} [Std.TransOrd κ] [Std.LawfulEqOrd κ] (m : SortedMap κ ν)
    (f : ν → ω) (key : κ) (value : ν) :
    (m.insert key value).mapValues f = (m.mapValues f).insert key (f value) := by
  classical
  refine ext_find? fun k => ?_
  rw [find?_mapValues, find?_insert, find?_insert, find?_mapValues]
  split <;> rfl

/-- Insertions under different keys may change places. -/
theorem insert_comm [Std.TransOrd κ] [Std.LawfulEqOrd κ] (m : SortedMap κ ν) {key other : κ}
    (h : key ≠ other) (x y : ν) :
    (m.insert key x).insert other y = (m.insert other y).insert key x := by
  classical
  refine ext_find? fun k => ?_
  simp only [find?_insert]
  by_cases hk : k = key
  · subst hk
    simp [h]
  · simp [hk]

end SortedMap
end HardenAudit
