import HardenAudit.Proofs.Overwriting

/-!
# File systems up to dates

Nothing that an audit asks a file system depends on when a file was changed.  So file systems are
compared without their dates: two of them are the same for an audit if they are equal when all dates
are left out.

    ways, cells and rights are those of the file system without dates   (extends_undated, undated_extends)
    a write does the same without dates                                 (undated_overwritten)
-/

namespace HardenAudit

open Text (Bytes)

/-- A node without its date. -/
def Node.undated (n : Node) : Node := { n with changed := 0 }

/-- An entry without the date of its own node. -/
def Entry.undated : Entry → Entry
  | .sole n => .sole n.undated
  | .shared number => .shared number

theorem Node.shape_undated (n : Node) : n.undated.shape = n.shape := by
  obtain ⟨matter, mode, own, changed⟩ := n
  cases matter <;> rfl

namespace FileSystem

variable {fs fs' : FileSystem}

/-- The file system without dates. -/
def undated (fs : FileSystem) : FileSystem where
  entries := fs.entries.mapValues Entry.undated
  shared := fs.shared.mapValues Node.undated
  here := fs.here

theorem find?_entries_undated (fs : FileSystem) (l : Location) :
    fs.undated.entries.find? l = (fs.entries.find? l).map Entry.undated :=
  SortedMap.find?_mapValues _ _ l

theorem find?_shared_undated (fs : FileSystem) (k : Nat) :
    fs.undated.shared.find? k = (fs.shared.find? k).map Node.undated :=
  SortedMap.find?_mapValues _ _ k

theorem node?_undated (fs : FileSystem) (l : Location) :
    fs.undated.node? l = (fs.node? l).map Node.undated := by
  unfold node?
  split
  · rfl
  · rw [find?_entries_undated]
    cases fs.entries.find? l with
    | none => rfl
    | some e =>
      cases e with
      | sole n => rfl
      | shared k => exact find?_shared_undated fs k

theorem cell_undated (fs : FileSystem) (l : Location) : fs.undated.cell l = fs.cell l := by
  unfold cell
  rw [find?_entries_undated]
  cases fs.entries.find? l with
  | none => rfl
  | some e =>
    cases e with
    | sole n => rfl
    | shared k =>
      dsimp only [Option.map, Entry.undated]
      rw [find?_shared_undated, Option.isSome_map]

theorem nodeIn?_undated (fs : FileSystem) (c : Cell) :
    fs.undated.nodeIn? c = (fs.nodeIn? c).map Node.undated := by
  unfold nodeIn?
  cases c with
  | own l =>
    dsimp only
    rw [find?_entries_undated]
    cases fs.entries.find? l with
    | none => rfl
    | some e => cases e <;> rfl
  | common k => exact find?_shared_undated fs k

theorem shape?_undated (fs : FileSystem) (l : Location) : fs.undated.shape? l = fs.shape? l := by
  unfold shape?
  rw [node?_undated]
  cases fs.node? l with
  | none => rfl
  | some n => exact congrArg some n.shape_undated

/-! ## Ways, rights and cells -/

theorem extends_undated (fs : FileSystem) : Extends fs fs.undated :=
  ⟨⟨rfl, fun l => .inl (shape?_undated fs l)⟩, cell_undated fs⟩

theorem undated_extends (fs : FileSystem) : Extends fs.undated fs :=
  ⟨⟨rfl, fun l => .inl (shape?_undated fs l).symm⟩, fun l => (cell_undated fs l).symm⟩

theorem grounded_undated_iff (fs : FileSystem) : fs.undated.Grounded ↔ fs.Grounded :=
  ⟨fun h => h.grows (undated_extends fs).grows, fun h => h.grows (extends_undated fs).grows⟩

theorem landing_undated (hfs : fs.Grounded) (p : Path) (content : Bytes) :
    fs.undated.landing p content = fs.landing p content :=
  ((extends_undated fs).grows.landing hfs p content).antisymm
    ((undated_extends fs).grows.landing (hfs.grows (extends_undated fs).grows) p content)

theorem isReadable_undated (fs : FileSystem) (p : Path) : fs.undated.isReadable p = fs.isReadable p := by
  have hplace : fs.undated.place p = fs.place p :=
    ((extends_undated fs).grows.place p).antisymm ((undated_extends fs).grows.place p)
  rw [isReadable_eq, isReadable_eq, hplace]
  cases fs.place p with
  | error e => rfl
  | ok l =>
    dsimp only [Except.toOption, Option.any]
    rw [shape?_undated]

/-! ## Writes -/

theorem undated_setIn (fs : FileSystem) (n : Node) (c : Cell) :
    (fs.setIn n c).undated = fs.undated.setIn n.undated c := by
  cases c with
  | own l =>
    show FileSystem.mk _ _ _ _ = FileSystem.mk _ _ _ _
    congr 1
    exact SortedMap.mapValues_insert _ _ _ _
  | common k =>
    show FileSystem.mk _ _ _ _ = FileSystem.mk _ _ _ _
    congr 1
    exact SortedMap.mapValues_insert _ _ _ _

theorem undated_rewritten (content : Bytes) (time : Nat) (x : Option Node) :
    (rewritten content time x).undated = rewritten content 0 (x.map Node.undated) := by
  cases x with
  | none => rfl
  | some n =>
    obtain ⟨matter, mode, own, changed⟩ := n
    cases matter <;> rfl

theorem undated_fill (fs : FileSystem) (content : Bytes) (c : Cell) :
    (fs.fill content c).undated = fs.undated.fill content c := by
  unfold fill
  rw [undated_setIn, undated_rewritten, nodeIn?_undated]
  rfl

/-- A write does the same without dates. -/
theorem undated_overwritten (hfs : fs.Grounded) (p : Path) (content : Bytes) :
    (fs.overwritten p content).undated = fs.undated.overwritten p content := by
  rw [overwritten_eq, overwritten_eq, (extends_undated fs).lands? hfs]
  cases fs.lands? p content with
  | none => rfl
  | some c => exact undated_fill fs content c

end FileSystem
end HardenAudit
