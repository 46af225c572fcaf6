import Mathlib.Data.List.Forall2
import Mathlib.Data.List.TakeWhile
import HardenAudit.Proofs.Containment

/-!
# The stem of a fixture

The last component of a path stands at its beginning or behind a slash, and only slashes and single dots
come behind it.  A path without such a component has nothing else in it.  If the last component is a name,
the stem is taken from it, whatever stands in front and behind; if it goes up, or there is none, the stem
is taken from the name of the fixture.

    every path has a last component, or names nothing                  (trail_or_lastComponent)
    the last component is the last piece that names something          (LastComponent.getLast?_body)
    the stem of a name ends in front of the last dot but a first one   (isStem_stemOf)
-/

namespace HardenAudit

open Text (isBlank)

/-! ## Algorithm -/

namespace Path

/-- Slashes, and single dots behind slashes: what may stand behind the last component. -/
inductive Trail : List Char → Prop
  | nil : Trail []
  | slash {cs : List Char} (more : Trail cs) : Trail ('/' :: cs)
  | dot {cs : List Char} (more : Trail cs) : Trail ('/' :: '.' :: cs)

/-- The last component of a text, whether it is a name or goes up. -/
structure LastComponent (cs name : List Char) : Prop where
  place : ∃ front trail, cs = front ++ (name ++ trail) ∧ (front = [] ∨ front.getLast? = some '/') ∧
    Trail trail
  slash : '/' ∉ name
  nonempty : name ≠ []
  dot : name ≠ ['.']

/-- The last component is a name. -/
def EndsIn (cs name : List Char) : Prop := LastComponent cs name ∧ name ≠ ['.', '.']

/-- A stem is the name up to its last dot; a dot in the first place does not count. -/
structure IsStem (name stem : List Char) : Prop where
  whole : '.' ∉ name.tail → stem = name
  front : ∀ before behind, name = before ++ '.' :: behind → before ≠ [] → '.' ∉ behind → stem = before

end Path

namespace Fixture

open Path

/-- The stem of a fixture is that of a name, the last component of its source, and depends on nothing
else. -/
structure NamedBySource (f : Fixture) (name : List Char) : Prop where
  stem : IsStem name f.artifactStem.toList
  nonempty : f.artifactStem ≠ ""
  slash : '/' ∉ f.artifactStem.toList
  determined : ∀ g : Fixture, LastComponent g.source.text.toList name → g.artifactStem = f.artifactStem
  /-- A slash behind the source, or a slash and a dot, changes nothing. -/
  behind : ∀ trail, Trail trail →
    ({ f with source := ⟨f.source.text ++ String.ofList trail⟩ } : Fixture).artifactStem = f.artifactStem
  within : ∀ dir : String,
    ({ f with source := ⟨dir ++ "/" ++ f.source.text⟩ } : Fixture).artifactStem = f.artifactStem
  joined : ∀ root, (f.sourcePath root).stem? = some f.artifactStem

/-- The stem of a fixture is its own name with an underscore for each blank. -/
structure NamedByItself (f : Fixture) : Prop where
  chars : List.Forall₂ (fun c s => s = if isBlank c then '_' else c) f.name.toList f.artifactStem.toList
  length : f.artifactStem.length = f.name.length
  blank : ∀ s ∈ f.artifactStem.toList, isBlank s = false

end Fixture

/-! ## Last components -/

namespace Path

/-- The pieces of a text that a trail follows: the trail adds pieces that name nothing. -/
theorem Trail.splitSlash {trail : List Char} (h : Trail trail) : ∃ idle, (∀ piece ∈ idle, isIdle piece = true) ∧
    ∀ name, '/' ∉ name → Path.splitSlash (name ++ trail) = name :: idle := by
  induction h with
  | nil => exact ⟨[], by simp, fun name hname => by rw [List.append_nil, splitSlash_eq_singleton hname]⟩
  | slash _ ih =>
    obtain ⟨idle, hidle, hsplit⟩ := ih
    refine ⟨[] :: idle, List.forall_mem_cons.mpr ⟨rfl, hidle⟩, fun name hname => ?_⟩
    have hmore := hsplit [] List.not_mem_nil
    rw [List.nil_append] at hmore
    rw [splitSlash_append_slash, splitSlash_eq_singleton hname, hmore]
    rfl
  | dot _ ih =>
    obtain ⟨idle, hidle, hsplit⟩ := ih
    refine ⟨['.'] :: idle, List.forall_mem_cons.mpr ⟨rfl, hidle⟩, fun name hname => ?_⟩
    have hmore := hsplit ['.'] (by decide)
    rw [List.singleton_append] at hmore
    rw [splitSlash_append_slash, splitSlash_eq_singleton hname, hmore]
    rfl

theorem Trail.append {trail more : List Char} (h : Trail trail) (hmore : Trail more) :
    Trail (trail ++ more) := by
  induction h with
  | nil => exact hmore
  | slash _ ih => exact .slash ih
  | dot _ ih => exact .dot ih

namespace LastComponent

variable {cs name : List Char}

theorem isIdle_eq_false (h : LastComponent cs name) : isIdle name = false := by
  unfold isIdle
  rw [beq_false_of_ne h.nonempty, beq_false_of_ne h.dot]
  rfl

/-- Behind the last component are only pieces that name nothing. -/
theorem splitSlash (h : LastComponent cs name) : ∃ before idle,
    Path.splitSlash cs = before ++ name :: idle ∧ ∀ piece ∈ idle, isIdle piece = true := by
  obtain ⟨front, trail, rfl, hfront, htrail⟩ := h.place
  obtain ⟨idle, hidle, hsplit⟩ := htrail.splitSlash
  rcases hfront with rfl | hslash
  · exact ⟨[], idle, hsplit name h.slash, hidle⟩
  · obtain ⟨outer, rfl⟩ := List.getLast?_eq_some_iff.mp hslash
    refine ⟨Path.splitSlash outer, idle, ?_, hidle⟩
    rw [List.append_assoc, List.singleton_append, splitSlash_append_slash, hsplit name h.slash]

theorem append_trail (h : LastComponent cs name) {trail : List Char} (htrail : Trail trail) :
    LastComponent (cs ++ trail) name := by
  obtain ⟨front, inner, rfl, hfront, hinner⟩ := h.place
  exact ⟨⟨front, inner ++ trail, by simp, hfront, hinner.append htrail⟩, h.slash, h.nonempty, h.dot⟩

theorem append_slash (h : LastComponent cs name) (dir : List Char) :
    LastComponent (dir ++ '/' :: cs) name := by
  obtain ⟨front, trail, rfl, hfront, htrail⟩ := h.place
  refine ⟨⟨dir ++ '/' :: front, trail, by simp, .inr ?_, htrail⟩, h.slash, h.nonempty, h.dot⟩
  rcases hfront with rfl | hslash
  · simp
  · rw [List.getLast?_append_of_ne_nil _ (by simp), List.getLast?_cons, hslash]
    rfl

theorem join {child : Path} (h : LastComponent child.text.toList name) (base : Path) :
    LastComponent (base.join child).text.toList name := by
  by_cases hjoin : child.isAbsolute = true ∨ base.text = ""
  · unfold Path.join
    rwa [if_pos (by simpa using hjoin)]
  · obtain ⟨hrelative, hbase⟩ := not_or.mp hjoin
    obtain ⟨front, htext, -⟩ := toList_join hbase (Bool.not_eq_true _ ▸ hrelative)
    rw [htext]
    exact h.append_slash front

end LastComponent

/-- Either there is nothing but slashes and single dots, or there is a last component. -/
theorem trail_or_lastComponent (cs : List Char) :
    Trail ('/' :: cs) ∨ ∃ name, LastComponent cs name := by
  induction cs with
  | nil => exact .inl (.slash .nil)
  | cons c rest ih =>
    by_cases hc : c = '/'
    · subst hc
      exact ih.imp .slash (Exists.imp fun _ h => h.append_slash [])
    rcases ih with htrail | ⟨name, h⟩
    · cases htrail with
      | slash hrest =>
        by_cases hdot : c = '.'
        · exact .inl (hdot ▸ .dot hrest)
        · exact .inr ⟨[c], ⟨[], rest, rfl, .inl rfl, hrest⟩, by simpa using Ne.symm hc, by simp,
            by simpa using hdot⟩
      | dot hrest =>
        exact .inr ⟨[c, '.'], ⟨[], _, rfl, .inl rfl, hrest⟩, by simpa using Ne.symm hc, by simp, by simp⟩
    · right
      obtain ⟨front, trail, rfl, hfront, htrail⟩ := h.place
      rcases hfront with rfl | hslash
      · refine ⟨c :: name, ⟨[], trail, rfl, .inl rfl, htrail⟩, ?_, by simp, ?_⟩
        · exact List.not_mem_cons_of_ne_of_not_mem (Ne.symm hc) h.slash
        · simpa using fun _ => h.nonempty
      · refine ⟨name, ⟨c :: front, trail, rfl, .inr ?_, htrail⟩, h.slash, h.nonempty, h.dot⟩
        rw [List.getLast?_cons, hslash]
        rfl

/-! ## File names -/

theorem getLast?_trimIdle (pieces : List (List Char)) :
    (trimIdle pieces).getLast? = pieces.reverse.find? fun piece => !isIdle piece := by
  unfold trimIdle
  rw [List.getLast?_reverse, List.find?_not_eq_head?_dropWhile]

/-- The anchor of a path does not hold its last component. -/
theorem getLast?_body (p : Path) :
    p.body.getLast? = (splitSlash p.text.toList).reverse.find? fun piece => !isIdle piece := by
  unfold body
  rw [getLast?_trimIdle]
  have hidle : ∀ piece pieces, isIdle piece = true →
      (piece :: pieces).reverse.find? (fun piece => !isIdle piece) =
        pieces.reverse.find? fun piece => !isIdle piece := by
    intro piece pieces h
    rw [List.reverse_cons, List.find?_append]
    simp [h]
  have hslash : ∀ rest, splitSlash ('/' :: rest) = [] :: splitSlash rest :=
    fun rest => splitSlash_append_slash [] rest
  have hdot : ∀ rest, splitSlash ('.' :: '/' :: rest) = ['.'] :: splitSlash rest :=
    fun rest => splitSlash_append_slash ['.'] rest
  generalize p.text.toList = cs
  unfold anchor
  split
  · next rest => rw [hslash, hidle _ _ rfl]
  · rfl
  · next rest => rw [hslash, hdot, hidle _ _ rfl, hidle _ _ rfl]
  · rfl

theorem LastComponent.getLast?_body {p : Path} {name : List Char}
    (h : LastComponent p.text.toList name) : p.body.getLast? = some name := by
  obtain ⟨before, idle, hsplit, hidle⟩ := h.splitSlash
  have hnone : idle.reverse.find? (fun piece => !isIdle piece) = none := by
    simpa using hidle
  rw [Path.getLast?_body, hsplit, List.reverse_append, List.reverse_cons, List.find?_append,
    List.find?_append, hnone, List.find?_singleton, h.isIdle_eq_false]
  rfl

theorem body_of_trail {p : Path} (h : Trail ('/' :: p.text.toList)) : p.body.getLast? = none := by
  obtain ⟨idle, hidle, hsplit⟩ := h.splitSlash
  have hpieces := hsplit [] List.not_mem_nil
  rw [List.nil_append, show splitSlash ('/' :: p.text.toList) = [] :: splitSlash p.text.toList from
    splitSlash_append_slash [] _, List.cons.injEq] at hpieces
  rw [Path.getLast?_body, hpieces.2]
  simpa using hidle

/-- The file name of a path that ends in a name. -/
theorem EndsIn.fileName? {p : Path} {name : List Char} (h : EndsIn p.text.toList name) :
    p.fileName? = some (String.ofList name) := by
  unfold Path.fileName?
  rw [h.1.getLast?_body]
  dsimp only
  rw [if_neg h.2]

theorem EndsIn.stem? {p : Path} {name : List Char} (h : EndsIn p.text.toList name) :
    p.stem? = some (String.ofList (stemOf name)) := by
  unfold Path.stem?
  rw [h.fileName?, Option.map_some, String.toList_ofList]

/-- A path that ends in no name has nothing but slashes and single dots, or its last component goes up. -/
theorem not_endsIn_iff (p : Path) : (¬ ∃ name, EndsIn p.text.toList name) ↔
    Trail ('/' :: p.text.toList) ∨ LastComponent p.text.toList ['.', '.'] := by
  constructor
  · intro h
    rcases trail_or_lastComponent p.text.toList with htrail | ⟨name, hname⟩
    · exact .inl htrail
    · right
      by_cases hup : name = ['.', '.']
      · exact hup ▸ hname
      · exact absurd ⟨name, hname, hup⟩ h
  · rintro h ⟨name, hname, hup⟩
    have hlast := hname.getLast?_body
    rcases h with htrail | hgoes
    · rw [body_of_trail htrail] at hlast
      cases hlast
    · rw [hgoes.getLast?_body] at hlast
      exact hup (Option.some.inj hlast).symm

theorem stem?_of_not_endsIn {p : Path} (h : ¬ ∃ name, EndsIn p.text.toList name) : p.stem? = none := by
  unfold Path.stem? Path.fileName?
  rcases (not_endsIn_iff p).mp h with htrail | hup
  · rw [body_of_trail htrail]
    rfl
  · rw [hup.getLast?_body]
    rfl

/-! ## Stems -/

theorem stemOf_append {before behind : List Char} (hbefore : before ≠ []) (hbehind : '.' ∉ behind) :
    stemOf (before ++ '.' :: behind) = before := by
  have hall : ∀ c ∈ behind.reverse, (c != '.') = true := fun c hc =>
    bne_iff_ne.mpr fun h => hbehind (h ▸ List.mem_reverse.mp hc)
  unfold stemOf
  rw [List.reverse_append, List.reverse_cons, List.append_assoc, List.dropWhile_append_of_pos hall]
  simp [hbefore]

theorem stemOf_eq_self {name : List Char} (h : '.' ∉ name.tail) : stemOf name = name := by
  cases name with
  | nil => rfl
  | cons c rest =>
    have hall : ∀ x ∈ rest.reverse, (x != '.') = true := fun x hx =>
      bne_iff_ne.mpr fun hdot => h (hdot ▸ List.mem_reverse.mp hx)
    unfold stemOf
    rw [List.reverse_cons, List.dropWhile_append_of_pos hall]
    by_cases hc : c = '.' <;> simp [hc]

theorem isStem_stemOf (name : List Char) : IsStem name (stemOf name) where
  whole := stemOf_eq_self
  front _ _ hname hbefore hbehind := hname ▸ stemOf_append hbefore hbehind

end Path

namespace Fixture

open Path

theorem artifactStem_of_endsIn {f : Fixture} {name : List Char} (h : EndsIn f.source.text.toList name) :
    f.artifactStem = String.ofList (stemOf name) := by
  unfold artifactStem
  rw [h.stem?]
  rfl

theorem namedBySource {f : Fixture} {name : List Char} (h : EndsIn f.source.text.toList name) :
    f.NamedBySource name where
  stem := by
    rw [artifactStem_of_endsIn h, String.toList_ofList]
    exact isStem_stemOf name
  nonempty := by
    rw [artifactStem_of_endsIn h]
    exact stem_ne_empty h.stem?
  slash := by
    rw [artifactStem_of_endsIn h]
    exact slash_not_mem_stem h.stem?
  determined g hg := by
    rw [artifactStem_of_endsIn h, artifactStem_of_endsIn ⟨hg, h.2⟩]
  behind trail htrail := by
    refine (artifactStem_of_endsIn ⟨?_, h.2⟩).trans (artifactStem_of_endsIn h).symm
    simpa using h.1.append_trail htrail
  within dir := by
    refine (artifactStem_of_endsIn ⟨?_, h.2⟩).trans (artifactStem_of_endsIn h).symm
    simpa using h.1.append_slash dir.toList
  joined root := by
    rw [artifactStem_of_endsIn h]
    exact EndsIn.stem? ⟨h.1.join root, h.2⟩

theorem namedByItself {f : Fixture} (h : ¬ ∃ name, EndsIn f.source.text.toList name) :
    f.NamedByItself := by
  have hstem : f.artifactStem.toList = f.name.toList.map fun c => if isBlank c then '_' else c := by
    unfold artifactStem
    rw [stem?_of_not_endsIn h]
    exact String.toList_ofList
  refine ⟨?_, ?_, ?_⟩
  · rw [hstem, List.forall₂_map_right_iff]
    exact List.forall₂_same.mpr fun _ _ => rfl
  · rw [← String.length_toList, hstem, List.length_map, String.length_toList]
  · intro s hs
    rw [hstem] at hs
    obtain ⟨c, -, rfl⟩ := List.mem_map.mp hs
    split
    · decide
    · next hc => simpa using hc

/-! ## Top theorem -/

/-- **The last component of the source determines the stem.**  If it is a name, the stem is this name up
to its last dot, whatever stands around it, and it is the stem of the source seen from any root.  If there
is none, or it goes up, the stem is the name of the fixture without its blanks; and there are no other
sources. -/
theorem artifactStem_by_last_component (f : Fixture) :
    (∀ name, EndsIn f.source.text.toList name → f.NamedBySource name) ∧
    ((¬ ∃ name, EndsIn f.source.text.toList name) → f.NamedByItself) ∧
    ((¬ ∃ name, EndsIn f.source.text.toList name) ↔
      Trail ('/' :: f.source.text.toList) ∨ LastComponent f.source.text.toList ['.', '.']) :=
  ⟨fun _ => namedBySource, namedByItself, not_endsIn_iff f.source⟩

/-- A name of dots and a letter is cut at its second dot, and a source that goes up has no name. -/
theorem artifactStem_by_last_component_dots :
    let f := Fixture.make "Up There" "x//..c/./" []
    let g := Fixture.make "Up\tThere" "x/.." []
    f.artifactStem = "." ∧ (∀ root, (f.sourcePath root).stem? = some ".") ∧
    g.artifactStem.length = 8 ∧ ∀ s ∈ g.artifactStem.toList, isBlank s = false := by
  intro f g
  have hname : EndsIn f.source.text.toList ['.', '.', 'c'] :=
    ⟨⟨⟨['x', '/', '/'], ['/', '.', '/'], by decide, .inr rfl, .dot (.slash .nil)⟩, by decide, by decide,
      by decide⟩, by decide⟩
  have hup : LastComponent g.source.text.toList ['.', '.'] :=
    ⟨⟨['x', '/'], [], by decide, .inr rfl, .nil⟩, by decide, by decide, by decide⟩
  obtain ⟨hsource, -, -⟩ := artifactStem_by_last_component f
  obtain ⟨-, hitself, hends⟩ := artifactStem_by_last_component g
  have hf := hsource _ hname
  have hg := hitself (hends.mpr (.inr hup))
  have hstem : f.artifactStem = "." :=
    String.toList_inj.mp (hf.stem.front ['.'] ['c'] rfl (by decide) (by decide))
  exact ⟨hstem, fun root => hstem ▸ hf.joined root, hg.length.trans (by decide), hg.blank⟩

end Fixture
end HardenAudit
