import Mathlib.Data.List.Basic
import HardenAudit.Fixture
import HardenAudit.Proofs.Decoding
import HardenAudit.Proofs.Overwriting
import HardenAudit.Proofs.Preparing

/-!
# The names of the files that are kept for a fixture

The pieces of a path are those of its text, each as raw text.  A stem has no slash in it, so a file
that is kept under a stem lies in the directory itself; and a fixture without a stem has a source that
ends in dots, which can only be a directory.

    splitSlash (raw cs) = (splitSlash cs).map raw                      (splitSlash_raw)
    names in one directory have one way in front of them               (walk_front)
    a path that ends in dots leads to no file                          (isFile_of_dots)
    readable source → the stem is that of the source, without a slash  (stem_of_readable)
-/

namespace HardenAudit

namespace Path

/-! ## Pieces of a text -/

theorem splitSlash_ne_nil (cs : List Char) : splitSlash cs ≠ [] := by
  cases cs with
  | nil => simp [splitSlash]
  | cons c rest =>
    unfold splitSlash
    split
    · simp
    · split <;> simp

theorem splitSlash_cons (c : Char) {rest piece : List Char} {pieces : List (List Char)}
    (h : splitSlash rest = piece :: pieces) :
    splitSlash (c :: rest) = if c = '/' then [] :: piece :: pieces else (c :: piece) :: pieces := by
  rw [splitSlash, h]

theorem exists_splitSlash_eq (cs : List Char) : ∃ piece pieces, splitSlash cs = piece :: pieces :=
  List.exists_cons_of_ne_nil (splitSlash_ne_nil cs)

theorem splitSlash_append_slash (xs ys : List Char) :
    splitSlash (xs ++ '/' :: ys) = splitSlash xs ++ splitSlash ys := by
  induction xs with
  | nil =>
    obtain ⟨piece, pieces, h⟩ := exists_splitSlash_eq ys
    rw [List.nil_append, splitSlash_cons '/' h, if_pos rfl, h]
    rfl
  | cons c rest ih =>
    obtain ⟨piece, pieces, h⟩ := exists_splitSlash_eq rest
    rw [h, List.cons_append] at ih
    rw [List.cons_append, splitSlash_cons c ih, splitSlash_cons c h]
    split <;> rfl

theorem splitSlash_append {xs : List Char} (hxs : '/' ∉ xs) {ys piece : List Char}
    {pieces : List (List Char)} (h : splitSlash ys = piece :: pieces) :
    splitSlash (xs ++ ys) = (xs ++ piece) :: pieces := by
  induction xs with
  | nil => exact h
  | cons c rest ih =>
    have hc : c ≠ '/' := fun e => hxs (e ▸ List.mem_cons_self)
    rw [List.cons_append, splitSlash_cons c (ih fun hm => hxs (List.mem_cons_of_mem _ hm)),
      if_neg hc]
    rfl

theorem splitSlash_eq_singleton {cs : List Char} (h : '/' ∉ cs) : splitSlash cs = [cs] := by
  have := splitSlash_append h (show splitSlash [] = [[]] from rfl)
  rwa [List.append_nil] at this

theorem slash_not_mem_of_mem_splitSlash (cs : List Char) : ∀ piece ∈ splitSlash cs, '/' ∉ piece := by
  induction cs with
  | nil => simp [splitSlash]
  | cons c rest ih =>
    obtain ⟨first, others, h⟩ := exists_splitSlash_eq rest
    rw [h] at ih
    rw [splitSlash_cons c h]
    intro piece hp
    split at hp
    · rcases List.mem_cons.mp hp with rfl | hp
      · exact List.not_mem_nil
      · exact ih piece hp
    · next hc =>
      rcases List.mem_cons.mp hp with rfl | hp
      · rintro hm
        rcases List.mem_cons.mp hm with rfl | hm
        · exact hc rfl
        · exact ih first List.mem_cons_self hm
      · exact ih piece (List.mem_cons_of_mem _ hp)

/-! ## Stems -/

theorem mem_of_mem_trimIdle {pieces : List (List Char)} {piece : List Char}
    (h : piece ∈ trimIdle pieces) : piece ∈ pieces := by
  unfold trimIdle at h
  exact List.mem_reverse.mp ((List.dropWhile_sublist _).subset (List.mem_reverse.mp h))

theorem mem_of_mem_stemOf {name : List Char} {c : Char} (h : c ∈ stemOf name) : c ∈ name := by
  unfold stemOf at h
  dsimp only at h
  split at h
  · exact h
  · exact List.mem_reverse.mp
      ((List.dropWhile_sublist _).subset (List.mem_of_mem_drop (List.mem_reverse.mp h)))

/-- A stem has no slash in it. -/
theorem slash_not_mem_stem {p : Path} {stem : String} (h : p.stem? = some stem) :
    '/' ∉ stem.toList := by
  unfold stem? fileName? at h
  obtain ⟨name, hname, rfl⟩ := Option.map_eq_some_iff.mp h
  split at hname
  · cases hname
  · next piece hpiece =>
    split at hname
    · cases hname
    · cases hname
      rw [String.toList_ofList, String.toList_ofList]
      intro hm
      have hbody : piece ∈ p.body := List.mem_of_getLast? hpiece
      exact slash_not_mem_of_mem_splitSlash _ piece (mem_of_mem_trimIdle hbody) (mem_of_mem_stemOf hm)

/-- Up to the anchor a path and what follows its anchor end in the same piece. -/
theorem getLast?_splitSlash_anchor {cs : List Char} (h : cs ≠ ['.']) :
    (splitSlash (anchor cs).2).getLast? = (splitSlash cs).getLast? := by
  have hslash : ∀ front rest : List Char,
      (splitSlash (front ++ '/' :: rest)).getLast? = (splitSlash rest).getLast? := by
    intro front rest
    rw [splitSlash_append_slash, List.getLast?_append_of_ne_nil _ (splitSlash_ne_nil rest)]
  unfold anchor
  split
  · next rest => exact (hslash [] rest).symm
  · exact absurd rfl h
  · next rest => exact (hslash [] rest).trans (hslash ['.'] rest).symm
  · rfl

theorem trimIdle_concat (front : List (List Char)) {last : List Char} (h : isIdle last = false) :
    trimIdle (front ++ [last]) = front ++ [last] := by
  unfold trimIdle
  rw [List.reverse_append, List.reverse_singleton, List.singleton_append, List.dropWhile_cons, h]
  simp

/-- A path without a stem ends in a piece that names nothing, or goes up. -/
theorem last_of_stem?_eq_none {p : Path} (h : p.stem? = none) {last : List Char}
    (hlast : (splitSlash p.text.toList).getLast? = some last) :
    isIdle last = true ∨ last = ['.', '.'] := by
  by_cases hdot : p.text.toList = ['.']
  · rw [hdot] at hlast
    cases hlast
    exact .inl rfl
  · rw [← getLast?_splitSlash_anchor hdot] at hlast
    cases hidle : isIdle last with
    | true => exact .inl rfl
    | false =>
      right
      obtain ⟨front, hfront⟩ := List.getLast?_eq_some_iff.mp hlast
      unfold stem? fileName? body at h
      rw [hfront, trimIdle_concat front hidle, List.getLast?_concat] at h
      dsimp only at h
      split at h
      · next hup => exact hup
      · cases h

/-! ## Joined paths -/

/-- A relative path seen from another one stands behind it, with one slash between them. -/
theorem toList_join {base child : Path} (hbase : base.text ≠ "")
    (hchild : child.isAbsolute = false) : ∃ front,
    (base.join child).text.toList = front ++ '/' :: child.text.toList ∧
      (base.text.toList = front ∨ base.text.toList = front ++ ['/']) := by
  unfold join
  rw [hchild, if_neg (by simpa using hbase)]
  split
  · next hslash =>
    obtain ⟨front, hfront⟩ := List.getLast?_eq_some_iff.mp (beq_iff_eq.mp hslash)
    exact ⟨front, by simp [hfront], .inr hfront⟩
  · exact ⟨base.text.toList, by simp, .inl rfl⟩

/-- A joined path ends in the same piece as the path that was joined. -/
theorem getLast?_splitSlash_join (base child : Path) :
    (splitSlash (base.join child).text.toList).getLast? = (splitSlash child.text.toList).getLast? := by
  by_cases h : child.isAbsolute = true ∨ base.text = ""
  · have hjoin : base.join child = child := by
      unfold join
      rw [if_pos (by simpa using h)]
    rw [hjoin]
  · obtain ⟨habsolute, hbase⟩ := not_or.mp h
    obtain ⟨front, hjoin, -⟩ := toList_join hbase (Bool.not_eq_true _ ▸ habsolute)
    rw [hjoin, splitSlash_append_slash,
      List.getLast?_append_of_ne_nil _ (splitSlash_ne_nil child.text.toList)]

end Path

/-! ## Raw texts -/

namespace Text.Raw

/-- The raw text of a character, one character for each of its bytes. -/
def rawChar (c : Char) : List Char := (String.utf8EncodeChar c).map fun b => Char.ofNat b.toNat

/-- The raw text of some characters. -/
def raw (cs : List Char) : List Char := cs.flatMap rawChar

theorem rawChar_ascii {c : Char} (h : c.toNat < 0x80) : rawChar c = [c] := by
  unfold rawChar String.utf8EncodeChar
  dsimp only
  rw [show c.val.toNat = c.toNat from rfl, if_pos (by omega), List.map_singleton, UInt8.toNat_ofNat',
    Nat.mod_eq_of_lt (by omega), Char.ofNat_toNat]

theorem le_toNat_tailBytes (v due : Nat) : ∀ b ∈ Utf8.tailBytes v due, 0x80 ≤ b.toNat := by
  induction due with
  | zero => exact fun b hb => absurd hb List.not_mem_nil
  | succ d ih =>
    intro b hb
    rcases List.mem_cons.mp hb with rfl | hb
    · rw [Utf8.toNat_tailByte]
      omega
    · exact ih b hb

theorem rawChar_foreign {c : Char} (h : 0x80 ≤ c.toNat) :
    rawChar c ≠ [] ∧ ∀ x ∈ rawChar c, 0x80 ≤ x.toNat := by
  obtain ⟨first, d, hbytes, low, high, hlead, -⟩ := Utf8.utf8EncodeChar_foreign c h
  have hfirst : 0x80 ≤ first.toNat := by
    by_contra hascii
    rw [Utf8.lead_ascii first (by omega)] at hlead
    cases hlead
  have hall : ∀ b ∈ String.utf8EncodeChar c, 0x80 ≤ b.toNat := by
    intro b hb
    rw [hbytes] at hb
    rcases List.mem_cons.mp hb with rfl | hb
    · exact hfirst
    · exact le_toNat_tailBytes _ _ b hb
  unfold rawChar
  refine ⟨by rw [hbytes]; simp, fun x hx => ?_⟩
  obtain ⟨b, hb, rfl⟩ := List.mem_map.mp hx
  have hlt : b.toNat < 256 := b.toNat_lt
  rw [Utf8.toNat_ofNat _ (by unfold Nat.isValidChar; omega)]
  exact hall b hb

theorem rawChar_ne_nil (c : Char) : rawChar c ≠ [] := by
  by_cases h : c.toNat < 0x80
  · rw [rawChar_ascii h]
    simp
  · exact (rawChar_foreign (by omega)).1

theorem slash_mem_rawChar_iff (c : Char) : '/' ∈ rawChar c ↔ c = '/' := by
  constructor
  · intro hm
    by_cases h : c.toNat < 0x80
    · rw [rawChar_ascii h, List.mem_singleton] at hm
      exact hm.symm
    · have hslash : 0x80 ≤ '/'.toNat := (rawChar_foreign (by omega)).2 _ hm
      exact absurd hslash (by decide)
  · rintro rfl
    decide

theorem raw_cons (c : Char) (cs : List Char) : raw (c :: cs) = rawChar c ++ raw cs := rfl

theorem raw_append (xs ys : List Char) : raw (xs ++ ys) = raw xs ++ raw ys :=
  List.flatMap_append

theorem raw_ne_nil {cs : List Char} (h : cs ≠ []) : raw cs ≠ [] := by
  obtain ⟨c, rest, rfl⟩ := List.exists_cons_of_ne_nil h
  rw [raw_cons]
  exact List.append_ne_nil_of_left_ne_nil (rawChar_ne_nil c) _

theorem slash_mem_raw_iff (cs : List Char) : '/' ∈ raw cs ↔ '/' ∈ cs := by
  unfold raw
  simp [slash_mem_rawChar_iff]

/-- Different texts have different raw texts, as the bytes can be decoded. -/
theorem raw_inj {xs ys : List Char} (h : raw xs = raw ys) : xs = ys := by
  have hbytes : ∀ cs : List Char, raw cs =
      (Utf8.encode (String.ofList cs)).map fun b => Char.ofNat b.toNat := by
    intro cs
    unfold raw rawChar Utf8.encode
    rw [String.toList_ofList, List.map_flatMap]
  have hchar : ∀ b c : UInt8, Char.ofNat b.toNat = Char.ofNat c.toNat → b = c := by
    intro b c hbc
    have hb : b.toNat < 256 := b.toNat_lt
    have hc : c.toNat < 256 := c.toNat_lt
    have hcodes := congrArg Char.toNat hbc
    rw [Utf8.toNat_ofNat _ (by unfold Nat.isValidChar; omega),
      Utf8.toNat_ofNat _ (by unfold Nat.isValidChar; omega)] at hcodes
    exact UInt8.toNat_inj.mp hcodes
  rw [hbytes, hbytes, List.map_inj_right hchar] at h
  have htexts := congrArg Utf8.decodeLossy h
  rw [Utf8.decodeLossy_encode, Utf8.decodeLossy_encode] at htexts
  exact String.ofList_inj.mp htexts

theorem toList_ofText (text : String) : (ofText text).toList = raw text.toList := by
  unfold ofText
  split
  · next h =>
    unfold isAscii at h
    have hall : ∀ cs : List Char, (cs.all (·.toNat < 0x80)) = true → raw cs = cs := by
      intro cs
      induction cs with
      | nil => exact fun _ => rfl
      | cons c rest ih =>
        intro h
        rw [List.all_cons, Bool.and_eq_true] at h
        rw [raw_cons, rawChar_ascii (of_decide_eq_true h.1), ih h.2]
        rfl
    exact (hall _ h).symm
  · unfold ofBytes Utf8.encode raw rawChar
    rw [String.toList_ofList, List.map_flatMap]

end Text.Raw

namespace Path

open Text.Raw

/-- The pieces of a raw text are those of the text, as raw texts. -/
theorem splitSlash_raw (cs : List Char) : splitSlash (raw cs) = (splitSlash cs).map raw := by
  induction cs with
  | nil => rfl
  | cons c rest ih =>
    obtain ⟨piece, pieces, h⟩ := exists_splitSlash_eq rest
    rw [h, List.map_cons] at ih
    rw [raw_cons, splitSlash_cons c h]
    by_cases hc : c = '/'
    · subst hc
      rw [if_pos rfl, show rawChar '/' = ['/'] by decide, List.singleton_append,
        splitSlash_cons '/' ih, if_pos rfl]
      rfl
    · have hslash : '/' ∉ rawChar c := fun hm => hc ((slash_mem_rawChar_iff c).mp hm)
      rw [if_neg hc, splitSlash_append hslash ih]
      rfl

/-- The route of a path has the pieces of its text, as raw texts. -/
theorem route_ok {p : Path} {r : Route} (h : p.route = .ok r) :
    r.isAbsolute = ((raw p.text.toList).head? == some '/') ∧
    r.pieces = (splitSlash (raw p.text.toList)).map String.ofList := by
  unfold route Route.ofRaw at h
  obtain ⟨_, -, h⟩ := bind_ok h
  cases h
  unfold Route.split
  rw [toList_ofText]
  exact ⟨rfl, rfl⟩

theorem route_ne_notFound {p : Path} (h : p.text ≠ "") : p.route ≠ .error .notFound := by
  have hraw : ofText p.text ≠ "" := by
    intro hempty
    have hlist := congrArg String.toList hempty
    rw [toList_ofText] at hlist
    exact raw_ne_nil (fun hnil => h (String.toList_eq_nil_iff.mp hnil)) hlist
  unfold route Route.ofRaw Route.acceptable
  rw [if_neg hraw]
  intro hroute
  split at hroute
  · cases hroute
  · split at hroute <;> cases hroute

end Path

namespace FileSystem

open Text (Bytes)
open Path Text.Raw

variable {fs : FileSystem}

/-! ## Files in a directory that was prepared -/

/-- A path is the name of a link that leads into a directory which is missing. -/
def Dangles (fs : FileSystem) (p : Path) : Prop :=
  ∃ r loc, p.route = .ok r ∧ fs.target r = .ok (.entry loc false) ∧
    (fs.link? loc).isSome = true ∧ fs.locate r = .error .notFound

theorem dangles_iff (fs : FileSystem) (p : Path) : fs.Dangles p ↔
    (match p.route with
      | .ok r => match fs.target r with
        | .ok (.entry loc false) =>
          (fs.link? loc).isSome && decide (fs.locate r = .error .notFound)
        | _ => false
      | .error _ => false) = true := by
  unfold Dangles
  cases p.route with
  | error e => simp
  | ok r =>
    cases ht : fs.target r with
    | error e => simp [ht]
    | ok t =>
      cases t with
      | present => simp [ht]
      | entry loc slash => cases slash <;> simp [ht]

instance (fs : FileSystem) (p : Path) : Decidable (fs.Dangles p) :=
  decidable_of_iff _ (dangles_iff fs p).symm

/-- A name without a slash is one piece of a way, and the way does not start at the root. -/
theorem route_name (fs : FileSystem) {name : String} (hslash : '/' ∉ name.toList) {r : Route}
    (hr : Path.route ⟨name⟩ = .ok r) :
    fs.origin r = fs.here ∧ r.pieces = [String.ofList (raw name.toList)] := by
  obtain ⟨habsolute, hpieces⟩ := route_ok hr
  have hraw : '/' ∉ raw name.toList := fun hm => hslash ((slash_mem_raw_iff _).mp hm)
  rw [splitSlash_eq_singleton hraw] at hpieces
  refine ⟨?_, hpieces⟩
  unfold origin
  rw [habsolute, if_neg]
  exact fun hhead => hraw (List.mem_of_head? (beq_iff_eq.mp hhead))

/-- The way to a name in a directory starts where the way to the directory starts, and goes on from
there by the name. -/
theorem route_join (fs : FileSystem) {dir : Path} (hdir : dir.text ≠ "") {name : String}
    (hslash : '/' ∉ name.toList) {r rdir : Route} (hr : (dir.join ⟨name⟩).route = .ok r)
    (hrdir : dir.route = .ok rdir) :
    fs.origin r = fs.origin rdir ∧ ∃ front, r.pieces = front ++ [String.ofList (raw name.toList)] ∧
      (rdir.pieces = front ∨ rdir.pieces = front ++ [""]) := by
  have hraw : '/' ∉ raw name.toList := fun hm => hslash ((slash_mem_raw_iff _).mp hm)
  have hrelative : Path.isAbsolute ⟨name⟩ = false := by
    unfold Path.isAbsolute
    rw [beq_eq_false_iff_ne]
    exact fun hhead => hslash (List.mem_of_head? hhead)
  obtain ⟨front, hjoin, hfront⟩ := toList_join hdir hrelative
  obtain ⟨habsolute, hpieces⟩ := route_ok hr
  obtain ⟨habsolute', hpieces'⟩ := route_ok hrdir
  rw [hjoin, raw_append, raw_cons, show rawChar '/' = ['/'] by decide, List.singleton_append]
    at habsolute hpieces
  rw [splitSlash_append_slash, splitSlash_eq_singleton hraw, List.map_append] at hpieces
  refine ⟨?_, _, hpieces, ?_⟩
  · unfold origin
    rw [habsolute, habsolute']
    by_cases hnil : front = []
    · subst hnil
      rcases hfront with hnil | hroot
      · exact absurd (String.toList_eq_nil_iff.mp hnil) hdir
      · rw [hroot]
        rfl
    · have hne := raw_ne_nil hnil
      rw [List.head?_append_of_ne_nil _ hne]
      rcases hfront with hsame | hslash'
      · rw [hsame]
      · rw [hslash', raw_append, List.head?_append_of_ne_nil _ hne]
  · rcases hfront with hsame | hslash'
    · exact .inl (by rw [hpieces', hsame])
    · right
      rw [hpieces', hslash', raw_append, show raw ['/'] = ['/'] by decide, splitSlash_append_slash,
        List.map_append]
      rfl

/-- The way to a name in a directory leads through the directory, which is the same for every name. -/
theorem walk_front (hfs : fs.Grounded) {dir : Path}
    (hdir : dir.text = "" ∨ fs.isDirectory dir = true) : ∃ parent, fs.HoldsDirectory parent ∧
      ∀ name : String, name ≠ "" → '/' ∉ name.toList → ∀ r, (dir.join ⟨name⟩).route = .ok r →
        ∃ front, r.pieces = front ++ [String.ofList (raw name.toList)] ∧
          String.ofList (raw name.toList) ≠ "" ∧
          fs.walk true linkLimit (fs.origin r) front = .ok parent := by
  have hraw : ∀ name : String, name ≠ "" → String.ofList (raw name.toList) ≠ "" := by
    intro name hname hempty
    have hlist := congrArg String.toList hempty
    rw [String.toList_ofList] at hlist
    exact raw_ne_nil (fun hnil => hname (String.toList_eq_nil_iff.mp hnil)) hlist
  by_cases hempty : dir.text = ""
  · refine ⟨fs.here, hfs.here, fun name hname hslash r hr => ?_⟩
    have hjoin : dir.join ⟨name⟩ = ⟨name⟩ := by
      unfold join
      rw [if_pos (by simp [hempty])]
    rw [hjoin] at hr
    obtain ⟨hhere, hpieces⟩ := route_name fs hslash hr
    exact ⟨[], hpieces, hraw name hname, by rw [hhere]; cases linkLimit <;> rfl⟩
  · obtain ⟨l, hplace, hholds⟩ := HoldsDirectory.of_isDirectory hfs (hdir.resolve_left hempty)
    refine ⟨l, hholds, fun name hname hslash r hr => ?_⟩
    unfold place at hplace
    obtain ⟨rdir, hrdir, hlocate⟩ := bind_ok hplace
    obtain ⟨horigin, front, hpieces, hfront⟩ := route_join fs hempty hslash hr hrdir
    refine ⟨front, hpieces, hraw name hname, ?_⟩
    unfold locate at hlocate
    rw [horigin]
    rcases hfront with hsame | hslash'
    · rwa [hsame] at hlocate
    · rw [hslash'] at hlocate
      exact walk_of_append_trailing fs linkLimit _ l [""] _ (by simp) hlocate

theorem bind_ne_error {ε α β : Type} {x : Except ε α} {f : α → Except ε β} {e : ε}
    (hx : x ≠ .error e) (hf : ∀ a, x = .ok a → f a ≠ .error e) : (x >>= f) ≠ .error e := by
  cases x with
  | error e' =>
    intro h
    cases h
    exact hx rfl
  | ok a => exact hf a rfl

theorem HoldsDirectory.requireDirectory_ne {l : Location} (h : fs.HoldsDirectory l) :
    fs.requireDirectory l ≠ .error .notFound := by
  obtain ⟨n, hn, hdir⟩ := h
  unfold requireDirectory
  rw [hn]
  dsimp only
  rw [hdir, if_neg (by simp)]
  split <;> simp

theorem HoldsDirectory.requireAccess_ne {l : Location} (h : fs.HoldsDirectory l.dropLast) :
    fs.requireAccess l ≠ .error .notFound := by
  obtain ⟨n, hn, -⟩ := h
  unfold requireAccess
  rw [hn]
  dsimp only
  split <;> simp

theorem HoldsDirectory.step_ne {l : Location} (h : fs.HoldsDirectory l) (piece : String) :
    fs.step l piece ≠ .error .notFound := by
  unfold step
  refine bind_ne_error h.requireDirectory_ne fun _ _ => ?_
  split
  · simp [pure, Except.pure]
  split
  · simp [pure, Except.pure]
  split <;> simp [pure, Except.pure]

theorem dropWhile_trailing {pieces front : List String} {last : String}
    (hpieces : pieces = front ++ [last]) (hlast : last ≠ "") :
    (pieces.reverse.dropWhile (· == "")).reverse = front ++ [last] := by
  rw [hpieces, List.reverse_append, List.reverse_singleton, List.singleton_append,
    List.dropWhile_cons_of_neg (by simpa using hlast)]
  simp

theorem target_ne_notFound (hfs : fs.Grounded) {dir : Path}
    (hdir : dir.text = "" ∨ fs.isDirectory dir = true) {name : String} (hname : name ≠ "")
    (hslash : '/' ∉ name.toList) {r : Route} (hr : (dir.join ⟨name⟩).route = .ok r) :
    fs.target r ≠ .error .notFound := by
  obtain ⟨parent, hholds, hfronts⟩ := walk_front hfs hdir
  obtain ⟨front, hpieces, hlast, hparent⟩ := hfronts name hname hslash r hr
  unfold target
  dsimp only
  rw [dropWhile_trailing hpieces hlast, List.getLast?_concat, List.dropLast_concat]
  dsimp only
  rw [hparent]
  refine bind_ne_error (by simp) fun parent' hsame => ?_
  cases hsame
  refine bind_ne_error (hholds.step_ne _) fun loc _ => ?_
  split <;> simp

/-- In a directory that is there, only a link can name something that has no place. -/
theorem writable_ne_notFound (hfs : fs.Grounded) {dir : Path}
    (hdir : dir.text = "" ∨ fs.isDirectory dir = true) {name : String} (hname : name ≠ "")
    (hslash : '/' ∉ name.toList) (hlink : ¬ fs.Dangles (dir.join ⟨name⟩)) {r : Route}
    (hr : (dir.join ⟨name⟩).route = .ok r) : fs.writable r ≠ .error .notFound := by
  unfold writable
  refine bind_ne_error (target_ne_notFound hfs hdir hname hslash hr) fun t ht => ?_
  cases t with
  | present => simp
  | entry loc slash =>
    cases slash with
    | true => simp
    | false =>
      refine bind_ne_error ?_ fun loc' _ => bind_ne_error ?_ fun _ _ => by simp
      · split
        · next hsome => exact fun hmissing => hlink ⟨r, loc, hr, ht, hsome, hmissing⟩
        · simp
      · unfold requireNoDirectory
        split
        · split <;> simp
        · simp

theorem landing_ne_notFound (hfs : fs.Grounded) {dir : Path}
    (hdir : dir.text = "" ∨ fs.isDirectory dir = true) {name : String} (hname : name ≠ "")
    (hslash : '/' ∉ name.toList) (hlink : ¬ fs.Dangles (dir.join ⟨name⟩)) (content : Bytes) :
    fs.landing (dir.join ⟨name⟩) content ≠ .error .notFound := by
  have htext : (dir.join ⟨name⟩).text ≠ "" := by
    intro hempty
    have hlast := getLast?_splitSlash_join dir ⟨name⟩
    rw [hempty, splitSlash_eq_singleton hslash] at hlast
    exact hname (String.toList_eq_nil_iff.mp (Option.some.inj hlast).symm)
  unfold landing
  refine bind_ne_error (route_ne_notFound htext) fun r hr =>
    bind_ne_error (writable_ne_notFound hfs hdir hname hslash hlink hr) fun loc hw =>
      bind_ne_error ?_ fun _ _ => by simp
  have hparent := (Above.locate hfs (locate_of_writable fs r loc hw)).dropLast (writable_ne_nil hw)
  unfold allow
  split
  · exact hparent.requireAccess_ne
  · split
    · split <;> simp
    · simp

/-! ## Sources that can be read -/

/-- A step by a piece that names nothing, or goes up, ends in a directory. -/
theorem HoldsDirectory.of_step (hfs : fs.Grounded) {l next : Location} (h : fs.Above l)
    {piece : String} (hpiece : isIdle piece.toList = true ∨ piece = "..")
    (hstep : fs.step l piece = .ok next) : fs.HoldsDirectory next := by
  obtain ⟨hdir, ⟨-, rfl⟩ | ⟨-, rfl⟩ | ⟨hname, hup, -⟩⟩ := step_ok hstep
  · exact hfs.holdsDirectory hdir
  · by_cases hroot : l = []
    · subst hroot
      exact ⟨_, rfl, rfl⟩
    · exact h.dropLast hroot
  · rcases hpiece with hidle | hdots
    · rw [hidle] at hname
      cases hname
    · exact absurd hdots hup

/-- An ordinary file is no directory. -/
theorem not_holdsDirectory_of_isFile {p : Path} {loc : Location} (hplace : fs.place p = .ok loc)
    (hfile : fs.isFile p = true) : ¬ fs.HoldsDirectory loc := by
  rintro ⟨n, hn, hdir⟩
  unfold isFile at hfile
  rw [stat_of_place hplace hn] at hfile
  dsimp only at hfile
  rw [n.isOrdinary_of_isDirectory hdir] at hfile
  cases hfile

theorem isFile_of_isReadable {p : Path} (hread : fs.isReadable p = true) : fs.isFile p = true := by
  unfold isReadable at hread
  unfold isFile
  cases hstat : fs.stat p with
  | error e =>
    rw [hstat] at hread
    cases hread
  | ok n =>
    rw [hstat, Bool.and_eq_true] at hread
    exact hread.1

/-- The last piece of a path that ends in dots, as it stands in a route, names nothing or goes up. -/
theorem raw_last_of_dots {last : List Char} (hlast : isIdle last = true ∨ last = ['.', '.']) :
    isIdle (String.ofList (raw last)).toList = true ∨ String.ofList (raw last) = ".." := by
  rw [String.toList_ofList]
  rcases hlast with hidle | rfl
  · left
    unfold isIdle at hidle
    rw [Bool.or_eq_true, beq_iff_eq, beq_iff_eq] at hidle
    rcases hidle with rfl | rfl <;> rfl
  · right
    decide

/-- A path whose last piece names nothing, or goes up, leads to no file. -/
theorem isFile_of_dots (hfs : fs.Grounded) {p : Path} {last : List Char}
    (hlast : (splitSlash p.text.toList).getLast? = some last)
    (hdots : isIdle last = true ∨ last = ['.', '.']) : fs.isFile p = false := by
  rw [← Bool.not_eq_true]
  intro hfile
  obtain ⟨front, hfront⟩ := List.getLast?_eq_some_iff.mp hlast
  cases hplace : fs.place p with
  | error e =>
    unfold isFile at hfile
    rw [stat_eq, hplace] at hfile
    cases hfile
  | ok loc =>
    have hnone := not_holdsDirectory_of_isFile hplace hfile
    unfold place at hplace
    obtain ⟨r, hr, hlocate⟩ := bind_ok hplace
    unfold locate at hlocate
    rw [(route_ok hr).2, splitSlash_raw, hfront, List.map_append, List.map_append] at hlocate
    obtain ⟨parent, hparent, next, hstep, hend⟩ := walk_concat fs linkLimit _ _ _ _ hlocate
    have habove := Above.walk hfs true linkLimit _ _ _ (Above.origin hfs r) hparent
    have hholds := HoldsDirectory.of_step hfs habove (raw_last_of_dots hdots) hstep
    rw [hend hholds.link?] at hnone
    exact hnone hholds

/-- A fixture whose source is a file has the stem of its source, where paths that end in dots lead to
none. -/
theorem stem_of_isFile {root source : Path} (hfile : fs.isFile (root.join source) = true)
    (hdots : ∀ last, (splitSlash (root.join source).text.toList).getLast? = some last →
      isIdle last = true ∨ last = ['.', '.'] → fs.isFile (root.join source) = false) :
    ∃ stem, source.stem? = some stem := by
  cases hstem : source.stem? with
  | some stem => exact ⟨stem, rfl⟩
  | none =>
    exfalso
    obtain ⟨last, hlast⟩ : ∃ last, (splitSlash source.text.toList).getLast? = some last :=
      ⟨_, List.getLast?_eq_some_getLast (splitSlash_ne_nil _)⟩
    have hnone := hdots last (by rw [getLast?_splitSlash_join, hlast])
      (last_of_stem?_eq_none hstem hlast)
    rw [hnone] at hfile
    cases hfile

/-- A fixture whose source can be read has the stem of its source. -/
theorem stem_of_readable (hfs : fs.Grounded) {root source : Path}
    (hread : fs.isReadable (root.join source) = true) : ∃ stem, source.stem? = some stem :=
  stem_of_isFile (isFile_of_isReadable hread) fun _ hlast hdots => isFile_of_dots hfs hlast hdots

end FileSystem
end HardenAudit
