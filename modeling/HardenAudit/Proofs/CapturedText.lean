import HardenAudit.Proofs.Decoding
import HardenAudit.Proofs.Writing
import HardenAudit.Toolchain.External

/-!
# What the analyser writes is what is counted and stored

The bytes of a stream become a text by lossy decoding.  The markers are ASCII, so a damaged stretch
neither hides a marker nor makes one, not even directly before it; and bytes that are UTF-8 are the
encoding of their text, so the file that stores the text holds the bytes.

    occurrences in the text = positions in the bytes                   (toNat_occurrences_decodeLossy)
    encode (decodeLossy bytes) = bytes, if the bytes are valid         (encode_decodeLossy)
    a text is stored by writing its encoding                           (persist_eq_ok_iff)
    an analysis gives decodeLossy of the bytes on stderr               (analyze_given?_eq_ok_iff)
-/

namespace HardenAudit

open Text (Bytes positions)
open Text.Utf8 (encode decodeLossy)

/-! ## Markers as bytes -/

namespace Category

theorem marker_ascii (c : Category) : ∀ b ∈ encode c.marker, b.toNat < 0x80 := by
  have hall : ((encode c.marker).all fun b => decide (b.toNat < 0x80)) = true := by
    cases c <;> decide
  intro b hb
  exact of_decide_eq_true (List.all_eq_true.mp hall b hb)

theorem encode_marker_ne_nil (c : Category) : encode c.marker ≠ [] := by
  cases c <;> decide

theorem asciiText_encode_marker (c : Category) :
    Text.Utf8.asciiText (encode c.marker) = c.marker.toList := by
  cases c <;> decide

/-- A category is found in a decoded text as often as its marker stands in the bytes. -/
theorem toNat_occurrences_decodeLossy (c : Category) (bytes : Bytes) :
    (c.occurrences (decodeLossy bytes)).toNat =
      (positions (encode c.marker) bytes).length % 2 ^ 32 := by
  have hcount := Text.Utf8.startCount_charsFrom (encode c.marker) c.marker_ascii
    c.encode_marker_ne_nil bytes .ready trivial
  have htext : (decodeLossy bytes).toList = Text.Utf8.charsFrom .ready bytes := by
    unfold decodeLossy
    rw [String.toList_ofList]
    rfl
  rw [c.toNat_occurrences, Text.length_positions, htext, ← c.asciiText_encode_marker, hcount,
    Text.length_positions]

end Category

/-! ## Valid bytes -/

theorem exists_encode_eq (bytes : Bytes) (h : bytes.toByteArray.IsValidUTF8) :
    ∃ text, encode text = bytes := by
  obtain ⟨chars, hchars⟩ := h
  refine ⟨String.ofList chars, ?_⟩
  unfold encode
  rw [String.toList_ofList]
  exact (List.toByteArray_inj.mp hchars).symm

theorem encode_decodeLossy (bytes : Bytes) (h : bytes.toByteArray.IsValidUTF8) :
    encode (decodeLossy bytes) = bytes := by
  obtain ⟨text, rfl⟩ := exists_encode_eq bytes h
  rw [Text.Utf8.decodeLossy_encode]

/-- A text is stored by writing its encoding where it belongs. -/
theorem persist_eq_ok_iff (fs fs' : FileSystem) (dir path : Path) (stem text : String) :
    persist fs dir stem text = (.ok path, fs') ↔
      path = storedPath dir stem ∧ fs.write path (encode text) = .ok fs' := by
  unfold persist FileSystem.writeText
  dsimp only
  constructor
  · intro h
    split at h
    · next fs'' hwrite =>
      cases h
      exact ⟨rfl, hwrite⟩
    · cases h
  · rintro ⟨rfl, hwrite⟩
    rw [hwrite]

/-! ## What is caught of a run -/

variable {ρ : Type}

/-- A run sees a program end with a status: the clock can show the deadline, and not after it a look
at the program finds it ended. -/
def Launch.Ends (b : Launch.Behaviour ρ) (limit : Span) (status : Launch.ExitStatus) : Prop :=
  ∃ deadline ending, (Moment.ofMicroseconds 0).add? limit = some deadline ∧
    Launch.wait b.observe deadline (Launch.roundLimit limit) 0 = some ending ∧
    ending.verdict = .exited status

/-- A run catches something of a program iff it sees it end and its streams are ever closed, and then the
lossy decoding of all its bytes. -/
theorem Launch.run_given?_eq_ok_iff (machine : Launch.Machine ρ) (command : Launch.Command) (limit : Span)
    (w : World ρ) (b : Launch.Behaviour ρ) (capture : Launch.Capture)
    (hlaunch : machine.launch w command (Launch.killTime limit) = .ok b) :
    (Launch.run machine command limit w).given? = some (.ok capture) ↔
      (command.program :: command.args).any Launch.Command.hasNul = false ∧
      Launch.Ends b limit capture.status ∧ b.closed.isSome = true ∧
      capture.stdout = decodeLossy (Launch.Behaviour.collect b.stdout) ∧
      capture.stderr = decodeLossy (Launch.Behaviour.collect b.stderr) := by
  rw [Answer.given?_eq_some_iff]
  unfold Launch.run Launch.Ends
  rw [hlaunch]
  -- the last second of the clock is too large a number to compute with
  generalize (Moment.ofMicroseconds 0).add? limit = deadline?
  cases hnul : (command.program :: command.args).any Launch.Command.hasNul with
  | true =>
    constructor
    · rintro ⟨-, h⟩
      cases h
    · rintro ⟨h, -⟩
      cases h
  | false =>
    rw [if_neg Bool.false_ne_true]
    cases deadline? with
    | none =>
      constructor
      · rintro ⟨-, h⟩
        cases h
      · rintro ⟨-, ⟨deadline, ending, h, -⟩, -⟩
        cases h
    | some deadline =>
      dsimp only
      constructor
      · rintro ⟨hreturns, h⟩
        split at h
        · cases h
        · next ending hwait =>
          rw [hwait] at hreturns
          dsimp only at hreturns
          split at h
          · cases h
          · cases h
          · next status hverdict =>
            rw [hverdict] at hreturns
            cases h
            exact ⟨rfl, ⟨deadline, ending, rfl, hwait, hverdict⟩, hreturns, rfl, rfl⟩
      · rintro ⟨-, ⟨deadline', ending, h, hwait, hverdict⟩, hclosed, hstdout, hstderr⟩
        cases h
        rw [hwait]
        dsimp only
        rw [hverdict]
        dsimp only
        rw [← hstdout, ← hstderr]
        exact ⟨hclosed, rfl⟩

/-- An analysis gives a text iff the analyser is seen to end and its streams are ever closed, however it
ends. -/
theorem External.analyze_given?_eq_ok_iff (machine : Launch.Machine ρ) (s : ToolSettings) (limit : UInt64)
    (artifact : Path) (w : World ρ) (b : Launch.Behaviour ρ) (text : String)
    (hlaunch : machine.launch w (External.analyzeCommand s artifact)
      (Launch.killTime (.ofMilliseconds limit)) = .ok b) :
    (External.analyze machine s limit artifact w).given? = some (.ok text) ↔
      (s.analyzer :: (External.analyzeCommand s artifact).args).any Launch.Command.hasNul = false ∧
      (∃ status, Launch.Ends b (.ofMilliseconds limit) status) ∧ b.closed.isSome = true ∧
      text = decodeLossy (Launch.Behaviour.collect b.stderr) := by
  have hrun := fun capture => Launch.run_given?_eq_ok_iff machine (External.analyzeCommand s artifact)
    (.ofMilliseconds limit) w b capture hlaunch
  simp only [Answer.given?_eq_some_iff] at hrun ⊢
  unfold External.analyze
  dsimp only
  constructor
  · rintro ⟨hreturns, h⟩
    split at h
    · cases h
    · next capture hok =>
      rw [hok] at hreturns
      cases h
      obtain ⟨hnul, hends, hclosed, -, hstderr⟩ := (hrun capture).mp ⟨hreturns, hok⟩
      exact ⟨hnul, ⟨_, hends⟩, hclosed, hstderr⟩
  · rintro ⟨hnul, ⟨status, hends⟩, hclosed, rfl⟩
    obtain ⟨hreturns, hok⟩ := (hrun ⟨status, decodeLossy (Launch.Behaviour.collect b.stdout),
      decodeLossy (Launch.Behaviour.collect b.stderr)⟩).mpr ⟨hnul, hends, hclosed, rfl, rfl⟩
    rw [hok]
    exact ⟨hreturns, rfl⟩

/-! ## Top theorem -/

/-- **Decoding neither makes nor loses findings.**  Whatever bytes the analyser writes, its text holds
each marker as often as the bytes do; and if the bytes are valid, storing the text is writing the
same bytes again, so that the file holds them.  The text is what an analysis gives, which is iff the
analyser is seen to end and its streams are ever closed. -/
theorem captured_text_keeps_findings (bytes : Bytes) :
    (∀ c : Category, (c.occurrences (decodeLossy bytes)).toNat =
      (positions (encode c.marker) bytes).length % 2 ^ 32) ∧
    (bytes.toByteArray.IsValidUTF8 →
      encode (decodeLossy bytes) = bytes ∧
      ∀ fs dir stem path fs',
        (persist fs dir stem (decodeLossy bytes) = (.ok path, fs') ↔
          path = storedPath dir stem ∧ fs.write path bytes = .ok fs') ∧
        (persist fs dir stem (decodeLossy bytes) = (.ok path, fs') → fs'.isFile path = true →
          fs'.content? path = some bytes)) ∧
    ∀ (ρ : Type) (machine : Launch.Machine ρ) s limit artifact w b text,
      machine.launch w (External.analyzeCommand s artifact)
        (Launch.killTime (.ofMilliseconds limit)) = .ok b →
      Launch.Behaviour.collect b.stderr = bytes →
      ((External.analyze machine s limit artifact w).given? = some (.ok text) ↔
        (s.analyzer :: (External.analyzeCommand s artifact).args).any Launch.Command.hasNul = false ∧
        (∃ status, Launch.Ends b (.ofMilliseconds limit) status) ∧ b.closed.isSome = true ∧
        text = decodeLossy bytes) := by
  refine ⟨fun c => c.toNat_occurrences_decodeLossy bytes, fun hvalid => ?_, ?_⟩
  · have hsame := encode_decodeLossy bytes hvalid
    refine ⟨hsame, fun fs dir stem path fs' => ?_⟩
    have hstore := persist_eq_ok_iff fs fs' dir path stem (decodeLossy bytes)
    rw [hsame] at hstore
    refine ⟨hstore, fun hstored hfile => ?_⟩
    exact FileSystem.content?_write fs fs' path bytes (hstore.mp hstored).2 hfile
  · rintro ρ machine s limit artifact w b text hlaunch rfl
    exact External.analyze_given?_eq_ok_iff machine s limit artifact w b text hlaunch

/-- A marker directly behind a sequence that breaks off is found, in what an analyser says that only
says this; and a text with a letter beyond ASCII is stored as the bytes that it came from. -/
theorem captured_text_behind_broken_sequence :
    let broken : Bytes := 0xE2 :: 0x82 :: encode "Load instruction"
    let machine : Launch.Machine Unit := ⟨fun w _ _ =>
      .ok { exit := some (0, .ok (.code 0)), stdout := [], stderr := [⟨0, broken⟩], closed := some 0,
            after := fun _ => w }⟩
    let whole : Bytes := encode "é Load instruction"
    let stored := persist (({} : FileSystem).put ["out"] { matter := .directory, mode := 0o755 })
      ⟨"/out"⟩ "a" (decodeLossy whole)
    (∃ text, (External.analyze machine {} 1000 ⟨"/out/a.ll"⟩ ⟨{}, ()⟩).given? = some (.ok text) ∧
      text = decodeLossy broken ∧ (Category.load.occurrences text).toNat = 1) ∧
    whole.toByteArray.IsValidUTF8 ∧ encode (decodeLossy whole) = whole ∧
    stored.1 = .ok ⟨"/out/a.output"⟩ ∧ stored.2.isFile ⟨"/out/a.output"⟩ = true ∧
    stored.2.content? ⟨"/out/a.output"⟩ = some whole := by
  intro broken machine whole stored
  have hcollect : Launch.Behaviour.collect [⟨0, broken⟩] = broken := by
    simp [Launch.Behaviour.collect]
  have htext : (External.analyze machine {} 1000 ⟨"/out/a.ll"⟩ ⟨{}, ()⟩).given? =
      some (.ok (decodeLossy (Launch.Behaviour.collect [⟨0, broken⟩]))) := rfl
  have hvalid : whole.toByteArray.IsValidUTF8 := ⟨_, rfl⟩
  have hpath : stored.1 = .ok ⟨"/out/a.output"⟩ := rfl
  have hfile : stored.2.isFile ⟨"/out/a.output"⟩ = true := by decide +kernel
  obtain ⟨hfound, -, htool⟩ := captured_text_keeps_findings broken
  obtain ⟨-, hwhole, -⟩ := captured_text_keeps_findings whole
  obtain ⟨hsame, hstored⟩ := hwhole hvalid
  refine ⟨⟨_, htext, ((htool Unit machine {} _ _ _ _ _ rfl hcollect).mp htext).2.2.2, ?_⟩, hvalid,
    hsame, hpath, hfile, (hstored _ _ _ _ _).2 (Prod.ext hpath rfl) hfile⟩
  rw [hcollect, hfound .load]
  decide

end HardenAudit
