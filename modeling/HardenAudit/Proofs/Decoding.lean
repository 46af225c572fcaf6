import HardenAudit.Proofs.Counting
import HardenAudit.Text.Utf8

/-!
# Lossy decoding keeps ASCII patterns and valid text

The decoder is a machine that is between characters or inside a sequence.  Inside a sequence it takes
only bytes beyond ASCII, and whatever the sequence becomes is a character beyond ASCII
(`Machine.Sound`, kept by every step).  So an ASCII byte always gives its own character, and no other
byte gives one.

    Sound m → startCount (asciiText p) (charsFrom m bytes) = startCount p bytes   (startCount_charsFrom)
    decodeLossy (encode text) = text                                              (decodeLossy_encode)
-/

namespace HardenAudit.Text.Utf8

/-! ## Steps of the machine -/

theorem toNat_ofNat (n : Nat) (h : n.isValidChar) : (Char.ofNat n).toNat = n := by
  unfold Char.ofNat
  rw [dif_pos h]
  rfl

/-- What a byte means between characters, by its number. -/
theorem lead_eq (b : UInt8) : lead b =
    if b.toNat < 0x80 then ([some (Char.ofNat b.toNat)], .ready)
    else if b.toNat < 0xC2 then ([none], .ready)
    else if b.toNat < 0xE0 then ([], .within (b.toNat % 0x20) 1 0x80 0xBF)
    else if b.toNat = 0xE0 then ([], .within 0 2 0xA0 0xBF)
    else if b.toNat = 0xED then ([], .within 0xD 2 0x80 0x9F)
    else if b.toNat < 0xF0 then ([], .within (b.toNat % 0x10) 2 0x80 0xBF)
    else if b.toNat = 0xF0 then ([], .within 0 3 0x90 0xBF)
    else if b.toNat < 0xF4 then ([], .within (b.toNat % 8) 3 0x80 0xBF)
    else if b.toNat = 0xF4 then ([], .within 4 3 0x80 0x8F)
    else ([none], .ready) := by
  unfold lead
  simp only [UInt8.lt_iff_toNat_lt, ← UInt8.toNat_inj, UInt8.reduceToNat]

/-- `v` is a code that the sequence can still become: it starts with what was read, and its next byte
is in the range. -/
def Continues (v code due : Nat) (low high : UInt8) : Prop :=
  v / 64 ^ due = code ∧ low.toNat ≤ 0x80 + v / 64 ^ (due - 1) % 64 ∧
    0x80 + v / 64 ^ (due - 1) % 64 ≤ high.toNat

/-- Inside a sequence only bytes beyond ASCII are taken, and every code that the sequence can still
become is a character beyond ASCII. -/
def Machine.Sound : Machine → Prop
  | .ready => True
  | .within code due low high =>
    0 < due ∧ 0x80 ≤ low.toNat ∧ high.toNat ≤ 0xBF ∧
      ∀ v, Continues v code due low high → v.isValidChar ∧ 0x80 ≤ v

theorem lead_ascii (b : UInt8) (hb : b.toNat < 0x80) :
    lead b = ([some (Char.ofNat b.toNat)], .ready) := by
  rw [lead_eq, if_pos hb]

/-- No unit, or the start of a sound sequence. -/
def Opens (r : List (Option Char) × Machine) : Prop :=
  r = ([none], .ready) ∨ ∃ code due low high, r = ([], .within code due low high) ∧
    (Machine.within code due low high).Sound

theorem opens_within {code due : Nat} {low high : UInt8} (hdue : 0 < due) (hlow : 0x80 ≤ low.toNat)
    (hhigh : high.toNat ≤ 0xBF)
    (hv : ∀ v, Continues v code due low high → v.isValidChar ∧ 0x80 ≤ v) :
    Opens ([], .within code due low high) :=
  .inr ⟨code, due, low, high, rfl, hdue, hlow, hhigh, hv⟩

theorem lead_foreign (b : UInt8) (hb : 0x80 ≤ b.toNat) : Opens (lead b) := by
  rw [lead_eq, if_neg (by omega)]
  refine iteInduction (fun _ => .inl rfl) fun _ => ?_
  iterate 7
    refine iteInduction (fun _ => opens_within (by omega) (by decide) (by decide) ?_) fun _ => ?_
    · intro v hv
      simp [Continues] at hv
      simp only [Nat.isValidChar]
      omega
  exact .inl rfl

/-- A byte in the range: the sequence ends in a character beyond ASCII, or goes on. -/
theorem step_within (code due : Nat) (low high b : UInt8)
    (hs : (Machine.within code due low high).Sound) (hb : low ≤ b ∧ b ≤ high) :
    (∃ c : Char, 0x80 ≤ c.toNat ∧ step (.within code due low high) b = ([some c], .ready)) ∨
    ∃ code' due' low' high',
      step (.within code due low high) b = ([], .within code' due' low' high') ∧
      (Machine.within code' due' low' high').Sound := by
  obtain ⟨hdue, hlow, hhigh, hall⟩ := hs
  simp only [step, if_pos hb]
  have hlb : low.toNat ≤ b.toNat := UInt8.le_iff_toNat_le.mp hb.1
  have hbh : b.toNat ≤ high.toNat := UInt8.le_iff_toNat_le.mp hb.2
  by_cases h1 : due = 1
  · subst h1
    left
    have hv : Continues (code * 0x40 + b.toNat % 0x40) code 1 low high := by
      simp only [Continues, Nat.pow_one, Nat.sub_self, Nat.pow_zero, Nat.div_one]
      omega
    obtain ⟨hvalid, hbig⟩ := hall _ hv
    refine ⟨Char.ofNat (code * 0x40 + b.toNat % 0x40), ?_, by simp⟩
    rwa [toNat_ofNat _ hvalid]
  · right
    refine ⟨code * 0x40 + b.toNat % 0x40, due - 1, 0x80, 0xBF, by simp only [if_neg h1], by omega,
      by decide, by decide, ?_⟩
    intro v hv
    apply hall v
    obtain ⟨hcode, -, -⟩ := hv
    obtain ⟨d, rfl⟩ : ∃ d, due = d + 1 := ⟨due - 1, by omega⟩
    simp only [Continues, Nat.add_sub_cancel, Nat.pow_succ, ← Nat.div_div_eq_div_mul] at hcode ⊢
    omega

theorem step_outside (code due : Nat) (low high b : UInt8) (hb : ¬ (low ≤ b ∧ b ≤ high)) :
    step (.within code due low high) b = (none :: (lead b).1, (lead b).2) := by
  simp only [step, if_neg hb]

/-! ## Decoded characters -/

/-- The characters of a byte string that is read from a machine on. -/
def charsFrom (m : Machine) (bytes : Bytes) : List Char :=
  (unitsFrom m bytes).map (·.getD replacement)

theorem charsFrom_cons (m : Machine) (b : UInt8) (rest : Bytes) :
    charsFrom m (b :: rest) =
      (step m b).1.map (·.getD replacement) ++ charsFrom (step m b).2 rest := by
  unfold charsFrom
  rw [unitsFrom, List.map_append]

theorem toNat_replacement : replacement.toNat = 0xFFFD := by decide

theorem charsFrom_ascii (b : UInt8) (rest : Bytes) (hb : b.toNat < 0x80) :
    charsFrom .ready (b :: rest) = Char.ofNat b.toNat :: charsFrom .ready rest := by
  rw [charsFrom_cons]
  simp only [step, lead_ascii b hb, List.map_cons, List.map_nil, Option.getD_some,
    List.singleton_append]

theorem charsFrom_outside (code due : Nat) (low high b : UInt8) (rest : Bytes)
    (hb : ¬ (low ≤ b ∧ b ≤ high)) :
    charsFrom (.within code due low high) (b :: rest) =
      replacement :: charsFrom .ready (b :: rest) := by
  rw [charsFrom_cons, charsFrom_cons, step_outside code due low high b hb]
  rfl

/-- A byte beyond ASCII gives only characters beyond ASCII. -/
theorem charsFrom_foreign (m : Machine) (hm : m.Sound) (b : UInt8) (rest : Bytes)
    (hb : 0x80 ≤ b.toNat) :
    ∃ cs next, charsFrom m (b :: rest) = cs ++ charsFrom next rest ∧ next.Sound ∧
      ∀ c ∈ cs, 0x80 ≤ c.toNat := by
  have hready : ∃ cs next, charsFrom .ready (b :: rest) = cs ++ charsFrom next rest ∧ next.Sound ∧
      ∀ c ∈ cs, 0x80 ≤ c.toNat := by
    rw [charsFrom_cons]
    rcases lead_foreign b hb with h | ⟨code, due, low, high, h, hs⟩
    · refine ⟨[replacement], .ready, by simp only [step, h]; rfl, trivial, ?_⟩
      simp [toNat_replacement]
    · exact ⟨[], _, by simp only [step, h]; rfl, hs, by simp⟩
  cases m with
  | ready => exact hready
  | within code due low high =>
    by_cases hin : low ≤ b ∧ b ≤ high
    · rw [charsFrom_cons]
      rcases step_within code due low high b hm hin with ⟨c, hc, h⟩ | ⟨_, _, _, _, h, hs⟩
      · exact ⟨[c], .ready, by rw [h]; rfl, trivial, by simpa using hc⟩
      · exact ⟨[], _, by rw [h]; rfl, hs, by simp⟩
    · obtain ⟨cs, next, h, hs, hcs⟩ := hready
      refine ⟨replacement :: cs, next, ?_, hs, ?_⟩
      · rw [charsFrom_outside code due low high b rest hin, h, List.cons_append]
      · intro c hc
        rcases List.mem_cons.mp hc with rfl | hc
        · rw [toNat_replacement]; omega
        · exact hcs c hc

/-- A sequence that has begun gives a character beyond ASCII next. -/
theorem charsFrom_within (bytes : Bytes) : ∀ code due low high,
    (Machine.within code due low high).Sound →
    ∃ c cs, charsFrom (.within code due low high) bytes = c :: cs ∧ 0x80 ≤ c.toNat := by
  have hdamaged : 0x80 ≤ replacement.toNat := by rw [toNat_replacement]; omega
  induction bytes with
  | nil => intro code due low high _; exact ⟨replacement, [], rfl, hdamaged⟩
  | cons b rest ih =>
    intro code due low high hs
    by_cases hin : low ≤ b ∧ b ≤ high
    · rw [charsFrom_cons]
      rcases step_within code due low high b hs hin with ⟨c, hc, h⟩ | ⟨code', due', low', high', h, hs'⟩
      · exact ⟨c, charsFrom .ready rest, by rw [h]; rfl, hc⟩
      · rw [h]
        exact ih code' due' low' high' hs'
    · exact ⟨replacement, _, charsFrom_outside code due low high b rest hin, hdamaged⟩

/-- A byte beyond ASCII gives a character beyond ASCII next. -/
theorem charsFrom_ready_foreign (b : UInt8) (rest : Bytes) (hb : 0x80 ≤ b.toNat) :
    ∃ c cs, charsFrom .ready (b :: rest) = c :: cs ∧ 0x80 ≤ c.toNat := by
  rw [charsFrom_cons]
  rcases lead_foreign b hb with h | ⟨code, due, low, high, h, hs⟩
  · exact ⟨replacement, _, by simp only [step, h]; rfl, by rw [toNat_replacement]; omega⟩
  · simp only [step, h]
    exact charsFrom_within rest code due low high hs

/-! ## ASCII patterns -/

/-- The characters of ASCII bytes. -/
def asciiText (bytes : Bytes) : List Char := bytes.map fun b => Char.ofNat b.toNat

theorem toNat_ofNat_ascii (b : UInt8) (hb : b.toNat < 0x80) : (Char.ofNat b.toNat).toNat = b.toNat :=
  toNat_ofNat _ (.inl (by omega))

/-- An ASCII pattern does not start with a character beyond ASCII. -/
theorem isPrefixOf_foreign (a : UInt8) (p : Bytes) (c : Char) (t : List Char) (ha : a.toNat < 0x80)
    (hc : 0x80 ≤ c.toNat) : (asciiText (a :: p)).isPrefixOf (c :: t) = false := by
  rw [asciiText, List.map_cons, List.isPrefixOf_cons_cons, Bool.and_eq_false_imp]
  intro heq
  rw [← eq_of_beq heq, toNat_ofNat_ascii a ha] at hc
  omega

/-- An ASCII pattern starts the decoded text iff it starts the bytes. -/
theorem isPrefixOf_charsFrom (p : Bytes) : (∀ b ∈ p, b.toNat < 0x80) → ∀ bytes : Bytes,
    (asciiText p).isPrefixOf (charsFrom .ready bytes) = p.isPrefixOf bytes := by
  induction p with
  | nil => intro _ bytes; rfl
  | cons a p ih =>
    intro hp bytes
    have ha : a.toNat < 0x80 := hp a List.mem_cons_self
    have ih := ih fun b hb => hp b (List.mem_cons_of_mem a hb)
    cases bytes with
    | nil => rfl
    | cons x rest =>
      rw [List.isPrefixOf_cons_cons]
      by_cases hx : x.toNat < 0x80
      · have hhead : (Char.ofNat a.toNat == Char.ofNat x.toNat) = (a == x) := by
          rw [Bool.eq_iff_iff, beq_iff_eq, beq_iff_eq, ← UInt8.toNat_inj]
          constructor
          · intro h
            rw [← toNat_ofNat_ascii a ha, h, toNat_ofNat_ascii x hx]
          · intro h; rw [h]
        rw [charsFrom_ascii x rest hx, asciiText, List.map_cons, List.isPrefixOf_cons_cons, hhead]
        exact congrArg _ (ih rest)
      · have hne : (a == x) = false := by
          rw [beq_eq_false_iff_ne]
          intro h; subst h; omega
        obtain ⟨c, cs, h, hc⟩ := charsFrom_ready_foreign x rest (by omega)
        rw [h, hne, Bool.false_and, isPrefixOf_foreign a p c cs ha hc]

theorem startCount_foreign (p : Bytes) (hp : ∀ b ∈ p, b.toNat < 0x80) (hne : p ≠ []) (t : List Char) :
    ∀ cs : List Char, (∀ c ∈ cs, 0x80 ≤ c.toNat) →
      startCount (asciiText p) (cs ++ t) = startCount (asciiText p) t := by
  intro cs
  induction cs with
  | nil => intro _; rfl
  | cons c cs ih =>
    intro hcs
    obtain ⟨a, p', rfl⟩ := List.exists_cons_of_ne_nil hne
    have hno := isPrefixOf_foreign a p' c (cs ++ t) (hp a List.mem_cons_self)
      (hcs c List.mem_cons_self)
    rw [List.cons_append, startCount, hno, ih fun c' h => hcs c' (List.mem_cons_of_mem c h)]
    simp

/-- An ASCII pattern starts in the decoded text as often as in the bytes. -/
theorem startCount_charsFrom (p : Bytes) (hp : ∀ b ∈ p, b.toNat < 0x80) (hne : p ≠ [])
    (bytes : Bytes) : ∀ m : Machine, m.Sound →
    startCount (asciiText p) (charsFrom m bytes) = startCount p bytes := by
  have hdrop := startCount_foreign p hp hne
  have hdamaged : ∀ c ∈ [replacement], 0x80 ≤ c.toNat := by simp [toNat_replacement]
  -- for any sound machine: an ASCII byte ends its sequence, and no other byte gives an ASCII character
  induction bytes with
  | nil =>
    intro m _
    cases m with
    | ready => rfl
    | within => exact hdrop [] [replacement] hdamaged
  | cons x rest ih =>
    intro m hm
    by_cases hx : x.toNat < 0x80
    · have hready : startCount (asciiText p) (charsFrom .ready (x :: rest)) =
          startCount p (x :: rest) := by
        have hstart := isPrefixOf_charsFrom p hp (x :: rest)
        rw [charsFrom_ascii x rest hx] at hstart ⊢
        rw [startCount, startCount, hstart, ih .ready trivial]
      cases m with
      | ready => exact hready
      | within code due low high =>
        have hin : ¬ (low ≤ x ∧ x ≤ high) := by
          rintro ⟨h, -⟩
          have := UInt8.le_iff_toNat_le.mp h
          have := hm.2.1
          omega
        rw [charsFrom_outside code due low high x rest hin, ← hready]
        exact hdrop _ [replacement] hdamaged
    · obtain ⟨cs, next, h, hs, hcs⟩ := charsFrom_foreign m hm x rest (by omega)
      have hno : p.isPrefixOf (x :: rest) = false := by
        obtain ⟨a, p', rfl⟩ := List.exists_cons_of_ne_nil hne
        rw [List.isPrefixOf_cons_cons, Bool.and_eq_false_imp]
        intro heq
        have ha := hp a List.mem_cons_self
        rw [eq_of_beq heq] at ha
        omega
      rw [h, hdrop _ cs hcs, ih next hs, startCount, hno]
      simp

/-! ## Encoded texts -/

/-- The last `due` bytes of a sequence for a code. -/
def tailBytes (v : Nat) : (due : Nat) → Bytes
  | 0 => []
  | d + 1 => UInt8.ofNat (v / 64 ^ d % 64 + 0x80) :: tailBytes v d

theorem toNat_tailByte (n : Nat) : (UInt8.ofNat (n % 64 + 0x80)).toNat = n % 64 + 0x80 := by
  rw [UInt8.toNat_ofNat']
  omega

theorem div_pow_succ (v d : Nat) : v / 64 ^ (d + 1) = v / 64 ^ d / 64 := by
  rw [Nat.pow_succ, Nat.div_div_eq_div_mul]

theorem unitsFrom_tailBytes (v : Nat) (rest : Bytes) (d : Nat) : ∀ low high : UInt8,
    Continues v (v / 64 ^ (d + 1)) (d + 1) low high →
    unitsFrom (.within (v / 64 ^ (d + 1)) (d + 1) low high) (tailBytes v (d + 1) ++ rest) =
      some (Char.ofNat v) :: unitsFrom .ready rest := by
  induction d with
  | zero =>
    intro low high h
    obtain ⟨-, hlow, hhigh⟩ := h
    have hb := toNat_tailByte (v / 64 ^ 0)
    rw [tailBytes, tailBytes, List.cons_append, List.nil_append, unitsFrom, div_pow_succ]
    generalize hx : UInt8.ofNat (v / 64 ^ 0 % 64 + 0x80) = x at hb ⊢
    rw [Nat.pow_zero, Nat.div_one] at *
    have hin : low ≤ x ∧ x ≤ high := by
      rw [UInt8.le_iff_toNat_le, UInt8.le_iff_toNat_le]
      omega
    have hcode : v / 64 * 0x40 + x.toNat % 0x40 = v := by omega
    simp only [step, if_pos hin, hcode, if_true]
    rfl
  | succ d ih =>
    intro low high h
    obtain ⟨-, hlow, hhigh⟩ := h
    rw [Nat.add_sub_cancel] at hlow hhigh
    have hb := toNat_tailByte (v / 64 ^ (d + 1))
    have hnext : Continues v (v / 64 ^ (d + 1)) (d + 1) 0x80 0xBF := by
      refine ⟨rfl, Nat.le_add_right _ _, ?_⟩
      show 0x80 + v / 64 ^ d % 64 ≤ 0xBF
      omega
    rw [tailBytes, List.cons_append, unitsFrom, div_pow_succ v (d + 1)]
    generalize UInt8.ofNat (v / 64 ^ (d + 1) % 64 + 0x80) = x at hb ⊢
    have hin : low ≤ x ∧ x ≤ high := by
      rw [UInt8.le_iff_toNat_le, UInt8.le_iff_toNat_le]
      omega
    have hcode : v / 64 ^ (d + 1) / 64 * 0x40 + x.toNat % 0x40 = v / 64 ^ (d + 1) := by omega
    simp only [step, if_pos hin, hcode, Nat.add_sub_cancel, if_neg (show d + 1 + 1 ≠ 1 by omega),
      List.nil_append]
    exact ih 0x80 0xBF hnext

/-- `b` announces a sequence of `due` more bytes that can become the code `v`. -/
def Announces (b : UInt8) (v due : Nat) : Prop :=
  ∃ low high, lead b = ([], .within (v / 64 ^ due) due low high) ∧
    Continues v (v / 64 ^ due) due low high

theorem announces_one (b : UInt8) (v : Nat) (hb : b.toNat = v / 64 + 0xC0) (hlow : 0x80 ≤ v)
    (hhigh : v ≤ 0x7FF) : Announces b v 1 := by
  refine ⟨0x80, 0xBF, ?_, rfl, ?_⟩
  · rw [lead_eq, hb, if_neg (by omega), if_neg (by omega), if_pos (by omega)]
    simp
    omega
  · simp
    omega

theorem announces_two (b : UInt8) (v : Nat) (hb : b.toNat = v / 4096 + 0xE0) (hlow : 0x7FF < v)
    (hhigh : v ≤ 0xFFFF) (hvalid : v < 0xD800 ∨ 0xDFFF < v) : Announces b v 2 := by
  unfold Announces Continues
  rw [lead_eq, hb, if_neg (by omega), if_neg (by omega), if_neg (by omega)]
  by_cases h0 : v / 4096 = 0
  · refine ⟨0xA0, 0xBF, ?_, rfl, ?_⟩
    · rw [if_pos (by omega)]
      simp
      omega
    · simp
      omega
  by_cases hD : v / 4096 = 0xD
  · refine ⟨0x80, 0x9F, ?_, rfl, ?_⟩
    · rw [if_neg (by omega), if_pos (by omega)]
      simp
      omega
    · simp
      omega
  · refine ⟨0x80, 0xBF, ?_, rfl, ?_⟩
    · rw [if_neg (by omega), if_neg (by omega), if_pos (by omega)]
      simp
      omega
    · simp
      omega

theorem announces_three (b : UInt8) (v : Nat) (hb : b.toNat = v / 262144 + 0xF0) (hlow : 0xFFFF < v)
    (hhigh : v < 0x110000) : Announces b v 3 := by
  unfold Announces Continues
  rw [lead_eq, hb, if_neg (by omega), if_neg (by omega), if_neg (by omega), if_neg (by omega),
    if_neg (by omega), if_neg (by omega)]
  by_cases h0 : v / 262144 = 0
  · refine ⟨0x90, 0xBF, ?_, rfl, ?_⟩
    · rw [if_pos (by omega)]
      simp
      omega
    · simp
      omega
  by_cases h4 : v / 262144 = 4
  · refine ⟨0x80, 0x8F, ?_, rfl, ?_⟩
    · rw [if_neg (by omega), if_neg (by omega), if_pos (by omega)]
      simp
      omega
    · simp
      omega
  · refine ⟨0x80, 0xBF, ?_, rfl, ?_⟩
    · rw [if_neg (by omega), if_pos (by omega)]
      simp
      omega
    · simp
      omega

/-- The first bytes that have so many bytes behind them begin here, and end where the next ones begin. -/
def mark : (due : Nat) → Nat
  | 0 => 0
  | 1 => 0xC0
  | 2 => 0xE0
  | 3 => 0xF0
  | _ => 0x100

/-- The codes that are written with so many bytes behind the first one begin here. -/
def leastCode : (due : Nat) → Nat
  | 0 => 0
  | 1 => 0x80
  | 2 => 0x800
  | 3 => 0x10000
  | _ => 0x110000

/-- How a code is written: a first byte, which tells how many bytes are behind it, and these bytes. -/
structure Written (v : Nat) (bytes : Bytes) (due : Nat) (b : UInt8) : Prop where
  bytes_eq : bytes = b :: tailBytes v due
  due_lt : due < 4
  first : b.toNat = v / 64 ^ due + mark due
  first_lt : b.toNat < mark (due + 1)
  least : leastCode due ≤ v
  lt_least : v < leastCode (due + 1)

theorem exists_written (c : Char) : ∃ due b, Written c.toNat (String.utf8EncodeChar c) due b := by
  have hvalid : c.toNat.isValidChar := c.valid
  unfold Nat.isValidChar at hvalid
  unfold String.utf8EncodeChar
  rw [show c.val.toNat = c.toNat from rfl]
  generalize c.toNat = v at hvalid
  dsimp only
  split
  · have hb : (UInt8.ofNat v).toNat = v := by rw [UInt8.toNat_ofNat']; omega
    exact ⟨0, _, rfl, by decide, by rw [hb, mark, Nat.pow_zero, Nat.div_one, Nat.add_zero],
      by rw [hb, mark]; omega, Nat.zero_le v, by rw [leastCode]; omega⟩
  split
  · have hb : (UInt8.ofNat (v / 64 % 0x20 + 0xc0)).toNat = v / 64 + 0xc0 := by
      rw [UInt8.toNat_ofNat']; omega
    exact ⟨1, UInt8.ofNat (v / 64 % 0x20 + 0xc0), by simp only [tailBytes, Nat.pow_zero, Nat.div_one],
      by decide, by rw [hb, mark, Nat.pow_one], by rw [hb, mark]; omega, by rw [leastCode]; omega,
      by rw [leastCode]; omega⟩
  split
  · have hb : (UInt8.ofNat (v / 4096 % 0x10 + 0xe0)).toNat = v / 4096 + 0xe0 := by
      rw [UInt8.toNat_ofNat']; omega
    exact ⟨2, UInt8.ofNat (v / 4096 % 0x10 + 0xe0),
      by simp only [tailBytes, Nat.pow_zero, Nat.pow_one, Nat.div_one], by decide, hb,
      by rw [hb, mark]; omega, by rw [leastCode]; omega, by rw [leastCode]; omega⟩
  · have hb : (UInt8.ofNat (v / 262144 % 8 + 0xf0)).toNat = v / 262144 + 0xf0 := by
      rw [UInt8.toNat_ofNat']; omega
    have hsquare : v / 4096 = v / 64 ^ 2 := rfl
    exact ⟨3, UInt8.ofNat (v / 262144 % 8 + 0xf0),
      by simp only [tailBytes, Nat.pow_zero, Nat.pow_one, Nat.div_one, hsquare], by decide, hb,
      by rw [hb]; show _ < 0x100; omega, by rw [leastCode]; omega, by show _ < 0x110000; omega⟩

/-- A character beyond ASCII is written as a first byte that announces the others. -/
theorem utf8EncodeChar_foreign (c : Char) (hc : 0x80 ≤ c.toNat) :
    ∃ b d, String.utf8EncodeChar c = b :: tailBytes c.toNat (d + 1) ∧
      Announces b c.toNat (d + 1) := by
  have hvalid : c.toNat < 0xD800 ∨ 0xDFFF < c.toNat := c.valid.imp_right And.left
  obtain ⟨due, b, hbytes, hdue, hb, -, hleast, hless⟩ := exists_written c
  match due, hdue with
  | 0, _ => exact absurd hless (Nat.not_lt.mpr hc)
  | 1, _ => exact ⟨b, 0, hbytes, announces_one b _ hb hleast (Nat.le_of_lt_succ hless)⟩
  | 2, _ => exact ⟨b, 1, hbytes, announces_two b _ hb hleast (Nat.le_of_lt_succ hless) hvalid⟩
  | 3, _ => exact ⟨b, 2, hbytes, announces_three b _ hb hleast hless⟩

theorem unitsFrom_utf8EncodeChar (c : Char) (rest : Bytes) :
    unitsFrom .ready (String.utf8EncodeChar c ++ rest) = some c :: unitsFrom .ready rest := by
  by_cases hc : c.toNat < 0x80
  · have hb : (UInt8.ofNat c.toNat).toNat = c.toNat := by
      rw [UInt8.toNat_ofNat']; omega
    unfold String.utf8EncodeChar
    dsimp only
    rw [show c.val.toNat = c.toNat from rfl, if_pos (by omega), List.singleton_append, unitsFrom]
    simp only [step, lead_ascii (UInt8.ofNat c.toNat) (by omega), hb, Char.ofNat_toNat,
      List.singleton_append]
  · obtain ⟨b, d, henc, low, high, hlead, hcont⟩ := utf8EncodeChar_foreign c (by omega)
    rw [henc, List.cons_append, unitsFrom]
    simp only [step, hlead, List.nil_append]
    rw [unitsFrom_tailBytes c.toNat rest d low high hcont, Char.ofNat_toNat]

theorem units_encode (text : String) : units (encode text) = text.toList.map some := by
  unfold units encode
  induction text.toList with
  | nil => rfl
  | cons c cs ih =>
    rw [List.flatMap_cons, unitsFrom_utf8EncodeChar, ih, List.map_cons]

theorem decodeLossy_encode (text : String) : decodeLossy (encode text) = text := by
  unfold decodeLossy
  rw [units_encode, List.map_map]
  have : ((fun u : Option Char => u.getD replacement) ∘ some) = id := rfl
  rw [this, List.map_id, String.ofList_toList]

theorem decode?_encode (text : String) : decode? (encode text) = some text := by
  have hall : ∀ cs : List Char, (cs.map some).mapM id = some cs := by
    intro cs
    induction cs with
    | nil => rfl
    | cons c cs ih =>
      rw [List.map_cons, List.mapM_cons, ih]
      rfl
  unfold decode?
  rw [units_encode, hall, Option.map_some, String.ofList_toList]

end HardenAudit.Text.Utf8
