import HardenAudit.CommandLine.Arguments
import Mathlib.Data.List.Induction

/-!
# Options on both sides of a command

An option with a value is entered late, when the next word shows that nothing more belongs to it.  What
counts is therefore what a side would be settled to: a written option adds itself to that, or it is
refused, at once or when the side is settled.  So each side is read as if its options were looked up one
by one, wherever they stand, and what is given behind the command goes before what is given ahead of it.

    one written option more is entered, now or later                        (continues_option)
    a side of written options is entered as a whole                         (continues_options)
    no option twice: what is entered is what is looked up                   (entered_cases)
    two sides are read apart, and then merged                               (parse_sides)
-/

namespace HardenAudit.CommandLine

/-! ## Algorithm -/

/-- An option as it is written on a command line. -/
inductive Written where
  /-- A value, in the same word behind an equals sign or in the next word. -/
  | value (option : Valued) (text : String) (joined : Bool) (filled : text ≠ "")
      (bare : joined = false → text.toList.head? ≠ some '-')
  | verbose
  /-- One letter `v`, and some more. -/
  | letters (more : Nat)

namespace Written

/-- The words that an option is written as. -/
def words : Written → List String
  | value option text true _ _ => ["--" ++ option.name ++ "=" ++ text]
  | value option text false _ _ => ["--" ++ option.name, text]
  | verbose => ["--verbose"]
  | letters more => [String.ofList ('-' :: 'v' :: List.replicate more 'v')]

/-- The value that is written for an option. -/
def value? (option : Valued) : Written → Option String
  | value o text _ _ _ => if o = option then some text else none
  | verbose | letters _ => none

/-- How much more verbosity is asked for. -/
def level : Written → Nat
  | value .. => 0
  | verbose => 1
  | letters more => more + 1

end Written

/-- The words that options are written as. -/
def words (options : List Written) : List String := options.flatMap Written.words

/-- All values that are written for an option. -/
def values (option : Valued) (options : List Written) : List String :=
  options.filterMap (Written.value? option)

/-- How much verbosity is asked for. -/
def level (options : List Written) : Nat := options.foldr (fun w n => w.level + n) 0

/-- An option is given a value twice. -/
def Repeats (options : List Written) (option : Valued) : Prop := 2 ≤ (values option options).length

instance (options : List Written) (option : Valued) : Decidable (Repeats options option) :=
  Nat.decLe 2 _

/-- No option is given a value twice. -/
def Distinct (options : List Written) : Prop := ∀ option, ¬ Repeats options option

/-- The options that are found by looking for each of them. -/
def scan (options : List Written) : Given where
  config := (values .config options).head?
  summaryJson := (values .summaryJson options).head?
  verbosity := min 255 (level options)

/-- How a command is read with options on both of its sides. -/
structure ReadsSides (before after : List Written) (verb : Verb) : Prop where
  merged : Distinct before → Distinct after →
    parse (words before ++ verb.word :: words after) = .ok
      { verb := verb
        options :=
          { config := (values .config after).head?.or (values .config before).head?
            summaryJson := (values .summaryJson after).head?.or (values .summaryJson before).head?
            verbosity := min 255 (if level after = 0 then level before else level after) } }
  /-- Without a command, everything is run. -/
  alone : parse (words before ++ ["run"]) = parse (words before) ∧
    parse ("run" :: words before) = parse (words before)
  order : ∀ before' after', before'.Perm before → after'.Perm after →
    Distinct before → Distinct after → parse (words before' ++ verb.word :: words after') =
      parse (words before ++ verb.word :: words after)
  repeated : (∃ option, Repeats before option ∨ Repeats after option) →
    ∃ option, (Repeats before option ∨ Repeats after option) ∧
      parse (words before ++ verb.word :: words after) = .error (.usage (.repeated option))
  repeatedAlone : (∃ option, Repeats before option) →
    ∃ option, Repeats before option ∧ parse (words before) = .error (.usage (.repeated option))

/-! ## Entering options -/

variable {options options' : List Written} {option : Valued}

/-- The options with a written one added; a value must not be there yet. -/
def Written.enter (g : Given) : Written → Except Stop Given
  | value option text _ _ _ =>
    if (g.get? option).isSome then .error (.usage (.repeated option)) else .ok (g.set option text)
  | w => .ok { g with verbosity := min 255 (g.verbosity + w.level) }

/-- Options entered one after the other. -/
def entered (options : List Written) : Except Stop Given := options.foldlM Written.enter {}

theorem entered_append (options : List Written) (w : Written) :
    entered (options ++ [w]) = entered options >>= w.enter := by
  simp [entered]

theorem values_append (option : Valued) (options : List Written) (w : Written) :
    values option (options ++ [w]) = values option options ++ (w.value? option).toList := by
  unfold values
  rw [List.filterMap_append]
  cases h : w.value? option <;> simp [h]

theorem level_append (options : List Written) (w : Written) :
    level (options ++ [w]) = level options + w.level := by
  unfold level
  induction options with
  | nil => simp
  | cons v rest ih => rw [List.cons_append, List.foldr_cons, List.foldr_cons, ih, Nat.add_assoc]

theorem get?_scan (options : List Written) (option : Valued) :
    (scan options).get? option = (values option options).head? := by
  cases option <;> rfl

theorem Repeats.append (h : Repeats options option) (w : Written) : Repeats (options ++ [w]) option := by
  unfold Repeats at h ⊢
  rw [values_append, List.length_append]
  omega

theorem not_repeats_append {w : Written} (h : ¬ Repeats options option)
    (hnew : w.value? option = none ∨ values option options = []) :
    ¬ Repeats (options ++ [w]) option := by
  unfold Repeats at h ⊢
  rw [values_append]
  rcases hnew with hnone | hnone
  · rwa [hnone, Option.toList_none, List.append_nil]
  · rw [hnone]
    cases w.value? option <;> simp

theorem scan_append_value (h : values option options = []) {text : String} (joined : Bool) (filled : text ≠ "")
    (bare : joined = false → text.toList.head? ≠ some '-') :
    scan (options ++ [.value option text joined filled bare]) = (scan options).set option text := by
  unfold scan Given.set
  cases option <;> simp [values_append, level_append, h, Written.value?, Written.level]

theorem scan_append_flag {w : Written} (h : ∀ option, w.value? option = none) :
    scan (options ++ [w]) =
      { scan options with verbosity := min 255 ((scan options).verbosity + w.level) } := by
  unfold scan
  simp only [values_append, level_append, h, Option.toList_none, List.append_nil, Given.mk.injEq,
    true_and]
  omega

/-- What one written option more does to options that are not repeated. -/
theorem enter_scan (honce : Distinct options) (w : Written) :
    Distinct (options ++ [w]) ∧
      Written.enter (scan options) w = .ok (scan (options ++ [w])) ∨
    ∃ option, Repeats (options ++ [w]) option ∧
      Written.enter (scan options) w = .error (.usage (.repeated option)) := by
  cases w with
  | value option text joined filled bare =>
    unfold Written.enter
    dsimp only
    rw [get?_scan]
    cases hvalues : values option options with
    | nil =>
      refine .inl ⟨fun o => not_repeats_append (honce o) ?_, ?_⟩
      · by_cases ho : option = o
        · exact .inr (ho ▸ hvalues)
        · exact .inl (if_neg ho)
      · rw [scan_append_value hvalues]
        rfl
    | cons first others =>
      refine .inr ⟨option, ?_, rfl⟩
      unfold Repeats
      rw [values_append, hvalues, Written.value?, if_pos rfl]
      simp
  | verbose | letters =>
    refine .inl ⟨fun o => not_repeats_append (honce o) (.inl rfl), ?_⟩
    rw [scan_append_flag fun _ => rfl]
    rfl

/-- **An option that is given twice is refused, and otherwise each option has the value that is found.** -/
theorem entered_cases (options : List Written) :
    Distinct options ∧ entered options = .ok (scan options) ∨
    ∃ option, Repeats options option ∧ entered options = .error (.usage (.repeated option)) := by
  induction options using List.reverseRecOn with
  | nil => exact .inl ⟨by simp [Distinct, Repeats, values], rfl⟩
  | append_singleton options w ih =>
    rw [entered_append]
    rcases ih with ⟨honce, hok⟩ | ⟨option, htwice, herror⟩
    · rw [hok]
      exact enter_scan honce w
    · exact .inr ⟨option, htwice.append w, by rw [herror]; rfl⟩

/-! ## Sides -/

/-- The options that a side would be settled to. -/
def Side.settled (s : Side) : Except Stop Given := do
  let s ← s.settle
  pure s.given

theorem Side.settle_eq (s : Side) : s.settle = s.settled >>= fun g => .ok { given := g } := by
  obtain ⟨given, _ | ⟨option, _ | text⟩⟩ := s
  · rfl
  · rfl
  · unfold settled settle enter
    dsimp only
    split
    · rfl
    split <;> rfl

theorem Side.enter_eq (g : Given) (option : Valued) {text : String} (filled : text ≠ "") (joined : Bool)
    (bare : joined = false → text.toList.head? ≠ some '-') :
    ({ given := g } : Side).enter option text =
      Written.enter g (.value option text joined filled bare) >>= fun g => .ok { given := g } := by
  unfold Side.enter Written.enter
  rw [if_neg filled]
  dsimp only
  split <;> rfl

theorem Side.settled_entering (g : Given) (option : Valued) {text : String} (filled : text ≠ "")
    (joined : Bool) (bare : joined = false → text.toList.head? ≠ some '-') :
    Side.settled { given := g, pending := some (option, some text) } =
      Written.enter g (.value option text joined filled bare) := by
  unfold settled settle
  dsimp only
  rw [Side.enter_eq g option filled joined bare]
  cases Written.enter g _ <;> rfl

theorem Side.raise_eq (s : Side) : s.raise = s.settled >>= fun g =>
    .ok { given := { g with verbosity := min 255 (g.verbosity + 1) } } := by
  unfold raise
  rw [settle_eq]
  cases s.settled <;> rfl

theorem Side.long_name (s : Side) (topic : Topic) (option : Valued) :
    s.long topic option.name.toList = s.settled >>= fun g =>
      .ok { given := g, pending := some (option, none) } := by
  have hlong : s.long topic option.name.toList = s.settle >>= fun s =>
      pure { s with pending := some (option, none) } := by
    cases option <;> rfl
  rw [hlong, settle_eq]
  cases s.settled <;> rfl

theorem Side.long_joined (s : Side) (topic : Topic) (option : Valued) (text : List Char) :
    s.long topic (option.name.toList ++ '=' :: text) =
      s.settle >>= fun s => s.enter option (String.ofList text) := by
  cases option <;> rfl

theorem Side.long_verbose (s : Side) (topic : Topic) : s.long topic "verbose".toList = s.raise := rfl

theorem Side.cluster_letters (topic : Topic) (more : Nat) : ∀ s : Side,
    Side.cluster topic ('v' :: List.replicate more 'v') s = s.settled >>= fun g =>
      .ok { given := { g with verbosity := min 255 (g.verbosity + (more + 1)) } } := by
  induction more with
  | zero =>
    intro s
    rw [cluster, raise_eq]
    cases s.settled <;> rfl
  | succ n ih =>
    intro s
    rw [cluster, raise_eq, List.replicate_succ]
    cases s.settled with
    | error e => rfl
    | ok g =>
      rw [if_pos rfl]
      dsimp only [bind, Except.bind]
      rw [ih]
      unfold settled settle
      dsimp only [bind, Except.bind, pure, Except.pure]
      rw [show min 255 (min 255 (g.verbosity + 1) + (n + 1)) = min 255 (g.verbosity + (n + 1 + 1)) by
        omega]

/-! ## Words -/

section Words

variable (topic : Topic) (s : Side) (rest : List String)

theorem isVerbWord_dash {word : String} {text : List Char} (h : word.toList = '-' :: text) :
    isVerbWord word = false := by
  have hne : ∀ other : String, other.toList.head? ≠ some '-' → (word == other) = false := by
    intro other hother
    rw [beq_eq_false_iff_ne]
    rintro rfl
    rw [h] at hother
    exact hother rfl
  unfold isVerbWord
  rw [hne _ (by decide), hne _ (by decide), hne _ (by decide)]
  rfl

theorem readSide_long {word : String} {text : List Char} (h : word.toList = '-' :: '-' :: text)
    (htext : text ≠ []) : readSide topic s (word :: rest) =
      s.long topic text >>= fun s => readSide topic s rest := by
  obtain ⟨c, cs, rfl⟩ := List.exists_cons_of_ne_nil htext
  rw [readSide.eq_def]
  dsimp only
  rw [isVerbWord_dash h, h, Bool.and_false, if_neg Bool.false_ne_true]
  cases hlong : s.long topic (c :: cs) <;> simp [hlong, bind, Except.bind]

theorem readSide_letters {word : String} {text : List Char} (h : word.toList = '-' :: 'v' :: text) :
    readSide topic s (word :: rest) =
      Side.cluster topic ('v' :: text) s >>= fun s => readSide topic s rest := by
  rw [readSide.eq_def]
  dsimp only
  rw [isVerbWord_dash h, h, Bool.and_false, if_neg Bool.false_ne_true]
  cases hcluster : Side.cluster topic ('v' :: text) s <;> simp [hcluster, bind, Except.bind]

/-- A word that an option waits for is its value, whatever else it could mean. -/
theorem readSide_waiting (g : Given) (option : Valued) {text : String} (filled : text ≠ "")
    (bare : text.toList.head? ≠ some '-') :
    readSide topic { given := g, pending := some (option, none) } (text :: rest) =
      readSide topic { given := g, pending := some (option, some text) } rest := by
  obtain ⟨c, cs, hcs⟩ := List.exists_cons_of_ne_nil (mt String.toList_eq_nil_iff.mp filled)
  have hc : c ≠ '-' := by
    rintro rfl
    rw [hcs] at bare
    exact bare rfl
  rw [readSide.eq_def]
  dsimp only
  rw [hcs, if_neg (by simp [Side.waiting?])]
  split
  · next heq => cases heq; exact absurd rfl hc
  · next heq => cases heq; exact absurd rfl hc
  · next heq => cases heq; exact absurd rfl hc
  · rfl

theorem readSide_verb {s : Side} (h : s.waiting? = none) (verb : Verb) :
    readSide .program s (verb.word :: rest) = .ok (s, verb.word :: rest) := by
  have hword : isVerbWord verb.word = true := by cases verb <;> decide
  rw [readSide.eq_def]
  dsimp only
  rw [h, hword]
  rfl

end Words

/-- Reading some words first either goes on with a side that would be settled to an answer, or it ends
with that answer, which is then a refusal. -/
def Continues (topic : Topic) (s : Side) (args rest : List String) (x : Except Stop Given) : Prop :=
  (∃ s', readSide topic s args = readSide topic s' rest ∧ s'.waiting? = none ∧ s'.settled = x) ∨
  ∃ e, x = .error e ∧ readSide topic s args = .error e

theorem continues_of_bind {topic : Topic} {s : Side} {args rest : List String} {x : Except Stop Given}
    (h : readSide topic s args = x >>= fun g => readSide topic { given := g } rest) :
    Continues topic s args rest x := by
  cases x with
  | error e => exact .inr ⟨e, rfl, h⟩
  | ok g => exact .inl ⟨{ given := g }, h, rfl, rfl⟩

theorem continues_joined (topic : Topic) (s : Side) (option : Valued) {text : String} (filled : text ≠ "")
    (bare : true = false → text.toList.head? ≠ some '-') (rest : List String) :
    Continues topic s (("--" ++ option.name ++ "=" ++ text) :: rest) rest
      (s.settled >>= (Written.value option text true filled bare).enter) := by
  have hword : ("--" ++ option.name ++ "=" ++ text).toList =
      '-' :: '-' :: (option.name.toList ++ '=' :: text.toList) := by
    simp
  refine continues_of_bind ?_
  rw [readSide_long topic s rest hword (by simp), Side.long_joined, String.ofList_toList,
    Side.settle_eq]
  cases s.settled with
  | error e => rfl
  | ok g =>
    dsimp only [bind, Except.bind]
    rw [Side.enter_eq g option filled true bare]
    cases Written.enter g _ <;> rfl

/-- A value in a word of its own is not entered yet, but it would be when the side is settled. -/
theorem continues_apart (topic : Topic) (s : Side) (option : Valued) {text : String} (filled : text ≠ "")
    (bare : false = false → text.toList.head? ≠ some '-') (rest : List String) :
    Continues topic s (("--" ++ option.name) :: text :: rest) rest
      (s.settled >>= (Written.value option text false filled bare).enter) := by
  have hword : ("--" ++ option.name).toList = '-' :: '-' :: option.name.toList := by simp
  have hread := readSide_long topic s (text :: rest) hword (by cases option <;> decide)
  rw [Side.long_name] at hread
  cases hs : s.settled with
  | error e =>
    rw [hs] at hread
    exact .inr ⟨e, rfl, hread⟩
  | ok g =>
    rw [hs] at hread
    exact .inl ⟨_, hread.trans (readSide_waiting topic rest g option filled (bare rfl)), rfl,
      Side.settled_entering g option filled false bare⟩

/-- **One written option more is entered**, or refused, at the latest when its side is settled. -/
theorem continues_option (topic : Topic) (s : Side) (w : Written) (rest : List String) :
    Continues topic s (w.words ++ rest) rest (s.settled >>= w.enter) := by
  cases w with
  | value option text joined filled bare =>
    cases joined with
    | true => exact continues_joined topic s option filled bare rest
    | false => exact continues_apart topic s option filled bare rest
  | verbose =>
    have hword : "--verbose".toList = '-' :: '-' :: "verbose".toList := rfl
    refine continues_of_bind ?_
    rw [Written.words, List.singleton_append, readSide_long topic s rest hword (by decide),
      Side.long_verbose, Side.raise_eq]
    cases s.settled <;> rfl
  | letters more =>
    refine continues_of_bind ?_
    rw [Written.words, List.singleton_append, readSide_letters topic s rest String.toList_ofList,
      Side.cluster_letters]
    cases s.settled <;> rfl

theorem words_append (options : List Written) (w : Written) (rest : List String) :
    words (options ++ [w]) ++ rest = words options ++ (w.words ++ rest) := by
  simp [words]

/-- **A side of written options is entered as a whole.** -/
theorem continues_options (topic : Topic) (options : List Written) : ∀ rest,
    Continues topic {} (words options ++ rest) rest (entered options) := by
  induction options using List.reverseRecOn with
  | nil => exact fun rest => .inl ⟨{}, rfl, rfl, rfl⟩
  | append_singleton options w ih =>
    intro rest
    rw [words_append, entered_append]
    rcases ih (w.words ++ rest) with ⟨s, hread, -, hsettled⟩ | ⟨e, herror, hread⟩
    · have hnext := continues_option topic s w rest
      rw [hsettled] at hnext
      unfold Continues at hnext ⊢
      rwa [hread]
    · exact .inr ⟨e, by rw [herror]; rfl, hread⟩

/-! ## Command lines -/

theorem parse_words (options : List Written) :
    parse (words options) = entered options >>= fun g => .ok { options := g } := by
  have h := continues_options .program options []
  rw [List.append_nil] at h
  unfold parse
  rcases h with ⟨s, hread, -, hsettled⟩ | ⟨e, herror, hread⟩
  · rw [hread, ← hsettled]
    dsimp only [readSide, bind, Except.bind]
    rw [Side.settle_eq]
    cases s.settled <;> rfl
  · rw [hread, herror]
    rfl

/-- **Two sides are read apart**, and what comes behind the command goes before. -/
theorem parse_sides (before after : List Written) (verb : Verb) :
    (∃ b a, entered before = .ok b ∧ entered after = .ok a ∧
      parse (words before ++ verb.word :: words after) = .ok ⟨verb, b.merge a⟩) ∨
    ∃ e, (entered before = .error e ∨ entered after = .error e) ∧
      parse (words before ++ verb.word :: words after) = .error e := by
  have hafter := continues_options (.verb verb) after []
  rw [List.append_nil] at hafter
  have hhelp : verb.word ≠ "help" := by cases verb <;> decide
  have hverb : (if verb.word = "list" then Verb.list else Verb.run) = verb := by cases verb <;> rfl
  unfold parse
  rcases continues_options .program before (verb.word :: words after) with
    ⟨s, hread, hwait, hsettled⟩ | ⟨e, herror, hread⟩
  · rw [hread, readSide_verb _ hwait, ← hsettled]
    dsimp only [bind, Except.bind]
    rw [if_neg hhelp, hverb]
    rcases hafter with ⟨s', hread', -, hsettled'⟩ | ⟨e, herror, hread'⟩
    · rw [hread', ← hsettled']
      dsimp only [readSide]
      rw [Side.settle_eq s, Side.settle_eq s']
      cases s'.settled with
      | error e => exact .inr ⟨e, .inr rfl, rfl⟩
      | ok a =>
        cases s.settled with
        | error e => exact .inr ⟨e, .inl rfl, rfl⟩
        | ok b => exact .inl ⟨b, a, rfl, rfl, rfl⟩
    · rw [hread']
      exact .inr ⟨e, .inr herror, rfl⟩
  · rw [hread]
    exact .inr ⟨e, .inl herror, rfl⟩

theorem entered_of_distinct (h : Distinct options) :
    entered options = .ok (scan options) := by
  rcases entered_cases options with ⟨-, hok⟩ | ⟨option, htwice, -⟩
  · exact hok
  · exact absurd htwice (h option)

theorem entered_error {e : Stop} (h : entered options = .error e) :
    ∃ option, Repeats options option ∧ e = .usage (.repeated option) := by
  rcases entered_cases options with ⟨-, hok⟩ | ⟨option, htwice, herror⟩
  · rw [hok] at h
    cases h
  · rw [herror] at h
    cases h
    exact ⟨option, htwice, rfl⟩

theorem distinct_of_ok {g : Given} (h : entered options = .ok g) : Distinct options := by
  rcases entered_cases options with ⟨honce, -⟩ | ⟨_, -, herror⟩
  · exact honce
  · rw [herror] at h
    cases h

theorem merge_empty (g : Given) : g.merge {} = g := by
  unfold Given.merge
  simp

theorem empty_merge (g : Given) : Given.merge {} g = g := by
  obtain ⟨config, summaryJson, verbosity⟩ := g
  unfold Given.merge
  cases verbosity <;> simp

theorem merge_scan (before after : List Written) : (scan before).merge (scan after) =
    { config := (values .config after).head?.or (values .config before).head?
      summaryJson := (values .summaryJson after).head?.or (values .summaryJson before).head?
      verbosity := min 255 (if level after = 0 then level before else level after) } := by
  unfold Given.merge scan
  dsimp only
  rw [apply_ite (min 255)]
  cases level after <;> simp

/-- Options that are not repeated have the same values in any order. -/
theorem values_of_perm (h : options'.Perm options)
    (honce : ¬ Repeats options option) : values option options' = values option options := by
  have hvalues : (values option options').Perm (values option options) := h.filterMap _
  unfold Repeats at honce
  cases hv : values option options with
  | nil =>
    rw [hv] at hvalues
    exact hvalues.eq_nil
  | cons first others =>
    rw [hv] at hvalues honce
    obtain rfl : others = [] := by simpa using honce
    exact List.perm_singleton.mp hvalues

theorem Distinct.perm (honce : Distinct options) (h : options'.Perm options) : Distinct options' := by
  intro option
  unfold Repeats
  rw [values_of_perm h (honce option)]
  exact honce option

theorem scan_of_perm (h : options'.Perm options) (honce : Distinct options) : scan options' = scan options := by
  have hlevel : level options' = level options :=
    h.foldr_eq' (fun v _ w _ n => Nat.add_left_comm w.level v.level n) 0
  unfold scan
  rw [values_of_perm h (honce _), values_of_perm h (honce _), hlevel]

theorem parse_of_distinct {before after : List Written} (verb : Verb) (hbefore : Distinct before)
    (hafter : Distinct after) :
    parse (words before ++ verb.word :: words after) =
      .ok ⟨verb, (scan before).merge (scan after)⟩ := by
  rcases parse_sides before after verb with ⟨b, a, hb, ha, h⟩ | ⟨e, herror | herror, -⟩
  · rw [entered_of_distinct hbefore] at hb
    rw [entered_of_distinct hafter] at ha
    cases hb
    cases ha
    exact h
  · rw [entered_of_distinct hbefore] at herror
    cases herror
  · rw [entered_of_distinct hafter] at herror
    cases herror

/-- With options on one side only, it does not matter on which one. -/
theorem parse_alone (options : List Written) :
    parse (words options ++ ["run"]) = parse (words options) ∧
    parse ("run" :: words options) = parse (words options) := by
  rw [parse_words]
  constructor
  · rcases parse_sides options [] .run with ⟨b, a, hb, ha, h⟩ | ⟨e, herror | herror, h⟩
    · cases ha
      rw [hb]
      exact h.trans (by rw [merge_empty]; rfl)
    · rw [herror]
      exact h
    · cases herror
  · rcases parse_sides [] options .run with ⟨b, a, hb, ha, h⟩ | ⟨e, herror | herror, h⟩
    · cases hb
      rw [ha]
      exact h.trans (by rw [empty_merge]; rfl)
    · cases herror
    · rw [herror]
      exact h

/-- **What a command line means does not depend on where its options stand**, except that those behind
the command go before those ahead of it, and none may be given twice on one side. -/
theorem reads_sides (before after : List Written) (verb : Verb) : ReadsSides before after verb where
  merged hbefore hafter := by rw [parse_of_distinct verb hbefore hafter, merge_scan]
  alone := parse_alone before
  order before' after' hperm hperm' hbefore hafter := by
    rw [parse_of_distinct verb hbefore hafter,
      parse_of_distinct verb (hbefore.perm hperm) (hafter.perm hperm'),
      scan_of_perm hperm hbefore, scan_of_perm hperm' hafter]
  repeated h := by
    obtain ⟨option, htwice⟩ := h
    rcases parse_sides before after verb with ⟨b, a, hb, ha, -⟩ | ⟨e, herror | herror, h⟩
    · exact absurd htwice (not_or.mpr ⟨distinct_of_ok hb option, distinct_of_ok ha option⟩)
    · obtain ⟨option, htwice, rfl⟩ := entered_error herror
      exact ⟨option, .inl htwice, h⟩
    · obtain ⟨option, htwice, rfl⟩ := entered_error herror
      exact ⟨option, .inr htwice, h⟩
  repeatedAlone h := by
    obtain ⟨option, htwice⟩ := h
    rcases entered_cases before with ⟨honce, -⟩ | ⟨option', htwice', herror⟩
    · exact absurd htwice (honce option)
    · exact ⟨option', htwice', by rw [parse_words, herror]; rfl⟩

/-- A value that looks like a command, one that is replaced, and a value that is given twice. -/
theorem reads_sides_mixed :
    parse ["--config", "run", "-vvv", "--summary-json=a", "list", "-v", "--summary-json", "b",
        "--verbose"] =
      .ok ⟨.list, { config := some "run", summaryJson := some "b", verbosity := 2 }⟩ ∧
    ∃ option, parse ["-v", "--config=a", "run", "--config", "b", "-v", "--config=--run"] =
      .error (.usage (.repeated option)) := by
  constructor
  · exact (reads_sides
        [.value .config "run" false (by decide) (by decide), .letters 2,
          .value .summaryJson "a" true (by decide) (by decide)]
        [.letters 0, .value .summaryJson "b" false (by decide) (by decide), .verbose] .list).merged
      (by rintro (_ | _) <;> decide)
      (by rintro (_ | _) <;> decide)
  · obtain ⟨option, -, h⟩ := (reads_sides
        [.letters 0, .value .config "a" true (by decide) (by decide)]
        [.value .config "b" false (by decide) (by decide), .letters 0,
          .value .config "--run" true (by decide) (by decide)] .run).repeated
      ⟨.config, .inr (by decide)⟩
    exact ⟨option, h⟩

end HardenAudit.CommandLine
