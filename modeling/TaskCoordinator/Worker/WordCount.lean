import TaskCoordinator.Worker.Execution

/-!
# What the word count counts

A word starts at a letter or digit that does not continue one: the byte before it is no
letter or digit, and it is not an apostrophe that follows one.  The loops of
`execute_word_count` count the starts of words.

Between the two stands a scanner with three states that reads the text byte by byte.  Its
state says what the last two bytes were as far as it matters for the next one.
-/

namespace TaskCoordinator

namespace Worker

/-! ## Starts of words -/

/-- The text has a letter or digit at position `i`. -/
def alnumAt (text : List UInt8) (i : Nat) : Bool :=
  text[i]?.any isAlnum

/-- A word starts at position `i`. -/
def startsWord (text : List UInt8) (i : Nat) : Bool :=
  alnumAt text i && (i = 0 || !alnumAt text (i - 1)) &&
    !(2 ≤ i && text[i - 1]? = some apostrophe && alnumAt text (i - 2))

/-- The number of positions at which a word starts. -/
def wordStarts (text : List UInt8) : Nat :=
  (List.range text.length).countP (startsWord text)

/-! ## The scanner -/

/-- What the scanner has just read. -/
inductive Scan where
  /-- Nothing that a letter or digit could continue. -/
  | outside
  /-- A letter or digit. -/
  | inside
  /-- An apostrophe after a letter or digit. -/
  | joining
  deriving DecidableEq, Repr

def Scan.next (scan : Scan) (c : UInt8) : Scan :=
  if isAlnum c then .inside
  else if c = apostrophe && scan = .inside then .joining
  else .outside

/-- The number of letters and digits that the scanner meets `outside` of a word. -/
def Scan.starts : Scan → List UInt8 → Nat
  | _, [] => 0
  | scan, c :: rest =>
      (if isAlnum c && scan = .outside then 1 else 0) + (scan.next c).starts rest

/-- The state of the scanner at position `i`. -/
def scanAt (text : List UInt8) (i : Nat) : Scan :=
  if 0 < i && alnumAt text (i - 1) then .inside
  else if 2 ≤ i && text[i - 1]? = some apostrophe && alnumAt text (i - 2) then .joining
  else .outside

theorem alnumAt_of_get {text : List UInt8} {i : Nat} {c : UInt8} (here : text[i]? = some c) :
    alnumAt text i = isAlnum c := by
  simp [alnumAt, here]

/-- The scanner is inside of a word after a letter or digit. -/
theorem scanAt_eq_inside (text : List UInt8) (i : Nat) :
    scanAt text i = .inside ↔ 0 < i ∧ alnumAt text (i - 1) = true := by
  unfold scanAt
  split
  next after => simpa using after
  next none =>
    have notInside : ¬(0 < i ∧ alnumAt text (i - 1) = true) := by simpa using none
    simp only [notInside, iff_false]
    split <;> simp

theorem scanAt_succ {text : List UInt8} {i : Nat} {c : UInt8} (here : text[i]? = some c) :
    scanAt text (i + 1) = (scanAt text i).next c := by
  have joins : (2 ≤ i + 1 && text[i]? = some apostrophe && alnumAt text (i - 1)) =
      (c = apostrophe && scanAt text i = .inside) := by
    rw [Bool.eq_iff_iff]
    simp only [Bool.and_eq_true, decide_eq_true_eq, scanAt_eq_inside, here, Option.some.injEq]
    constructor
    · intro ⟨⟨positive, quote⟩, before⟩
      exact ⟨quote, Nat.lt_of_succ_lt_succ positive, before⟩
    · intro ⟨quote, positive, before⟩
      exact ⟨⟨Nat.succ_le_succ positive, quote⟩, before⟩
  rw [Scan.next, ← joins, ← alnumAt_of_get here]
  simp [scanAt]

theorem startsWord_eq {text : List UInt8} {i : Nat} {c : UInt8} (here : text[i]? = some c) :
    startsWord text i = (isAlnum c && scanAt text i = .outside) := by
  simp only [startsWord, scanAt, alnumAt_of_get here]
  cases i with
  | zero => simp
  | succ i =>
      by_cases before : alnumAt text i = true
      · simp [before]
      · simp [before, Bool.or_assoc]

/-- The starts of words from position `i` on are those that the scanner counts. -/
theorem countP_startsWord (text rest : List UInt8) (i : Nat) (left : text.drop i = rest) :
    (List.range' i rest.length).countP (startsWord text) = (scanAt text i).starts rest := by
  induction rest generalizing i with
  | nil => rfl
  | cons c rest ih =>
      have here : text[i]? = some c := by
        rw [← List.head?_drop, left]
        rfl
      have next : text.drop (i + 1) = rest := by
        rw [← List.tail_drop, left]
        rfl
      rw [List.length_cons, List.range'_succ, List.countP_cons, ih (i + 1) next,
        scanAt_succ here, startsWord_eq here, Scan.starts, Nat.add_comm]

theorem wordStarts_eq (text : List UInt8) : wordStarts text = Scan.outside.starts text := by
  unfold wordStarts
  rw [List.range_eq_range']
  exact countP_startsWord text text 0 rfl

/-! ## The scanner and the loops -/

theorem starts_skipDelimiters (text : List UInt8) :
    Scan.outside.starts (skipDelimiters text) = Scan.outside.starts text := by
  induction text with
  | nil => rfl
  | cons c rest ih =>
      simp only [skipDelimiters]
      split
      next => rfl
      next delimiter => simp [Scan.starts, Scan.next, delimiter, ih]

/-- A text that does not start with a letter or digit reads the same after an apostrophe as
outside of a word. -/
theorem starts_joining_of_delimiter {text : List UInt8}
    (delimiter : text.head?.any isAlnum = false) :
    Scan.joining.starts text = Scan.outside.starts text := by
  cases text with
  | nil => rfl
  | cons c rest =>
      have noLetter : isAlnum c = false := delimiter
      simp [Scan.starts, Scan.next, noLetter]

/-- A letter or digit after an apostrophe continues the word. -/
theorem starts_joining_of_alnum {text : List UInt8} (alnum : text.head?.any isAlnum = true) :
    Scan.joining.starts text = Scan.inside.starts text := by
  cases text with
  | nil => cases alnum
  | cons c rest =>
      have letter : isAlnum c = true := alnum
      simp [Scan.starts, Scan.next, letter]

/-- Inside of a word, the scanner counts what is counted outside of words after the rest of
the word has been consumed. -/
theorem starts_consumeWord (text : List UInt8) :
    Scan.outside.starts (consumeWord text) = Scan.inside.starts text := by
  induction text with
  | nil => rfl
  | cons c rest ih =>
      by_cases letter : isAlnum c = true
      · simp [consumeWord, Scan.starts, Scan.next, letter, ih]
      · by_cases quote : c = apostrophe
        · have noLetter : isAlnum apostrophe = false := rfl
          cases follows : rest.head?.any isAlnum with
          | true =>
              simp [consumeWord, Scan.starts, Scan.next, quote, noLetter, follows, ih,
                starts_joining_of_alnum follows]
          | false =>
              simp [consumeWord, Scan.starts, Scan.next, quote, noLetter, follows,
                starts_joining_of_delimiter follows]
        · simp [consumeWord, Scan.starts, Scan.next, letter, quote]

/-- One round of the outer loop counts the word it consumes. -/
theorem starts_round (text : List UInt8) :
    Scan.outside.starts text =
      (if (skipDelimiters text).isEmpty then 0 else 1) +
        Scan.outside.starts (consumeWord (skipDelimiters text)) := by
  rw [← starts_skipDelimiters text]
  obtain skipped | ⟨c, word, skipped, alnum⟩ := skipDelimiters_eq_nil_or_cons text
  · simp [skipped, consumeWord, Scan.starts]
  · rw [skipped, starts_consumeWord]
    simp [Scan.starts, Scan.next, alnum]

theorem countRounds_eq {rounds : Nat} {text : List UInt8} (enough : text.length ≤ rounds)
    (count : UInt32) :
    countRounds rounds count text = count + UInt32.ofNat (Scan.outside.starts text) := by
  induction rounds generalizing text count with
  | zero =>
      have none : text = [] := List.length_eq_zero_iff.mp (Nat.le_zero.mp enough)
      simp [countRounds, none, Scan.starts]
  | succ rounds ih =>
      cases text with
      | nil => simp [countRounds, Scan.starts]
      | cons c rest =>
          have shorter := length_round_lt (List.cons_ne_nil c rest)
          have enoughLeft := Nat.le_of_lt_succ (Nat.lt_of_lt_of_le shorter enough)
          simp only [countRounds, List.isEmpty_cons, Bool.false_eq_true, if_false]
          rw [ih enoughLeft, starts_round (c :: rest), UInt32.ofNat_add]
          split
          next => simp
          next => simp [UInt32.add_assoc]

/-- The outer loop has read the whole text after as many rounds as it has bytes. -/
theorem iterate_round_eq_nil {rounds : Nat} {text : List UInt8}
    (enough : text.length ≤ rounds) :
    (fun rest => consumeWord (skipDelimiters rest))^[rounds] text = [] := by
  induction rounds generalizing text with
  | zero => exact List.length_eq_zero_iff.mp (Nat.le_zero.mp enough)
  | succ rounds ih =>
      rw [Function.iterate_succ_apply]
      apply ih
      cases text with
      | nil => exact Nat.zero_le _
      | cons c rest =>
          have shorter := length_round_lt (List.cons_ne_nil c rest)
          exact Nat.le_of_lt_succ (Nat.lt_of_lt_of_le shorter enough)

theorem countWords_eq (text : List UInt8) :
    countWords text = UInt32.ofNat (wordStarts text) := by
  rw [countWords, countRounds_eq (Nat.le_refl _), wordStarts_eq]
  simp

theorem wordStarts_le_length (text : List UInt8) : wordStarts text ≤ text.length := by
  have bounded := List.countP_le_length (p := startsWord text) (l := List.range text.length)
  rwa [List.length_range] at bounded

/-- The loops of `execute_word_count` end, and the count is the number of positions at which
a word starts. -/
theorem wordCount_counts_word_starts (words : List UInt8) (short : words.length < 2 ^ 32) :
    (∀ rounds, words.length ≤ rounds →
      (fun rest => consumeWord (skipDelimiters rest))^[rounds] words = [] ∧
      (countRounds rounds 0 words).toNat = wordStarts words) ∧
    ∀ (task : AssignMsg) (startedAt completedAt : Nanoseconds), task.words = words →
      (executeWordCount task startedAt completedAt).result.toNat = wordStarts words := by
  have exact : (UInt32.ofNat (wordStarts words)).toNat = wordStarts words :=
    UInt32.toNat_ofNat_of_lt' (Nat.lt_of_le_of_lt (wordStarts_le_length words) short)
  constructor
  · intro rounds enough
    refine ⟨iterate_round_eq_nil enough, ?_⟩
    rw [countRounds_of_length_le enough]
    exact (congrArg UInt32.toNat (countWords_eq words)).trans exact
  · intro task startedAt completedAt same
    rw [executeWordCount, same, countWords_eq, exact]

/-- In `don't 's'` the quoted letter is a word, and the letter after the first apostrophe is
not. -/
theorem wordCount_of_contraction :
    wordStarts [100, 111, 110, 39, 116, 32, 39, 115, 39] = 2 ∧
      (countRounds 9 0 [100, 111, 110, 39, 116, 32, 39, 115, 39]).toNat =
        wordStarts [100, 111, 110, 39, 116, 32, 39, 115, 39] :=
  ⟨by decide, ((wordCount_counts_word_starts _ (by decide)).1 9 (by decide)).2⟩

end Worker

end TaskCoordinator
