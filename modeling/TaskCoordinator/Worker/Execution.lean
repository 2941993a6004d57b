import TaskCoordinator.Message

/-!
# Execution of a task

`execute_synthetic`, `execute_word_count` and the switch of `execution_worker` over the
type of a task.  The readings of the clock are inputs.

A text is scanned from left to right.  Instead of an index into it, the functions here
keep what is left of it.
-/

namespace TaskCoordinator

namespace Worker

/-! ## Counting words -/

/-- `std::isalnum` in the C locale. -/
def isAlnum (c : UInt8) : Bool :=
  (48 ≤ c && c ≤ 57) || (65 ≤ c && c ≤ 90) || (97 ≤ c && c ≤ 122)

def apostrophe : UInt8 := 39

/-- The first inner loop: up to the next letter or digit. -/
def skipDelimiters : List UInt8 → List UInt8
  | [] => []
  | c :: rest => if isAlnum c then c :: rest else skipDelimiters rest

/-- The second inner loop: past letters and digits, and past an apostrophe in front of
one. -/
def consumeWord : List UInt8 → List UInt8
  | [] => []
  | c :: rest =>
      if isAlnum c then
        consumeWord rest
      else if c = apostrophe && rest.head?.any isAlnum then
        consumeWord rest
      else
        c :: rest

/-- The outer loop, for at most the given number of rounds. -/
def countRounds : Nat → UInt32 → List UInt8 → UInt32
  | 0, count, _ => count
  | rounds + 1, count, text =>
      if text.isEmpty then
        count
      else
        let word := skipDelimiters text
        countRounds rounds (if word.isEmpty then count else count + 1) (consumeWord word)

/-- The count of `execute_word_count`.  Every round of the outer loop consumes a byte, so as
many rounds as the text has bytes are enough. -/
def countWords (words : List UInt8) : UInt32 :=
  countRounds words.length 0 words

theorem length_skipDelimiters_le (text : List UInt8) :
    (skipDelimiters text).length ≤ text.length := by
  induction text with
  | nil => rfl
  | cons c rest ih =>
      simp only [skipDelimiters]
      split
      next => rfl
      next => exact Nat.le_succ_of_le ih

theorem length_consumeWord_le (text : List UInt8) :
    (consumeWord text).length ≤ text.length := by
  induction text with
  | nil => rfl
  | cons c rest ih =>
      simp only [consumeWord]
      split_ifs
      · exact Nat.le_succ_of_le ih
      · exact Nat.le_succ_of_le ih
      · rfl

/-- The skipping loop stops at the end of the text or at a letter or digit. -/
theorem skipDelimiters_eq_nil_or_cons (text : List UInt8) :
    skipDelimiters text = [] ∨
      ∃ c rest, skipDelimiters text = c :: rest ∧ isAlnum c = true := by
  induction text with
  | nil => exact .inl rfl
  | cons c rest ih =>
      simp only [skipDelimiters]
      split
      next alnum => exact .inr ⟨c, rest, rfl, alnum⟩
      next => exact ih

/-- One round of the outer loop shortens a text that is not empty. -/
theorem length_round_lt {text : List UInt8} (rest : text ≠ []) :
    (consumeWord (skipDelimiters text)).length < text.length := by
  have nonempty : 0 < text.length := List.length_pos_iff.mpr rest
  obtain skipped | ⟨c, word, skipped, alnum⟩ := skipDelimiters_eq_nil_or_cons text
  · rw [skipped]
    exact nonempty
  · have shorter := length_skipDelimiters_le text
    rw [skipped] at shorter ⊢
    simp only [consumeWord, alnum, if_true]
    exact lt_of_le_of_lt (length_consumeWord_le word) shorter

/-- The outer loop has ended after as many rounds as the text has bytes. -/
theorem countRounds_of_length_le {rounds : Nat} {text : List UInt8}
    (enough : text.length ≤ rounds) (count : UInt32) :
    countRounds rounds count text = countRounds text.length count text := by
  induction rounds using Nat.strong_induction_on generalizing text count with
  | _ rounds ih =>
      cases text with
      | nil => cases rounds <;> simp [countRounds]
      | cons c rest =>
          obtain ⟨fewer, rfl⟩ : ∃ fewer, rounds = fewer + 1 :=
            ⟨rounds - 1, by simp at enough; omega⟩
          have shorter := length_round_lt (List.cons_ne_nil c rest)
          simp only [List.length_cons] at enough shorter
          simp only [countRounds, List.length_cons, List.isEmpty_cons, Bool.false_eq_true,
            if_false]
          rw [ih fewer (by omega) (by omega)]
          by_cases same : rest.length = fewer
          · rw [same, ih fewer (by omega) (by omega)]
          · rw [ih rest.length (by omega) (by omega)]

/-! ## The switch over the type -/

def executeSynthetic (task : AssignMsg) (startedAt completedAt : Nanoseconds) : CompleteMsg :=
  { taskId := task.taskId, startedAt, completedAt, success := 1 }

def executeWordCount (task : AssignMsg) (startedAt completedAt : Nanoseconds) : CompleteMsg :=
  { taskId := task.taskId, startedAt, completedAt, result := countWords task.words,
    success := 1 }

/-- The response that `execution_worker` makes for a task.  A type without a name leaves the
response as it was initialised. -/
def execute (task : AssignMsg) (startedAt completedAt : Nanoseconds) : CompleteMsg :=
  match task.type with
  | .synthetic => executeSynthetic task startedAt completedAt
  | .wordCount => executeWordCount task startedAt completedAt
  | .other _ _ => { taskId := 0 }

theorem execute_taskId {task : AssignMsg} (known : task.type.Known)
    (startedAt completedAt : Nanoseconds) :
    (execute task startedAt completedAt).taskId = task.taskId := by
  unfold execute
  cases kind : task.type with
  | synthetic => rfl
  | wordCount => rfl
  | other byte unnamed =>
      rw [kind] at known
      exact known.elim

end Worker

end TaskCoordinator
