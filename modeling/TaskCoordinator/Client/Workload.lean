import TaskCoordinator.Client
import TaskCoordinator.Coordinator.Events
import TaskCoordinator.Worker.WordCount

/-!
# The texts of the client

The client generates a text with a known number of words for each of its sizes, sends one
of them with every word count request, and asserts that the response has that number.  The
worker counts the words of the text it is assigned.  The two programs share no code for
this, and their agreement is proved here.
-/

namespace TaskCoordinator

namespace Config

def shortTextWords : Nat := 10
def mediumTextWords : Nat := 100
def longTextWords : Nat := 1000

end Config

inductive TextMode where
  | clean
  | noisy
  deriving DecidableEq, Repr

inductive WorkloadSize where
  | short
  | medium
  | long
  deriving DecidableEq, Repr

def getTextSize : WorkloadSize → Nat
  | .short => Config.shortTextWords
  | .medium => Config.mediumTextWords
  | .long => Config.longTextWords

/-! ## Generated texts -/

/-- The bytes of a string literal of the source. -/
def ascii (literal : String) : List UInt8 :=
  literal.toList.map fun c => UInt8.ofNat c.toNat

/-- The word that `generate_text` repeats. -/
def TextMode.word : TextMode → List UInt8
  | .clean => ascii "distributed"
  | .noisy => ascii "distributed's"

/-- What `generate_text` puts after every word. -/
def TextMode.separator : TextMode → List UInt8
  | .clean => ascii " "
  | .noisy => ascii " !?,.; "

/-- `generate_text`: every round of its loop appends a word and a separator. -/
def generateText (numWords : Nat) (mode : TextMode) : List UInt8 :=
  (fun result => result ++ mode.word ++ mode.separator)^[numWords] []

/-- The text that `run` prepares for the requests of a size. -/
def textOfSize (size : WorkloadSize) : List UInt8 :=
  generateText (getTextSize size) .clean

/-- The request of `create_word_count_task` for a size. -/
def ClientThread.wordCountRequest (client : ClientThread) (size : WorkloadSize) : SubmitMsg :=
  client.request (.wordCount (textOfSize size))

namespace Worker

/-- The scanner counts one word in a word of a generated text and its separator, and is
outside of words again. -/
theorem starts_word_append (mode : TextMode) (rest : List UInt8) :
    Scan.outside.starts (mode.word ++ mode.separator ++ rest) =
      1 + Scan.outside.starts rest := by
  cases mode <;>
    simp [TextMode.word, TextMode.separator, ascii, Scan.starts, Scan.next, isAlnum, apostrophe]

/-- Every round of `generate_text` adds one word, whatever is appended afterwards. -/
theorem starts_generateText_append (numWords : Nat) (mode : TextMode) (rest : List UInt8) :
    Scan.outside.starts (generateText numWords mode ++ rest) =
      numWords + Scan.outside.starts rest := by
  induction numWords generalizing rest with
  | zero => simp [generateText]
  | succ numWords ih =>
      have unrolled : generateText (numWords + 1) mode =
          generateText numWords mode ++ (mode.word ++ mode.separator) := by
        simp only [generateText, Function.iterate_succ_apply', List.append_assoc]
      calc
        Scan.outside.starts (generateText (numWords + 1) mode ++ rest)
            = Scan.outside.starts
                (generateText numWords mode ++ (mode.word ++ mode.separator ++ rest)) := by
              rw [unrolled, List.append_assoc]
        _ = numWords + (1 + Scan.outside.starts rest) := by
              rw [ih, starts_word_append]
        _ = numWords + 1 + Scan.outside.starts rest := by
              rw [Nat.add_assoc]

theorem wordStarts_generateText (numWords : Nat) (mode : TextMode) :
    wordStarts (generateText numWords mode) = numWords := by
  have counted := starts_generateText_append numWords mode []
  rw [List.append_nil] at counted
  rw [wordStarts_eq, counted]
  rfl

end Worker

/-! ## The assertion of the client -/

/-- The response belongs to the request: some coordinator assigned the task of the request,
some worker executed the assignment, and some coordinator answered with what it completed
the task with. -/
def Belongs (response : Message) (request : SubmitMsg) : Prop :=
  ∃ (assigning completing : Coordinator) (worker : WorkerId) (assignment : AssignMsg)
    (queuedAt assignedAt startedAt completedAt : Nanoseconds),
    (assigning.assignMessage (request.task queuedAt)).assign? = some assignment ∧
    response = completing.resultMessage
      ((Worker.execute assignment startedAt completedAt).update
        ((request.task queuedAt).assignedTo worker assignedAt))

/-- The condition of the assertion in `ClientRunner::worker`. -/
def assertionHolds (request : SubmitMsg) (response : Message) (size : WorkloadSize) : Prop :=
  request.type = .wordCount → response.result.result = UInt32.ofNat (getTextSize size)

/-- The worker's count of the words of a generated text is the number the client asked for,
and the client's assertion holds for every response that belongs to its request. -/
theorem generatedText_counts (numWords : Nat) (small : numWords < 2 ^ 32) (mode : TextMode) :
    (∀ (task : AssignMsg) (startedAt completedAt : Nanoseconds),
      task.words = generateText numWords mode →
      (Worker.executeWordCount task startedAt completedAt).result.toNat = numWords) ∧
    ∀ (client : ClientThread) (size : WorkloadSize) (response : Message),
      Belongs response (client.wordCountRequest size) →
      assertionHolds (client.wordCountRequest size) response size := by
  constructor
  · intro task startedAt completedAt generated
    rw [Worker.executeWordCount, generated, Worker.countWords_eq,
      Worker.wordStarts_generateText]
    exact UInt32.toNat_ofNat_of_lt' small
  · intro client size response belongs _
    obtain ⟨assigning, completing, worker, assignment, queuedAt, assignedAt, startedAt,
      completedAt, assigned, rfl⟩ := belongs
    have counted : assignment.type = .wordCount ∧ assignment.words = textOfSize size := by
      cases assigned
      exact ⟨rfl, rfl⟩
    have result : (Worker.execute assignment startedAt completedAt).result =
        UInt32.ofNat (getTextSize size) := by
      rw [Worker.execute, counted.1]
      simp only [Worker.executeWordCount]
      rw [counted.2, textOfSize, Worker.countWords_eq, Worker.wordStarts_generateText]
    simp [Coordinator.resultMessage, Message.result, CompleteMsg.update, result,
      ClientThread.wordCountRequest, ClientThread.request]

theorem generatedText_counts_two :
    (2 < 2 ^ 32 ∧
      (Worker.executeWordCount
        { taskId := 1, type := .wordCount, words := generateText 2 .noisy } 0 1).result.toNat =
          2) ∧
    ∃ response, Belongs response ({ id := 0, numTasks := 1 : ClientThread }.wordCountRequest .long) ∧
      assertionHolds ({ id := 0, numTasks := 1 : ClientThread }.wordCountRequest .long)
        response .long :=
  have answered : Belongs _ ({ id := 0, numTasks := 1 : ClientThread }.wordCountRequest .long) :=
    ⟨.init, .init, 0, _, 5, 6, 7, 8, rfl, rfl⟩
  ⟨⟨by decide, (generatedText_counts 2 (by decide) .noisy).1 _ 0 1 rfl⟩,
    _, answered, (generatedText_counts 2 (by decide) .noisy).2 _ _ _ answered⟩

end TaskCoordinator
