import TaskCoordinator.CommandLine.Utils
import TaskCoordinator.Library.OptionLoop
import TaskCoordinator.Worker.Draining

/-!
# The command lines of the programs

Each of the five `main` functions reads its options in a loop, in which it checks and stores every
value at once, and then sees whether the required ones are there.  At the first fault it prints
what is wrong and returns -1, and at a word for help it returns 0.  Otherwise the program starts.

Whatever the arguments are, a program starts with values that are in bounds only, although numbers
may be followed by other characters, may be negative where an unsigned number is read, and are cut
to fewer bits in one place.  And it can be started with all values that are in bounds.
-/

namespace TaskCoordinator

namespace CommandLine

open OptionLoop

/-! ## One program -/

variable {σ ρ α : Type}

/-- An option: how its value is read and checked, and where it is stored. -/
def option (names : List String) (read : String → String → Except String α) (set : α → σ → σ) :
    Entry String σ String where
  names
  store name value settings := do
    let stored ← read name value
    .ok (set stored settings)

/-- The options of a `main` function, and what it makes of them.  A value and the flag that tells
whether it has been set are one `Option`. -/
structure Program (σ ρ : Type) where
  options : List (Entry String σ String)
  start : σ
  /-- What the program is started with, unless a required option is missing. -/
  finish : σ → Option ρ
  required : String

namespace Program

def grammar (program : Program σ ρ) : Grammar String σ String where
  help := ["-h", "--help"]
  entries := program.options
  unknown name := "Invalid argument: " ++ name
  missing name := "Missing value for " ++ name

/-- `main`, where an error is the text that it prints, and `none` stands for the help text. -/
def main (program : Program σ ρ) (args : List String) : Except String (Option ρ) := do
  match ← parse program.grammar program.start args with
  | none => .ok none
  | some settings =>
      match program.finish settings with
      | some arguments => .ok (some arguments)
      | none => .error program.required

/-- The program starts with arguments that are in bounds only, and with all of them. -/
structure StartsWithin (program : Program σ ρ) (inBounds : ρ → Prop)
    (commandLine : ρ → List String) : Prop where
  sound : ∀ {args arguments}, program.main args = .ok (some arguments) → inBounds arguments
  complete : ∀ {arguments}, inBounds arguments →
    program.main (commandLine arguments) = .ok (some arguments)

variable {program : Program σ ρ} {args : List String} {settings : σ} {arguments : ρ}

theorem main_of_parse (parsed : parse program.grammar program.start args = .ok (some settings))
    (finished : program.finish settings = some arguments) :
    program.main args = .ok (some arguments) := by
  rw [main, parsed]
  simp only [bind, Except.bind, finished]

/-- What every option keeps holds of what the program is started with. -/
theorem main_keeps (holds : σ → Prop) {inBounds : ρ → Prop} (start : holds program.start)
    (kept : ∀ entry ∈ program.options, entry.Keeps holds)
    (finished : ∀ {settings arguments}, holds settings →
      program.finish settings = some arguments → inBounds arguments)
    (started : program.main args = .ok (some arguments)) : inBounds arguments := by
  obtain ⟨result, parsed, rest⟩ := Transition.bind_eq_ok.mp started
  cases result with
  | none => cases rest
  | some settings =>
      have held : holds settings := parse_keeps kept args start parsed
      cases finish : program.finish settings with
      | none => simp [finish] at rest
      | some arguments =>
          simp only [finish] at rest
          cases rest
          exact finished held finish

end Program

variable {names : List String} {read : String → String → Except String α} {set : α → σ → σ}

theorem option_keeps {holds : σ → Prop}
    (kept : ∀ {name value stored}, read name value = .ok stored →
      ∀ settings, holds settings → holds (set stored settings)) :
    (option names read set).Keeps holds := by
  intro name value settings settings' held stored
  obtain ⟨number, isRead, done⟩ := Transition.bind_eq_ok.mp stored
  cases done
  exact kept isRead settings held

theorem option_reads {program : Program σ ρ} {name value : String} {stored : α}
    (noHelp : name ∉ program.grammar.help)
    (found : program.grammar.lookup name = some (option names read set))
    (isRead : read name value = .ok stored) (settings : σ) :
    Reads program.grammar settings name value (set stored settings) where
  noHelp := noHelp
  stored := ⟨_, found, by simp only [option, isRead]; rfl⟩

/-! ## Values -/

/-- The value of a numeric option. -/
def readNumber (convert : String → Option α) (validate : α → Except String Unit)
    (name value : String) : Except String α :=
  match convert value with
  | some number => do
      validate number
      .ok number
  | none => .error ("Invalid value for " ++ name ++ " (must be numeric)")

theorem readNumber_eq_ok {convert : String → Option α} {validate : α → Except String Unit}
    {name value : String} {number : α} :
    readNumber convert validate name value = .ok number ↔
      convert value = some number ∧ validate number = .ok () := by
  unfold readNumber
  cases converted : convert value with
  | none => simp
  | some other =>
      constructor
      · intro isRead
        obtain ⟨_, valid, same⟩ := Transition.bind_eq_ok.mp isRead
        cases same
        exact ⟨rfl, valid⟩
      · rintro ⟨same, valid⟩
        cases same
        exact Transition.bind_eq_ok.mpr ⟨(), valid, rfl⟩

/-- The value of `--port`. -/
def readPort (name value : String) : Except String UInt16 := do
  let port ← readNumber stoi validatePort name value
  .ok (port16 port)

theorem readPort_pos {name value : String} {port : UInt16}
    (isRead : readPort name value = .ok port) : 0 < port := by
  obtain ⟨number, accepted, same⟩ := Transition.bind_eq_ok.mp isRead
  cases same
  exact port16_pos (readNumber_eq_ok.mp accepted).2

theorem readPort_toString {port : UInt16} (positive : 0 < port) (name : String) :
    readPort name (toString port.toNat) = .ok port := by
  obtain ⟨converted, valid, same⟩ := port_toString positive
  refine Transition.bind_eq_ok.mpr ⟨_, readNumber_eq_ok.mpr ⟨converted, valid⟩, ?_⟩
  rw [same]

/-- The value of `--ip`, which is not checked. -/
def readIp (_ value : String) : Except String String :=
  .ok value

def readWorkers : String → String → Except String UInt64 :=
  readNumber stoul validateWorkers

/-- The number of clients has 32 bits only, and is checked after it has been cut. -/
def readClients : String → String → Except String UInt32 :=
  readNumber (fun text => (stoul text).map UInt64.toUInt32)
    fun clients => validateClients clients.toUInt64

def readTasks : String → String → Except String UInt64 :=
  readNumber stoull (validateNumeric · "Number of tasks")

theorem readWorkers_toString {workers : UInt64}
    (inRange : 0 < workers ∧ workers ≤ Config.maxWorkerThreads) (name : String) :
    readWorkers name (toString workers.toNat) = .ok workers :=
  readNumber_eq_ok.mpr ⟨stoull_toString workers, validateCount_eq_ok.mpr inRange⟩

theorem readClients_toString {clients : UInt32}
    (inRange : 0 < clients.toUInt64 ∧ clients.toUInt64 ≤ Config.maxClients) (name : String) :
    readClients name (toString clients.toNat) = .ok clients := by
  refine readNumber_eq_ok.mpr ⟨?_, validateCount_eq_ok.mpr inRange⟩
  have read : stoul (toString clients.toNat) = some clients.toUInt64 :=
    stoull_toString clients.toUInt64
  rw [read, Option.map_some, UInt32.toUInt32_toUInt64]

theorem readTasks_toString {tasks : UInt64} (positive : 0 < tasks) (name : String) :
    readTasks name (toString tasks.toNat) = .ok tasks :=
  readNumber_eq_ok.mpr ⟨stoull_toString tasks, validateNumeric_eq_ok.mpr positive⟩

/-- `RequestType`. -/
inductive RequestType where
  | synthetic
  | wordCount
  | mixed
  deriving DecidableEq, Repr

def getRequestType (requestType : String) : Except String RequestType :=
  if requestType = "synthetic" then
    .ok .synthetic
  else if requestType = "word" then
    .ok .wordCount
  else if requestType = "mixed" then
    .ok .mixed
  else
    .error ("Invalid task type: " ++ requestType ++
      "\nTask type must be one of: [synthetic, word, mixed]")

def RequestType.text : RequestType → String
  | .synthetic => "synthetic"
  | .wordCount => "word"
  | .mixed => "mixed"

theorem getRequestType_text (requestType : RequestType) :
    getRequestType requestType.text = .ok requestType := by
  cases requestType <;> decide

/-- `RouterShardGroup`, as the command line gives it. -/
structure Shard where
  primary : Address
  backup : Address
  deriving DecidableEq, Repr

def parseShard (shard : String) : Except String Shard :=
  match splitFirst ',' shard.toList with
  | none => .error "Invalid shard format. Use <ip:port,ip:port>"
  | some (primaryStr, backupStr) =>
      if ',' ∈ backupStr then
        .error "Shard must contain exactly 2 endpoints"
      else do
        let primary ← parseEndpoint (String.ofList primaryStr)
        let backup ← parseEndpoint (String.ofList backupStr)
        .ok { primary, backup }

def Shard.text (shard : Shard) : String :=
  shard.primary.text ++ "," ++ shard.backup.text

/-- A shard whose text can be read back. -/
structure Shard.WellFormed (shard : Shard) : Prop where
  primary : shard.primary.WellFormed
  backup : shard.backup.WellFormed
  cleanPrimary : ',' ∉ shard.primary.ip.toList
  cleanBackup : ',' ∉ shard.backup.ip.toList

theorem parseShard_wellFormed {input : String} {shard : Shard}
    (parsed : parseShard input = .ok shard) : shard.WellFormed := by
  unfold parseShard at parsed
  split at parsed
  next => cases parsed
  next primaryStr backupStr found =>
    obtain ⟨_, cleanPrimary⟩ := splitFirst_eq_some found
    split_ifs at parsed with cleanBackup
    obtain ⟨primary, parsedPrimary, rest⟩ := Transition.bind_eq_ok.mp parsed
    obtain ⟨backup, parsedBackup, done⟩ := Transition.bind_eq_ok.mp rest
    cases done
    obtain ⟨primaryFormed, _, primaryText⟩ := parseEndpoint_wellFormed parsedPrimary
    obtain ⟨backupFormed, _, backupText⟩ := parseEndpoint_wellFormed parsedBackup
    rw [String.toList_ofList] at primaryText backupText
    refine ⟨primaryFormed, backupFormed, fun member => ?_, fun member => ?_⟩
    · exact cleanPrimary (primaryText ▸ List.mem_append_left _ member)
    · exact cleanBackup (backupText ▸ List.mem_append_left _ member)

/-- A comma in the text of an address is one of its ip. -/
theorem Address.comma_notMem_text {address : Address} (clean : ',' ∉ address.ip.toList) :
    ',' ∉ address.text.toList := by
  have printed : ',' ∉ Nat.toDigits 10 address.port.toNat := fun member =>
    absurd (Nat.isDigit_of_mem_toDigits (by decide) (by decide) member) (by decide)
  simp [Address.text, clean, printed]

theorem parseShard_text {shard : Shard} (wellFormed : shard.WellFormed) :
    parseShard shard.text = .ok shard := by
  have text : shard.text.toList =
      shard.primary.text.toList ++ ',' :: shard.backup.text.toList := by
    simp [Shard.text]
  have cleanPrimary := Address.comma_notMem_text wellFormed.cleanPrimary
  have cleanBackup := Address.comma_notMem_text wellFormed.cleanBackup
  rw [parseShard, text, splitFirst_append cleanPrimary]
  simp only [if_neg cleanBackup, String.ofList_toList, parseEndpoint_text wellFormed.primary,
    parseEndpoint_text wellFormed.backup]
  rfl

/-! ## The options of several programs -/

def portOption (set : UInt16 → σ → σ) : Entry String σ String :=
  option ["-p", "--port"] readPort set

def ipOption (set : String → σ → σ) : Entry String σ String :=
  option ["--ip"] readIp set

theorem portOption_keeps {holds : σ → Prop} {set : UInt16 → σ → σ}
    (kept : ∀ {port}, 0 < port → ∀ settings, holds settings → holds (set port settings)) :
    (portOption set).Keeps holds :=
  option_keeps fun isRead => kept (readPort_pos isRead)

theorem ipOption_keeps {holds : σ → Prop} {set : String → σ → σ}
    (kept : ∀ ip settings, holds settings → holds (set ip settings)) :
    (ipOption set).Keeps holds :=
  option_keeps fun _ => kept _

theorem reads_port {program : Program σ ρ} {set : UInt16 → σ → σ} {port : UInt16}
    (found : program.grammar.lookup "-p" = some (portOption set)) (positive : 0 < port)
    (settings : σ) :
    Reads program.grammar settings "-p" (toString port.toNat) (set port settings) :=
  have noHelp : "-p" ∉ ["-h", "--help"] := by decide
  option_reads noHelp found (readPort_toString positive "-p") settings

theorem reads_ip {program : Program σ ρ} {set : String → σ → σ}
    (found : program.grammar.lookup "--ip" = some (ipOption set)) (ip : String) (settings : σ) :
    Reads program.grammar settings "--ip" ip (set ip settings) :=
  have noHelp : "--ip" ∉ ["-h", "--help"] := by decide
  option_reads noHelp found rfl settings

/-! ## `worker` -/

structure WorkerSettings where
  ip : String
  port : Option UInt16
  workers : Option UInt64

structure WorkerArguments where
  ip : String
  port : UInt16
  workers : UInt64
  deriving DecidableEq, Repr

def worker : Program WorkerSettings WorkerArguments where
  options :=
    [portOption fun port settings => { settings with port := some port },
      option ["-w", "--workers"] readWorkers fun workers settings =>
        { settings with workers := some workers },
      ipOption fun ip settings => { settings with ip }]
  start := { ip := "127.0.0.1", port := none, workers := none }
  finish settings := do
    let port ← settings.port
    let workers ← settings.workers
    return { ip := settings.ip, port, workers }
  required := "Missing required options: --port, --workers"

structure WorkerArguments.InBounds (arguments : WorkerArguments) : Prop where
  port : 0 < arguments.port
  workers : 0 < arguments.workers ∧ arguments.workers ≤ Config.maxWorkerThreads

def WorkerArguments.commandLine (arguments : WorkerArguments) : List String :=
  ["-p", toString arguments.port.toNat, "-w", toString arguments.workers.toNat,
    "--ip", arguments.ip]

theorem worker_startsWithin :
    worker.StartsWithin WorkerArguments.InBounds WorkerArguments.commandLine where
  sound := by
    refine Program.main_keeps
      (fun settings => (∀ port ∈ settings.port, 0 < port) ∧
        ∀ workers ∈ settings.workers, 0 < workers ∧ workers ≤ Config.maxWorkerThreads)
      ⟨by simp [worker], by simp [worker]⟩ ?_ ?_
    · simp only [worker, List.forall_mem_cons]
      refine ⟨portOption_keeps fun positive settings held => ⟨by simpa, held.2⟩,
        option_keeps fun isRead settings held => ⟨held.1, ?_⟩,
        ipOption_keeps fun ip settings held => held, List.forall_mem_nil _⟩
      rintro workers ⟨⟩
      exact validateCount_eq_ok.mp (readNumber_eq_ok.mp isRead).2
    · intro settings arguments held finished
      obtain ⟨port, isPort, rest⟩ := Option.bind_eq_some_iff.mp finished
      obtain ⟨workers, isWorkers, done⟩ := Option.bind_eq_some_iff.mp rest
      cases done
      exact ⟨held.1 port isPort, held.2 workers isWorkers⟩
  complete := by
    intro arguments inBounds
    have workers := readWorkers_toString inBounds.workers "-w"
    have parsed : parse worker.grammar worker.start arguments.commandLine = .ok (some
        { ip := arguments.ip, port := some arguments.port, workers := some arguments.workers }) := by
      rw [WorkerArguments.commandLine, parse_reads (reads_port rfl inBounds.port _),
        parse_reads (option_reads (by decide) rfl workers _), parse_reads (reads_ip rfl _ _)]
      rfl
    exact Program.main_of_parse parsed rfl

/-! ## `top` -/

structure TopSettings where
  ip : String
  port : Option UInt16

structure TopArguments where
  ip : String
  port : UInt16
  deriving DecidableEq, Repr

def top : Program TopSettings TopArguments where
  options :=
    [portOption fun port settings => { settings with port := some port },
      ipOption fun ip settings => { settings with ip }]
  start := { ip := "127.0.0.1", port := none }
  finish settings := do
    let port ← settings.port
    return { ip := settings.ip, port }
  required := "Missing required options: --port"

def TopArguments.InBounds (arguments : TopArguments) : Prop :=
  0 < arguments.port

def TopArguments.commandLine (arguments : TopArguments) : List String :=
  ["-p", toString arguments.port.toNat, "--ip", arguments.ip]

theorem top_startsWithin : top.StartsWithin TopArguments.InBounds TopArguments.commandLine where
  sound := by
    refine Program.main_keeps (fun settings => ∀ port ∈ settings.port, 0 < port)
      (by simp [top]) ?_ ?_
    · simp only [top, List.forall_mem_cons]
      exact ⟨portOption_keeps fun positive settings _ => by simpa,
        ipOption_keeps fun ip settings held => held, List.forall_mem_nil _⟩
    · intro settings arguments held finished
      obtain ⟨port, isPort, done⟩ := Option.bind_eq_some_iff.mp finished
      cases done
      exact held port isPort
  complete := by
    intro arguments inBounds
    have parsed : parse top.grammar top.start arguments.commandLine = .ok (some
        { ip := arguments.ip, port := some arguments.port }) := by
      rw [TopArguments.commandLine, parse_reads (reads_port rfl inBounds _),
        parse_reads (reads_ip rfl _ _)]
      rfl
    exact Program.main_of_parse parsed rfl

/-! ## `coordinator` -/

structure CoordinatorSettings where
  port : Option UInt16
  peers : List Address

structure CoordinatorArguments where
  port : UInt16
  peer : Address
  deriving DecidableEq, Repr

def coordinator : Program CoordinatorSettings CoordinatorArguments where
  options :=
    [portOption fun port settings => { settings with port := some port },
      option ["--peer"] (fun _ value => parseEndpoint value) fun peer settings =>
        { settings with peers := settings.peers ++ [peer] }]
  start := { port := none, peers := [] }
  finish settings :=
    match settings.port, settings.peers with
    | some port, [peer] => some { port, peer }
    | _, _ => none
  required := "Missing required options: --port, --peer"

structure CoordinatorArguments.InBounds (arguments : CoordinatorArguments) : Prop where
  port : 0 < arguments.port
  peer : arguments.peer.WellFormed

def CoordinatorArguments.commandLine (arguments : CoordinatorArguments) : List String :=
  ["-p", toString arguments.port.toNat, "--peer", arguments.peer.text]

theorem coordinator_startsWithin :
    coordinator.StartsWithin CoordinatorArguments.InBounds CoordinatorArguments.commandLine where
  sound := by
    refine Program.main_keeps
      (fun settings => (∀ port ∈ settings.port, 0 < port) ∧
        ∀ peer ∈ settings.peers, peer.WellFormed)
      ⟨by simp [coordinator], by simp [coordinator]⟩ ?_ ?_
    · simp only [coordinator, List.forall_mem_cons]
      refine ⟨portOption_keeps fun positive settings held => ⟨by simpa, held.2⟩,
        option_keeps fun isRead settings held => ⟨held.1, ?_⟩, List.forall_mem_nil _⟩
      have peer := (parseEndpoint_wellFormed isRead).1
      exact List.forall_mem_append.mpr ⟨held.2, List.forall_mem_singleton.mpr peer⟩
    · intro settings arguments held finished
      simp only [coordinator] at finished
      split at finished
      next port peer isPort isPeer =>
        cases finished
        exact ⟨held.1 port isPort, held.2 peer (isPeer ▸ List.mem_singleton_self peer)⟩
      next => cases finished
  complete := by
    intro arguments inBounds
    have peer := parseEndpoint_text inBounds.peer
    have parsed : parse coordinator.grammar coordinator.start arguments.commandLine = .ok (some
        { port := some arguments.port, peers := [arguments.peer] }) := by
      rw [CoordinatorArguments.commandLine, parse_reads (reads_port rfl inBounds.port _),
        parse_reads (option_reads (by decide) rfl peer _)]
      rfl
    exact Program.main_of_parse parsed rfl

/-! ## `router` -/

structure RouterSettings where
  port : Option UInt16
  shards : List Shard

def RouterSettings.add (settings : RouterSettings) (shard : Shard) : RouterSettings :=
  { settings with shards := settings.shards ++ [shard] }

theorem RouterSettings.foldl_add (settings : RouterSettings) (shards : List Shard) :
    shards.foldl RouterSettings.add settings =
      { settings with shards := settings.shards ++ shards } := by
  induction shards generalizing settings with
  | nil => simp
  | cons shard rest ih => simp [ih, add]

structure RouterArguments where
  port : UInt16
  shards : List Shard
  deriving DecidableEq, Repr

def router : Program RouterSettings RouterArguments where
  options :=
    [portOption fun port settings => { settings with port := some port },
      option ["-s", "--shard"] (fun _ value => parseShard value) fun shard settings =>
        settings.add shard]
  start := { port := none, shards := [] }
  finish settings :=
    match settings.port with
    | some port => if settings.shards = [] then none else some { port, shards := settings.shards }
    | none => none
  required := "Missing required options: --port, --shard"

structure RouterArguments.InBounds (arguments : RouterArguments) : Prop where
  port : 0 < arguments.port
  shards : ∀ shard ∈ arguments.shards, shard.WellFormed
  nonempty : arguments.shards ≠ []

def RouterArguments.commandLine (arguments : RouterArguments) : List String :=
  ["-p", toString arguments.port.toNat] ++
    arguments.shards.flatMap fun shard => ["-s", shard.text]

theorem router_startsWithin :
    router.StartsWithin RouterArguments.InBounds RouterArguments.commandLine where
  sound := by
    refine Program.main_keeps
      (fun settings => (∀ port ∈ settings.port, 0 < port) ∧
        ∀ shard ∈ settings.shards, shard.WellFormed)
      ⟨by simp [router], by simp [router]⟩ ?_ ?_
    · simp only [router, List.forall_mem_cons]
      refine ⟨portOption_keeps fun positive settings held => ⟨by simpa, held.2⟩,
        option_keeps fun isRead settings held => ⟨held.1, ?_⟩, List.forall_mem_nil _⟩
      have shard := parseShard_wellFormed isRead
      exact List.forall_mem_append.mpr ⟨held.2, List.forall_mem_singleton.mpr shard⟩
    · intro settings arguments held finished
      simp only [router] at finished
      split at finished
      next port isPort =>
        split_ifs at finished with isEmpty
        cases finished
        exact ⟨held.1 port isPort, held.2, isEmpty⟩
      next => cases finished
  complete := by
    intro arguments inBounds
    have reads : ∀ shard ∈ arguments.shards, ∀ settings,
        Reads router.grammar settings "-s" shard.text (settings.add shard) := by
      intro shard member settings
      have noHelp : "-s" ∉ router.grammar.help := by decide
      exact option_reads noHelp rfl (parseShard_text (inBounds.shards shard member)) settings
    have parsed : parse router.grammar router.start arguments.commandLine = .ok (some
        { port := some arguments.port, shards := arguments.shards }) := by
      rw [RouterArguments.commandLine, List.cons_append, List.cons_append, List.nil_append,
        parse_reads (reads_port rfl inBounds.port _), ← List.append_nil (List.flatMap _ _),
        parse_flatMap RouterSettings.add (fun shard => ("-s", shard.text)) reads,
        RouterSettings.foldl_add]
      rfl
    refine Program.main_of_parse parsed ?_
    exact if_neg inBounds.nonempty

/-! ## `client` -/

structure ClientSettings where
  ip : String
  port : Option UInt16
  clients : Option UInt32
  tasks : Option UInt64
  taskType : Option RequestType

structure ClientArguments where
  tasks : UInt64
  clients : UInt32
  port : UInt16
  ip : String
  taskType : RequestType
  deriving DecidableEq, Repr

def client : Program ClientSettings ClientArguments where
  options :=
    [portOption fun port settings => { settings with port := some port },
      option ["-c", "--clients"] readClients fun clients settings =>
        { settings with clients := some clients },
      option ["-n", "--num_tasks"] readTasks fun tasks settings =>
        { settings with tasks := some tasks },
      option ["-t", "--task_type"] (fun _ value => getRequestType value) fun taskType settings =>
        { settings with taskType := some taskType },
      ipOption fun ip settings => { settings with ip }]
  start := { ip := "127.0.0.1", port := none, clients := none, tasks := none, taskType := none }
  finish settings := do
    let port ← settings.port
    let taskType ← settings.taskType
    let tasks ← settings.tasks
    let clients ← settings.clients
    return { tasks, clients, port, ip := settings.ip, taskType }
  required := "Missing required options: --port, --clients, --num_tasks, --task_type"

structure ClientArguments.InBounds (arguments : ClientArguments) : Prop where
  port : 0 < arguments.port
  clients : 0 < arguments.clients.toUInt64 ∧ arguments.clients.toUInt64 ≤ Config.maxClients
  tasks : 0 < arguments.tasks

def ClientArguments.commandLine (arguments : ClientArguments) : List String :=
  ["-p", toString arguments.port.toNat, "-c", toString arguments.clients.toNat,
    "-n", toString arguments.tasks.toNat, "-t", arguments.taskType.text, "--ip", arguments.ip]

theorem client_startsWithin :
    client.StartsWithin ClientArguments.InBounds ClientArguments.commandLine where
  sound := by
    refine Program.main_keeps
      (fun settings => (∀ port ∈ settings.port, 0 < port) ∧
        (∀ clients ∈ settings.clients,
          0 < clients.toUInt64 ∧ clients.toUInt64 ≤ Config.maxClients) ∧
        ∀ tasks ∈ settings.tasks, 0 < tasks)
      ⟨by simp [client], by simp [client], by simp [client]⟩ ?_ ?_
    · simp only [client, List.forall_mem_cons]
      refine ⟨portOption_keeps fun positive settings held => ⟨by simpa, held.2⟩,
        option_keeps fun isRead settings held => ⟨held.1, ?_, held.2.2⟩,
        option_keeps fun isRead settings held => ⟨held.1, held.2.1, ?_⟩,
        option_keeps fun isRead settings held => held,
        ipOption_keeps fun ip settings held => held, List.forall_mem_nil _⟩
      · rintro clients ⟨⟩
        exact validateCount_eq_ok.mp (readNumber_eq_ok.mp isRead).2
      · rintro tasks ⟨⟩
        exact validateNumeric_eq_ok.mp (readNumber_eq_ok.mp isRead).2
    · intro settings arguments held finished
      obtain ⟨port, isPort, rest⟩ := Option.bind_eq_some_iff.mp finished
      obtain ⟨taskType, _, rest⟩ := Option.bind_eq_some_iff.mp rest
      obtain ⟨tasks, isTasks, rest⟩ := Option.bind_eq_some_iff.mp rest
      obtain ⟨clients, isClients, done⟩ := Option.bind_eq_some_iff.mp rest
      cases done
      exact ⟨held.1 port isPort, held.2.1 clients isClients, held.2.2 tasks isTasks⟩
  complete := by
    intro arguments inBounds
    have clients := readClients_toString inBounds.clients "-c"
    have tasks := readTasks_toString inBounds.tasks "-n"
    have taskType := getRequestType_text arguments.taskType
    have parsed : parse client.grammar client.start arguments.commandLine = .ok (some
        { ip := arguments.ip
          port := some arguments.port
          clients := some arguments.clients
          tasks := some arguments.tasks
          taskType := some arguments.taskType }) := by
      rw [ClientArguments.commandLine, parse_reads (reads_port rfl inBounds.port _),
        parse_reads (option_reads (by decide) rfl clients _),
        parse_reads (option_reads (by decide) rfl tasks _),
        parse_reads (option_reads (by decide) rfl taskType _), parse_reads (reads_ip rfl _ _)]
      rfl
    exact Program.main_of_parse parsed rfl

/-- A negative number of tasks wraps around, and a number of clients is cut to 32 bits before it is
checked. -/
example :
    client.main ["-n", "-1", "-c", "4294967297", "-p", "+9000 ", "--task_type", "word"] =
      .ok (some
        { tasks := 18446744073709551615
          clients := 1
          port := 9000
          ip := "127.0.0.1"
          taskType := .wordCount }) := by
  decide +kernel

/-! ## All programs -/

/-- Whatever the command line is, each program starts with arguments that are in its bounds only,
and it starts with each of these from its own command line.  So a worker has no more execution
threads than the limits of its network thread allow for. -/
theorem programs_start_within_bounds :
    worker.StartsWithin WorkerArguments.InBounds WorkerArguments.commandLine ∧
    router.StartsWithin RouterArguments.InBounds RouterArguments.commandLine ∧
    coordinator.StartsWithin CoordinatorArguments.InBounds CoordinatorArguments.commandLine ∧
    client.StartsWithin ClientArguments.InBounds ClientArguments.commandLine ∧
    top.StartsWithin TopArguments.InBounds TopArguments.commandLine ∧
    ∀ args arguments, worker.main args = .ok (some arguments) →
      arguments.workers ≠ 0 ∧
        Config.workerOutPerThreadCap * arguments.workers.toNat ≤ Config.workerOutBudget := by
  refine ⟨worker_startsWithin, router_startsWithin, coordinator_startsWithin, client_startsWithin,
    top_startsWithin, fun args arguments started => ?_⟩
  have workers := (worker_startsWithin.sound started).workers
  exact ⟨UInt64.pos_iff_ne_zero.mp workers.1,
    DrainedWorker.affordable_of_validateWorkers arguments.workers
      (validateCount_eq_ok.mpr workers)⟩

end CommandLine

end TaskCoordinator
