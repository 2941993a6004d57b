import TaskCoordinator.Library.Transition

/-!
# Loops over options

A program reads its arguments from the left: each is the name of an option, and the argument
after it is the value of that option.  The value is checked and stored in the settings at once.
A word for help ends the loop, and so does the first fault.

The rules of this module say what the loop makes of a sequence of options, and what holds of the
settings that it returns.
-/

universe u v w

namespace OptionLoop

variable {ω : Type u} {σ : Type v} {φ : Type w}

/-- An option with its names, and what the loop does about one of them and a value. -/
structure Entry (ω : Type u) (σ : Type v) (φ : Type w) where
  names : List ω
  store : ω → ω → σ → Except φ σ

/-- Whatever the option stores keeps a property of the settings. -/
def Entry.Keeps (entry : Entry ω σ φ) (holds : σ → Prop) : Prop :=
  ∀ name value settings settings', holds settings →
    entry.store name value settings = .ok settings' → holds settings'

/-- The options of a program and the faults of its loop. -/
structure Grammar (ω : Type u) (σ : Type v) (φ : Type w) where
  help : List ω
  entries : List (Entry ω σ φ)
  unknown : ω → φ
  missing : ω → φ

variable [DecidableEq ω]

/-- The option of that name. -/
def Grammar.lookup (grammar : Grammar ω σ φ) (name : ω) : Option (Entry ω σ φ) :=
  grammar.entries.find? (name ∈ ·.names)

/-- The loop.  It returns no settings when it comes upon a word for help. -/
def parse (grammar : Grammar ω σ φ) (settings : σ) : List ω → Except φ (Option σ)
  | [] => .ok (some settings)
  | [name] =>
      if name ∈ grammar.help then
        .ok none
      else
        match grammar.lookup name with
        | some _ => .error (grammar.missing name)
        | none => .error (grammar.unknown name)
  | name :: value :: rest =>
      if name ∈ grammar.help then
        .ok none
      else
        match grammar.lookup name with
        | some entry => do
            let settings ← entry.store name value settings
            parse grammar settings rest
        | none => .error (grammar.unknown name)

variable {grammar : Grammar ω σ φ} {settings settings' : σ}

/-- The name and the value are read as `entry`, which leads from `settings` to `settings'`. -/
structure Reads (grammar : Grammar ω σ φ) (settings : σ) (name value : ω) (settings' : σ) :
    Prop where
  noHelp : name ∉ grammar.help
  stored : ∃ entry, grammar.lookup name = some entry ∧
    entry.store name value settings = .ok settings'

theorem parse_reads {name value : ω} (reads : Reads grammar settings name value settings')
    (rest : List ω) :
    parse grammar settings (name :: value :: rest) = parse grammar settings' rest := by
  obtain ⟨noHelp, entry, found, stored⟩ := reads
  rw [parse, if_neg noHelp, found]
  simp only [stored]
  rfl

/-- A sequence of options is read one after another. -/
theorem parse_flatMap {β : Type*} (store : σ → β → σ) (render : β → ω × ω) {items : List β}
    (reads : ∀ item ∈ items, ∀ settings,
      Reads grammar settings (render item).1 (render item).2 (store settings item))
    (settings : σ) (rest : List ω) :
    parse grammar settings (items.flatMap (fun item => [(render item).1, (render item).2]) ++ rest)
      = parse grammar (items.foldl store settings) rest := by
  induction items generalizing settings with
  | nil => rfl
  | cons item items ih =>
      have first := reads item List.mem_cons_self settings
      have others := ih (fun other member => reads other (List.mem_cons_of_mem item member))
        (store settings item)
      simp only [List.flatMap_cons, List.cons_append, List.nil_append, List.foldl_cons]
      rw [parse_reads first, others]

/-- What every option keeps holds of the settings that the loop returns. -/
theorem parse_keeps {holds : σ → Prop}
    (kept : ∀ entry ∈ grammar.entries, entry.Keeps holds)
    (args : List ω) (start : holds settings)
    (parsed : parse grammar settings args = .ok (some settings')) : holds settings' := by
  fun_induction parse grammar settings args with
  | case1 settings =>
      cases parsed
      exact start
  | case6 settings name value rest noHelp entry found ih =>
      obtain ⟨next, stored, later⟩ := Transition.bind_eq_ok.mp parsed
      have member : entry ∈ grammar.entries := List.mem_of_find?_eq_some found
      exact ih next (kept entry member name value settings next start stored) later
  | _ => cases parsed

end OptionLoop
