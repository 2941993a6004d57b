import Mathlib.Logic.Relation
import Mathlib.Data.List.Infix

/-!
# Serving a queue in rounds

A server works off a first-in first-out queue in rounds, while entries keep arriving.  It may
end a round when the round has served at least `least` entries, or when it finds the queue
empty.

The rule of this module bounds how long an entry waits: whatever the arrivals, all that was in
the queue at some moment has been served once enough rounds have ended.  A round that was under
way at that moment counts for nothing.
-/

universe u

namespace ServiceRounds

open Relation

/-- A queue with its server: what has been served so far, how many rounds have ended, and how
many entries the round under way has served. -/
structure State (α : Type u) where
  queue : List α
  served : List α
  rounds : Nat
  current : Option Nat

variable {α : Type u}

inductive Step (least : Nat) : State α → State α → Prop where
  | arrive {s : State α} (entry : α) : Step least s { s with queue := s.queue ++ [entry] }
  | start {s : State α} (idle : s.current = none) : Step least s { s with current := some 0 }
  | serve {s : State α} {count : Nat} {entry : α} {rest : List α}
      (serving : s.current = some count) (front : s.queue = entry :: rest) :
      Step least s
        { s with queue := rest, served := s.served ++ [entry], current := some (count + 1) }
  | finish {s : State α} {count : Nat} (serving : s.current = some count)
      (done : least ≤ count ∨ s.queue = []) :
      Step least s { s with rounds := s.rounds + 1, current := none }

/-- All entries that have arrived, in the order of their arrival. -/
def State.arrived (s : State α) : List α :=
  s.served ++ s.queue

/-- How far the server has come since the state `start`: it is still in the round that was
under way, or it has ended `full` rounds that began later. -/
structure Advanced (least : Nat) (start s : State α) : Prop where
  kept : start.arrived <+: s.arrived
  grown : start.served.length ≤ s.served.length
  reached : (s.rounds = start.rounds ∧ s.current.isSome) ∨
    ∃ full, s.rounds ≤ start.rounds + 1 + full ∧
      min start.arrived.length (start.served.length + least * full) + s.current.getD 0 ≤
        s.served.length

variable {least : Nat} {start s s' : State α}

theorem advanced_refl (least : Nat) (s : State α) : Advanced least s s where
  kept := List.prefix_rfl
  grown := Nat.le_refl _
  reached := by
    cases idle : s.current with
    | some count => exact .inl ⟨rfl, rfl⟩
    | none =>
        refine .inr ⟨0, by omega, ?_⟩
        simp only [Option.getD_none, Nat.mul_zero, Nat.add_zero]
        exact Nat.min_le_right _ _

/-- The end of a round that has served `count` entries. -/
theorem Advanced.finish {count : Nat} (advanced : Advanced least start s)
    (serving : s.current = some count) (done : least ≤ count ∨ s.queue = []) :
    Advanced least start { s with rounds := s.rounds + 1, current := none } where
  kept := advanced.kept
  grown := advanced.grown
  reached := by
    refine .inr ?_
    obtain ⟨same, _⟩ | ⟨full, ended, served⟩ := advanced.reached
    · refine ⟨0, ?_, ?_⟩
      · simp only
        omega
      · simp only [Nat.mul_zero, Nat.add_zero, Option.getD_none]
        exact (Nat.min_le_right _ _).trans advanced.grown
    · refine ⟨full + 1, ?_, ?_⟩
      · simp only
        omega
      · simp only [serving, Option.getD_some] at served
        simp only [Option.getD_none, Nat.add_zero]
        obtain enough | empty := done
        · have oneMore : least * (full + 1) = least * full + least := Nat.mul_succ least full
          omega
        · have all := advanced.kept.length_le
          simp only [State.arrived, empty, List.append_nil] at all ⊢
          omega

theorem Advanced.step (advanced : Advanced least start s) (step : Step least s s') :
    Advanced least start s' := by
  cases step with
  | arrive entry =>
      refine ⟨advanced.kept.trans ?_, advanced.grown, advanced.reached⟩
      simp only [State.arrived, ← List.append_assoc]
      exact List.prefix_append _ _
  | start idle =>
      refine ⟨advanced.kept, advanced.grown, ?_⟩
      obtain ⟨_, serving⟩ | reached := advanced.reached
      · rw [idle] at serving
        cases serving
      · simpa [idle] using Or.inr reached
  | serve serving front =>
      refine ⟨?_, ?_, ?_⟩
      · simpa [State.arrived, front] using advanced.kept
      · simp only [List.length_append, List.length_singleton]
        exact advanced.grown.trans (Nat.le_succ _)
      · obtain ⟨same, _⟩ | ⟨full, ended, served⟩ := advanced.reached
        · exact .inl ⟨same, rfl⟩
        · refine .inr ⟨full, ended, ?_⟩
          simp only [serving, Option.getD_some] at served
          simp only [Option.getD_some, List.length_append, List.length_singleton]
          omega
  | finish serving done => exact advanced.finish serving done

theorem advanced_of_steps (steps : ReflTransGen (Step least) start s) : Advanced least start s := by
  induction steps with
  | refl => exact advanced_refl least start
  | tail _ step ih => exact ih.step step

/-- What was in the queue has been served once enough rounds have ended. -/
theorem served_within {rounds : Nat} (steps : ReflTransGen (Step least) start s)
    (short : start.queue.length ≤ least * rounds)
    (ended : start.rounds + 1 + rounds ≤ s.rounds) : start.arrived <+: s.served := by
  have advanced := advanced_of_steps steps
  obtain ⟨same, _⟩ | ⟨full, ended', served⟩ := advanced.reached
  · omega
  · have enough : least * rounds ≤ least * full := Nat.mul_le_mul_left least (by omega)
    refine List.prefix_of_prefix_length_le advanced.kept (List.prefix_append _ _) ?_
    simp only [State.arrived, List.length_append] at served ⊢
    omega

end ServiceRounds
