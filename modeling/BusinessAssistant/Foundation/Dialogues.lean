/-
# Dialogues of a program

A program converses with its surroundings: it makes a call, is answered by a reply or an
error, and goes on. A dialogue is one such conversation from the first call to the outcome
the program ends with. Nothing is assumed of the answers, so what holds of every dialogue
of a program holds whatever its calls do and whatever others do meanwhile.
-/

import BusinessAssistant.Foundation.Requests
import Mathlib.Data.Nat.Notation

namespace BusinessAssistant.Foundation

/-- A call and what it was answered. -/
abbrev Exchange (Call : Type) (Reply : Call → Type) (ε : Type) := (c : Call) × Except ε (Reply c)

namespace Program

variable {Call : Type} {Reply : Call → Type} {ε α β : Type}

/-- Answered as the exchanges say, the program ends with the outcome. -/
inductive Dialogue :
    Program Call Reply ε α → List (Exchange Call Reply ε) → Except ε α → Prop
  | done (outcome : Except ε α) : Dialogue (.done outcome) [] outcome
  | call {c : Call} {next : Except ε (Reply c) → Program Call Reply ε α}
      {trace : List (Exchange Call Reply ε)} {outcome : Except ε α} (reply : Except ε (Reply c))
      (hnext : Dialogue (next reply) trace outcome) :
      Dialogue (.call c next) (⟨c, reply⟩ :: trace) outcome

variable {trace : List (Exchange Call Reply ε)} {outcome : Except ε α}

@[simp]
theorem dialogue_done_iff {ended : Except ε α} :
    (Program.done ended : Program Call Reply ε α).Dialogue trace outcome ↔
      trace = [] ∧ outcome = ended := by
  constructor
  · intro h
    cases h
    exact ⟨rfl, rfl⟩
  · intro h
    rw [h.1, h.2]
    exact .done ended

@[simp]
theorem dialogue_pure_iff {value : α} :
    (pure value : Program Call Reply ε α).Dialogue trace outcome ↔
      trace = [] ∧ outcome = .ok value := dialogue_done_iff

@[simp]
theorem dialogue_raise_iff {error : ε} :
    (raise error : Program Call Reply ε α).Dialogue trace outcome ↔
      trace = [] ∧ outcome = .error error := dialogue_done_iff

@[simp]
theorem dialogue_lift_iff {computation : Except ε α} :
    (lift computation : Program Call Reply ε α).Dialogue trace outcome ↔
      trace = [] ∧ outcome = computation := dialogue_done_iff

@[simp]
theorem dialogue_call_iff {c : Call} {next : Except ε (Reply c) → Program Call Reply ε α} :
    (Program.call c next).Dialogue trace outcome ↔
      ∃ reply rest, trace = ⟨c, reply⟩ :: rest ∧ (next reply).Dialogue rest outcome := by
  constructor
  · intro h
    cases h with
    | call reply hnext => exact ⟨reply, _, rfl, hnext⟩
  · intro h
    obtain ⟨reply, rest, htrace, hnext⟩ := h
    rw [htrace]
    exact .call reply hnext

@[simp]
theorem dialogue_perform_iff {c : Call} {reply : Except ε (Reply c)} :
    (perform c : Program Call Reply ε (Reply c)).Dialogue trace reply ↔ trace = [⟨c, reply⟩] := by
  simp only [perform, dialogue_call_iff, dialogue_done_iff]
  constructor
  · intro h
    obtain ⟨answer, rest, htrace, hrest, hreply⟩ := h
    rw [htrace, hrest, hreply]
  · intro h
    exact ⟨reply, [], h, rfl, rfl⟩

/-- A sequence ends with what its second part ends with, or with the error of its first. -/
theorem dialogue_bind_iff {program : Program Call Reply ε α} {f : α → Program Call Reply ε β}
    {outcome : Except ε β} :
    (program >>= f).Dialogue trace outcome ↔
      (∃ value front back, trace = front ++ back ∧ program.Dialogue front (.ok value) ∧
        (f value).Dialogue back outcome) ∨
      ∃ error, outcome = .error error ∧ program.Dialogue trace (.error error) := by
  induction program generalizing trace with
  | done ended =>
      cases ended with
      | ok value =>
          show (f value).Dialogue trace outcome ↔ _
          simp
      | error error =>
          show (raise error : Program Call Reply ε β).Dialogue trace outcome ↔ _
          simp [and_comm]
  | call c next ih =>
      show (Program.call c fun reply => next reply >>= f).Dialogue trace outcome ↔ _
      simp only [dialogue_call_iff, ih]
      constructor
      · rintro ⟨reply, rest, rfl, ⟨value, front, back, rfl, hfront, hback⟩ | ⟨error, rfl, hrest⟩⟩
        · exact .inl ⟨value, ⟨c, reply⟩ :: front, back, rfl, ⟨reply, front, rfl, hfront⟩, hback⟩
        · exact .inr ⟨error, rfl, reply, rest, rfl, hrest⟩
      · rintro (⟨value, _, back, rfl, ⟨reply, front, rfl, hfront⟩, hback⟩ |
          ⟨error, rfl, reply, rest, rfl, hrest⟩)
        · exact ⟨reply, front ++ back, rfl, .inl ⟨value, front, back, rfl, hfront, hback⟩⟩
        · exact ⟨reply, rest, rfl, .inr ⟨error, rfl, hrest⟩⟩

/-- A program that is tried ends with its value, or with what the handler makes of its error. -/
theorem dialogue_catchError_iff {program : Program Call Reply ε α}
    {handle : ε → Program Call Reply ε α} :
    (program.catchError handle).Dialogue trace outcome ↔
      (∃ value, outcome = .ok value ∧ program.Dialogue trace (.ok value)) ∨
      ∃ error front back, trace = front ++ back ∧ program.Dialogue front (.error error) ∧
        (handle error).Dialogue back outcome := by
  induction program generalizing trace with
  | done ended =>
      cases ended with
      | ok value =>
          show (pure value : Program Call Reply ε α).Dialogue trace outcome ↔ _
          simp [and_comm]
      | error error =>
          show (handle error).Dialogue trace outcome ↔ _
          simp
  | call c next ih =>
      show (Program.call c fun reply => (next reply).catchError handle).Dialogue trace outcome ↔ _
      simp only [dialogue_call_iff, ih]
      constructor
      · rintro ⟨reply, rest, rfl, ⟨value, rfl, hrest⟩ | ⟨error, front, back, rfl, hfront, hback⟩⟩
        · exact .inl ⟨value, rfl, reply, rest, rfl, hrest⟩
        · exact .inr ⟨error, ⟨c, reply⟩ :: front, back, rfl, ⟨reply, front, rfl, hfront⟩, hback⟩
      · rintro (⟨value, rfl, reply, rest, rfl, hrest⟩ |
          ⟨error, _, back, rfl, ⟨reply, front, rfl, hfront⟩, hback⟩)
        · exact ⟨reply, rest, rfl, .inl ⟨value, rfl, hrest⟩⟩
        · exact ⟨reply, front ++ back, rfl, .inr ⟨error, front, back, rfl, hfront, hback⟩⟩

/-! ## What holds of every dialogue -/

/-- Every dialogue of the program is as `post` says. -/
def Always (post : List (Exchange Call Reply ε) → Except ε α → Prop)
    (program : Program Call Reply ε α) : Prop :=
  ∀ trace outcome, program.Dialogue trace outcome → post trace outcome

/-! ## Conducting a dialogue -/

/-- The dialogue with surroundings that answer the calls in turn, the next one as their
`turn`-th. -/
def converse (answer : ℕ → (c : Call) → Except ε (Reply c)) (turn : ℕ) :
    Program Call Reply ε α → List (Exchange Call Reply ε) × Except ε α
  | .done outcome => ([], outcome)
  | .call c next =>
      let rest := (next (answer turn c)).converse answer (turn + 1)
      (⟨c, answer turn c⟩ :: rest.1, rest.2)

theorem dialogue_converse (answer : ℕ → (c : Call) → Except ε (Reply c)) (turn : ℕ)
    (program : Program Call Reply ε α) :
    program.Dialogue (program.converse answer turn).1 (program.converse answer turn).2 := by
  induction program generalizing turn with
  | done outcome => exact .done outcome
  | call c next ih => exact .call (answer turn c) (ih (answer turn c) (turn + 1))

theorem converse_answers (answer : ℕ → (c : Call) → Except ε (Reply c)) (turn : ℕ)
    (program : Program Call Reply ε α) :
    ∀ exchange ∈ (program.converse answer turn).1,
      ∃ turn, exchange.2 = answer turn exchange.1 := by
  induction program generalizing turn with
  | done outcome => exact fun _ hmem => absurd hmem List.not_mem_nil
  | call c next ih =>
      intro exchange hmem
      rcases List.mem_cons.mp hmem with rfl | hmem
      · exact ⟨turn, rfl⟩
      · exact ih (answer turn c) (turn + 1) exchange hmem

end Program

end BusinessAssistant.Foundation
