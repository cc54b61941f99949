/-!
# Loops over a text

A loop goes on while its turns make something smaller, such as the text that is left. A turn that goes on without
doing so is refused, so every loop ends.
-/

namespace BuildOrder

/-- What a turn of a loop does: it goes on with a new state, or it has the result. -/
inductive Turn (σ ρ : Type) where
  | again (s : σ)
  | done (r : ρ)

/-- Take turns until one has the result. -/
def repeatTurns {σ ρ ε : Type} (size : σ → Nat) (stuck : σ → ε) (turn : σ → Except ε (Turn σ ρ)) (s : σ) :
    Except ε ρ :=
  match turn s with
  | .error e => .error e
  | .ok (.done r) => .ok r
  | .ok (.again t) => if size t < size s then repeatTurns size stuck turn t else .error (stuck s)
termination_by size s

end BuildOrder
