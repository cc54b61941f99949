import BuildOrder.Settings.Choice

/-!
# Colour

Whether log lines are coloured: always, never, or as the stream and the environment suggest.
-/

namespace BuildOrder

inductive Color where
  | auto
  | always
  | never
deriving DecidableEq

instance : Choice Color where
  spellings := [⟨.auto, "auto", []⟩, ⟨.always, "always", []⟩, ⟨.never, "never", []⟩]
  complaint := "invalid color intent"

/-- The colour is on, given whether it would be on if left to the stream. -/
def Color.isOn (suggested : Bool) : Color → Bool
  | .auto => suggested
  | .always => true
  | .never => false

end BuildOrder
