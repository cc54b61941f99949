import BuildOrder.Proofs.Settings.Resolution

/-!
# Layers of settings

Each setting is merged by itself, and in the same way: a value that is the default gives way. The default is therefore
neutral for every setting, whatever stands above or below it, and this is what makes brackets between layers
irrelevant. Of any number of layers, each setting has the last value that is not its default; `lastSet` says so
without merging anything.
-/

namespace BuildOrder.Settings

/-! ### One setting -/

section Prefer

variable {α : Type} [DecidableEq α] (d : α)

theorem default_prefer (lower : α) : prefer d d lower = lower := if_pos rfl

theorem prefer_self (a : α) : prefer d a a = a := ite_self a

theorem prefer_prefer (a b c : α) : prefer d c (prefer d b a) = prefer d (prefer d c b) a := by
  by_cases h : c = d
  · rw [h, default_prefer, default_prefer]
  · simp only [prefer, if_neg h]

/-- The last value that is not the default, or else the default. -/
def lastSet (values : List α) : α := (values.filter (· ≠ d)).getLast?.getD d

theorem lastSet_nil : lastSet d [] = d := rfl

theorem lastSet_singleton (a : α) : lastSet d [a] = a := by
  by_cases h : a = d <;> simp [lastSet, h]

theorem lastSet_append (below above : List α) :
    lastSet d (below ++ above) = prefer d (lastSet d above) (lastSet d below) := by
  rw [lastSet, List.filter_append, List.getLast?_append]
  cases h : (above.filter (· ≠ d)).getLast? with
  | none =>
    have habove : lastSet d above = d := by rw [lastSet, h, Option.getD_none]
    rw [habove, default_prefer, Option.none_or, lastSet]
  | some a =>
    have habove : lastSet d above = a := by rw [lastSet, h, Option.getD_some]
    have hset : a ≠ d := by
      have hmem := List.mem_filter.mp (List.mem_of_getLast? h)
      exact of_decide_eq_true hmem.2
    rw [habove, prefer, if_neg hset, Option.some_or, Option.getD_some]

end Prefer

/-! ### All settings -/

theorem merge_assoc (a b c : Settings) : (a.merge b).merge c = a.merge (b.merge c) := by
  simp only [merge, prefer_prefer]

theorem default_merge (a : Settings) : default.merge a = a := by
  simp only [merge, prefer_default]

theorem merge_default (a : Settings) : a.merge default = a := by
  simp only [merge, default_prefer]

theorem merge_self (a : Settings) : a.merge a = a := by
  simp only [merge, prefer_self]

inductive Layering where
  | none
  | layer (settings : Settings)
  | stack (lower upper : Layering)

namespace Layering

def layers : Layering → List Settings
  | none => []
  | layer s => [s]
  | stack lower upper => lower.layers ++ upper.layers

def merged : Layering → Settings
  | none => default
  | layer s => s
  | stack lower upper => lower.merged.merge upper.merged

/-- A setting that is merged by itself does not depend on the brackets. -/
theorem field_merged {α : Type} [DecidableEq α] {field : Settings → α}
    (hmerge : ∀ a b : Settings, field (a.merge b) = prefer (field default) (field b) (field a)) (l : Layering) :
    field l.merged = lastSet (field default) (l.layers.map field) := by
  induction l with
  | none => exact (lastSet_nil _).symm
  | layer s => exact (lastSet_singleton _ _).symm
  | stack lower upper ihl ihu => rw [merged, hmerge, ihl, ihu, layers, List.map_append, lastSet_append]

end Layering

/-- **Settings are a monoid under merging, with the default as its neutral element.** Merging is associative, the
default changes nothing on either side, and merging settings with themselves gives them back. So for all layers in
whatever brackets, each setting is that of the last layer where it differs from the default, and the default if there
is no such layer. -/
theorem merged_settings_last_set :
    ((∀ a b c : Settings, (a.merge b).merge c = a.merge (b.merge c)) ∧ (∀ a : Settings, default.merge a = a) ∧
        (∀ a : Settings, a.merge default = a) ∧ ∀ a : Settings, a.merge a = a) ∧
      ∀ l : Layering,
        l.merged.manifestKey = lastSet default.manifestKey (l.layers.map manifestKey) ∧
          l.merged.logLevel = lastSet default.logLevel (l.layers.map logLevel) ∧
          l.merged.logFormat = lastSet default.logFormat (l.layers.map logFormat) ∧
          l.merged.logStream = lastSet default.logStream (l.layers.map logStream) ∧
          l.merged.color = lastSet default.color (l.layers.map color) := by
  refine ⟨⟨merge_assoc, default_merge, merge_default, merge_self⟩, fun l => ?_⟩
  have hfield := @Layering.field_merged
  exact ⟨hfield (fun _ _ => rfl) l, hfield (fun _ _ => rfl) l, hfield (fun _ _ => rfl) l,
    hfield (fun _ _ => rfl) l, hfield (fun _ _ => rfl) l⟩

/-- A colour in the lowest layer shows through, and a key that is set again to the default does not come back. -/
example :
    let never : Settings := { default with color := .never }
    let libs : Settings := { default with manifestKey := "libs" }
    (Layering.stack (.stack (.layer never) (.layer libs)) (.stack .none (.layer default))).merged =
      { default with color := .never, manifestKey := "libs" } := by
  decide

end BuildOrder.Settings
