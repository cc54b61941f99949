import BuildOrder.Proofs.Manifest.Sources
import BuildOrder.Proofs.Order.Hashed

/-!
# Every leaf is accounted for

A visit either keeps an item or drops it, so the leaves that have been visited are those kept and those dropped. An
item is dropped only because a kept one equals it, so something has been kept by then, and since nothing kept is ever
given up, the positions that are reported never go back. `Kept.Accounts` says this of a walk that is under way; it is
preserved by every visit, whatever the equality test is.

The counters of the events are read off the walk, while `Node.leafCountAll` counts the tree by itself. In the end
both agree.
-/

namespace BuildOrder

universe u

variable {α : Type u}

namespace Kept

/-- The account of a walk that has visited so many items. The positions stand newest first. -/
structure Accounts (k : Kept α) (visited : Nat) : Prop where
  total : k.skips.length + k.items.length = visited
  ordered : k.skips.Pairwise (· ≥ ·)
  placed : ∀ position ∈ k.skips, 1 ≤ position ∧ position ≤ k.items.length

variable {k : Kept α} {visited : Nat}

theorem accounts_empty : (empty : Kept α).Accounts 0 := ⟨rfl, .nil, List.forall_mem_nil _⟩

theorem Accounts.keep (h : k.Accounts visited) (b : α) : (k.keep b).Accounts (visited + 1) where
  total := by
    have htotal := h.total
    simp only [Kept.keep, List.length_cons]
    omega
  ordered := h.ordered
  placed position hposition := by
    obtain ⟨hone, hle⟩ := h.placed position hposition
    exact ⟨hone, Nat.le_succ_of_le hle⟩

/-- Something must have been kept when an item is dropped. -/
theorem Accounts.skip (h : k.Accounts visited) (hkept : k.items ≠ []) : k.skip.Accounts (visited + 1) where
  total := by
    have htotal := h.total
    simp only [Kept.skip, List.length_cons]
    omega
  ordered := by
    refine List.pairwise_cons.mpr ⟨fun position hposition => ?_, h.ordered⟩
    rw [k.size_eq]
    exact (h.placed position hposition).2
  placed := by
    refine List.forall_mem_cons.mpr ⟨?_, h.placed⟩
    rw [k.size_eq]
    exact ⟨List.length_pos_iff.mpr hkept, Nat.le_refl _⟩

variable [BEq α]

private theorem items_ne_nil_of_covers {b : α} (h : k.covers b = true) : k.items ≠ [] := by
  intro hnil
  rw [covers, hnil] at h
  cases h

theorem Accounts.visit (h : k.Accounts visited) (b : α) : (k.visit b).Accounts (visited + 1) := by
  rw [Kept.visit]
  split
  · next hcovers => exact h.skip (items_ne_nil_of_covers hcovers)
  · exact h.keep b

theorem accounts_foldr_visit (xs : List α) : (xs.foldr (fun b k => k.visit b) empty).Accounts xs.length := by
  induction xs with
  | nil => exact accounts_empty
  | cons b xs ih => exact ih.visit b

end Kept

theorem Node.accounts_walk [BEq α] (ns : List (Node α)) :
    (walk Kept.visit .empty ns).Accounts (leafCountAll ns) := by
  rw [walk_eq_foldr, ← length_leavesAll]
  exact Kept.accounts_foldr_visit (leavesAll ns)

/-! ### Events -/

namespace Event

def skipping (position : Nat) : Event :=
  ⟨.trace, .flatten, "Skipping duplicate item", [("position", .count position)]⟩

def summary (title : String) (unique duplicates : Nat) : Event :=
  ⟨.debug, .flatten, title, [("unique", .count unique), ("duplicates", .count duplicates)]⟩

/-- The sum of a command that flattens a manifest. -/
def flattened (leaves unique : Nat) : Event :=
  ⟨.info, .commands, "Flattened dependency manifest", [("leaves", .count leaves), ("unique", .count unique)]⟩

/-- The event is about an item that has been dropped. -/
def isSkip (e : Event) : Bool := e.source = .flatten ∧ e.message = "Skipping duplicate item"

theorem isSkip_eq_false_of_source {e : Event} (h : e.source ≠ .flatten) : e.isSkip = false :=
  decide_eq_false fun hskip => h hskip.1

end Event

/-- The log of a flattening accounts for so many leaves: there is an event for each leaf that is not in the result,
with positions that lie in the result and do not go back, and then a summary with both numbers. -/
def Logged.Accounts (r : Logged (List α)) (title : String) (leaves : Nat) : Prop :=
  ∃ positions : List Nat,
    r.events = positions.map Event.skipping ++ [Event.summary title r.value.length positions.length] ∧
      positions.length + r.value.length = leaves ∧
      positions.Pairwise (· ≤ ·) ∧
      ∀ position ∈ positions, 1 ≤ position ∧ position ≤ r.value.length

theorem Kept.Accounts.logged {k : Kept α} {visited : Nat} (h : k.Accounts visited) (title : String) :
    ((Flattened.ofKept k).logged title).Accounts title visited := by
  have hduplicates : (Flattened.ofKept k).duplicates = k.skips.reverse.length := (Flattened.ofKept k).duplicates_eq
  refine ⟨k.skips.reverse, ?_, ?_, List.pairwise_reverse.mpr h.ordered, fun position hposition => ?_⟩
  · rw [← hduplicates]
    rfl
  · rw [List.length_reverse]
    exact h.total
  · exact h.placed position (List.mem_reverse.mp hposition)

theorem Logged.Accounts.countP_isSkip {r : Logged (List α)} {title : String} {leaves : Nat}
    (h : r.Accounts title leaves) (htitle : title ≠ "Skipping duplicate item") :
    r.events.countP Event.isSkip + r.value.length = leaves := by
  obtain ⟨positions, hevents, htotal, -, -⟩ := h
  have hskips : (positions.map Event.skipping).countP Event.isSkip = (positions.map Event.skipping).length :=
    List.countP_eq_length.mpr fun e he => by
      obtain ⟨position, -, rfl⟩ := List.mem_map.mp he
      rfl
  have hsummary : (Event.summary title r.value.length positions.length).isSkip = false :=
    decide_eq_false fun hskip => htitle hskip.2
  rw [hevents, List.countP_append, hskips, List.countP_singleton, hsummary, List.length_map]
  exact htotal

theorem Node.accounts_flattenLogged [BEq α] (ns : List (Node α)) :
    (flattenLogged ns).Accounts "Flattened dependency sequence" (leafCountAll ns) :=
  (accounts_walk ns).logged _

/-! ### The command -/

namespace Manifest

variable {files : Files} {path key : String} {format : ManifestFormat} {format? : Option ManifestFormat}

theorem source_of_mem_events_parse {text : String} : ∀ e ∈ (parse format key text).events, e.source ≠ .flatten := by
  intro e he
  rw [parse] at he
  split at he
  · cases he
  · obtain rfl := List.mem_singleton.mp he
    exact Source.noConfusion

private theorem source_of_mem_events_ofStream {stream : ByteStream} :
    ∀ e ∈ (ofStream stream format key).events, e.source ≠ .flatten := by
  intro e he
  rw [ofStream] at he
  split at he
  · exact source_of_mem_events_parse e he
  · cases he

private theorem source_of_mem_events_load : ∀ e ∈ (load files path format? key).events, e.source ≠ .flatten := by
  rw [events_load]
  refine List.forall_mem_cons.mpr ⟨Source.noConfusion, ?_⟩
  intro e he
  split at he
  · cases he
  · split at he
    · cases he
    · exact source_of_mem_events_parse e he

end Manifest

namespace Invocation

variable {i : Invocation} {origin : Origin} {format? : Option ManifestFormat} {key : String}

private theorem source_of_mem_events_loadManifest :
    ∀ e ∈ (i.loadManifest origin format? key).events, e.source ≠ .flatten := by
  cases origin with
  | path path => exact Manifest.source_of_mem_events_load
  | standardInput => exact List.forall_mem_cons.mpr ⟨Source.noConfusion, Manifest.source_of_mem_events_ofStream⟩

theorem events_flatten {m : Manifest} (hload : (i.loadManifest origin format? key).value = .ok m) (emit : Emit)
    (sink : Sink) :
    (i.flatten origin format? emit key sink).events =
      (i.loadManifest origin format? key).events ++ m.flattenLogged.events
        ++ [Event.flattened m.leafCount m.flatten.length] := by
  have horder : m.flattenLogged.value = m.flatten := rfl
  rw [flatten]
  simp only [bind, Logged.bind, hload, horder]
  cases writeOrder sink m.flatten emit with
  | mk sink r => cases r <;> simp [pure, Logged.pure, Logged.report, Event.flattened]

end Invocation

/-- **Every leaf is kept or reported as dropped.** Whatever the equality test is, the log of flattening a nested
sequence has an event for each leaf that is not in the result; the positions in these events lie in the result and do
not go back, and the summary gives both numbers. For items that are hashed by their equality the same is true of
flattening with a hash set. So in the log of the command that flattens a manifest, the leaves that it reports less the
unique items are the events of dropped ones. -/
theorem Node.skips_accounted :
    (∀ (α : Type u) [BEq α] (ns : List (Node α)),
        (flattenLogged ns).value = flatten ns ∧
          (flattenLogged ns).Accounts "Flattened dependency sequence" (leafCountAll ns)) ∧
      (∀ (α : Type u) [BEq α] [Hashable α] [EquivBEq α] [LawfulHashable α] (ns : List (Node α)),
        (flattenHashedLogged ns).value = flattenHashed ns ∧
          (flattenHashedLogged ns).Accounts "Flattened dependency sequence (hashed)" (leafCountAll ns)) ∧
      ∀ (i : Invocation) (origin : Origin) (format? : Option ManifestFormat) (emit : Emit) (key : String) (sink : Sink)
          (m : Manifest),
        (i.loadManifest origin format? key).value = .ok m →
          (∃ before, (i.flatten origin format? emit key sink).events =
              before ++ [Event.flattened m.leafCount m.flatten.length]) ∧
            m.flatten.length ≤ m.leafCount ∧
            m.leafCount - m.flatten.length =
              (i.flatten origin format? emit key sink).events.countP Event.isSkip := by
  refine ⟨fun α _ ns => ⟨rfl, accounts_flattenLogged ns⟩, fun α _ _ _ _ ns => ⟨rfl, ?_⟩, ?_⟩
  · rw [flattenHashedLogged, flattenedHashed_eq_flattened]
    exact (accounts_walk ns).logged _
  · intro i origin format? emit key sink m hload
    have hevents := Invocation.events_flatten hload emit sink
    have hloading : (i.loadManifest origin format? key).events.countP Event.isSkip = 0 :=
      List.countP_eq_zero.mpr fun e he =>
        Bool.eq_false_iff.mp (Event.isSkip_eq_false_of_source (Invocation.source_of_mem_events_loadManifest e he))
    have hskips : m.flattenLogged.events.countP Event.isSkip + m.flatten.length = m.leafCount :=
      (accounts_flattenLogged m.nodes).countP_isSkip (by decide)
    have hlast : (Event.flattened m.leafCount m.flatten.length).isSkip = false :=
      Event.isSkip_eq_false_of_source Source.noConfusion
    refine ⟨⟨_, hevents⟩, ?_⟩
    rw [hevents, List.countP_append, List.countP_append, hloading, List.countP_singleton, hlast]
    simp only [Bool.false_eq_true, if_false]
    omega

/-- Numbers hashed by their value, and a run that is given strings: of `b, a, [a, b], b` three leaves are dropped. -/
theorem Node.skips_accounted_strings :
    let numbers : List (Node Nat) := [.item 2, .item 1, .seq [.item 1, .item 2], .item 2]
    let m : Manifest :=
      ⟨[.item (.str "b"), .item (.str "a"), .seq [.item (.str "a"), .item (.str "b")], .item (.str "b")], none⟩
    let text := String.ofList
      ((Value.arr [.str "b", .str "a", .arr [.str "a", .str "b"], .str "b"]).chars ++ ['\n'])
    let i : Invocation := ⟨[], .empty, .none, .gives text.toUTF8 .ends⟩
    ((flattenHashedLogged numbers).Accounts "Flattened dependency sequence (hashed)" 5 ∧
        flattenHashed numbers = [1, 2]) ∧
      (i.loadManifest .standardInput none "deps").value = .ok m ∧
        m.leafCount = 5 ∧ m.flatten = [.str "a", .str "b"] ∧
          3 = (i.flatten .standardInput none .lines "deps" (.empty none)).events.countP Event.isSkip := by
  intro numbers m text i
  have hparse : (Manifest.parse .json "deps" text).value = .ok m :=
    Manifest.parse_value_eq_ok
      (Manifest.nodesOfText_eq_ofDocument (ManifestFormat.read_json_written (by decide) (by decide) (by decide)))
  have hdrain : i.input.drain .empty = .ok text.toUTF8 := congrArg Except.ok ByteArray.empty_append
  have hload : (i.loadManifest .standardInput none "deps").value = .ok m :=
    (Invocation.loadManifest_standardInput hdrain).trans hparse
  have horder : m.flatten = [.str "a", .str "b"] := by
    rw [Manifest.flatten, Node.flatten_eq_pwFilter]
    rfl
  have hhashed : flattenHashed numbers = [1, 2] := by
    rw [flattenHashed, flattenedHashed_eq_flattened, ← flatten, flatten_eq_pwFilter]
    rfl
  obtain ⟨-, hset, hrun⟩ := skips_accounted.{0}
  obtain ⟨-, -, hdropped⟩ := hrun i .standardInput none .lines "deps" (.empty none) m hload
  rw [horder] at hdropped
  exact ⟨⟨(hset Nat numbers).2, hhashed⟩, hload, rfl, horder, hdropped⟩

end BuildOrder
