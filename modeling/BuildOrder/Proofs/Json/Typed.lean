import BuildOrder.Proofs.Json.Tidy
import BuildOrder.Proofs.Json.Written
import BuildOrder.Proofs.Node.Coding

/-!
# Trees of typed items

Decoding tries every array as a sequence and then as an item. If no array is an item, the second attempt never
succeeds, so a tree comes out exactly if each of the values that are no arrays decodes, and its shape is that of the
arrays: `Node.map` says it without any trying, with the items still undecided.

A text is read like the value that it spells. The loop over elements stops at the first element that is refused, but
an element that is refused has been read, and so has everything before it. `elementsFrom_take` compares the loop that
takes all elements with the loop that takes some, from the same place on.
-/

namespace BuildOrder

universe u

namespace Node

variable {α : Type u} {item? : Value → Option α}

theorem decodeAll?_cons (v : Value) (vs : List Value) :
    decodeAll? item? (v :: vs) = (decode? item? v).bind fun n => (decodeAll? item? vs).map (n :: ·) := by
  rw [decodeAll?]
  cases decode? item? v <;> cases decodeAll? item? vs <;> rfl

theorem decodeAll?_eq_mapM (vs : List Value) : decodeAll? item? vs = vs.mapM (decode? item?) := by
  induction vs with
  | nil => rfl
  | cons v vs ih =>
    rw [decodeAll?_cons, List.mapM_cons, ih]
    cases decode? item? v <;> cases vs.mapM (decode? item?) <;> rfl

/-! ### Decoders that refuse arrays -/

theorem decode?_arr (hrefuse : ∀ vs, item? (.arr vs) = none) (vs : List Value) :
    decode? item? (.arr vs) = (decodeAll? item? vs).map .seq := by
  rw [decode?, hrefuse]
  cases decodeAll? item? vs <;> rfl

mutual

theorem decode?_eq_some_iff (hrefuse : ∀ vs, item? (.arr vs) = none) : ∀ {v : Value} {n : Node α},
    decode? item? v = some n ↔ (ofValue v).map item? = n.map some
  | .arr vs, .seq ns => by
    rw [decode?_arr hrefuse, ofValue, map, map, seq.injEq, ← decodeAll?_eq_some_iff hrefuse, Option.map_eq_some_iff]
    simp
  | .arr vs, .item a => by
    rw [decode?_arr hrefuse, ofValue, map, map]
    simp
  | .null, n | .bool _, n | .num _, n | .str _, n | .obj _, n => by
    rw [decode?_of_isArray_eq_false rfl, ofValue_of_isArray_eq_false rfl, map]
    cases n <;> simp [map]

/-- The trees of elements have the shape of the elements, and an item for every element that is no array. -/
theorem decodeAll?_eq_some_iff (hrefuse : ∀ vs, item? (.arr vs) = none) : ∀ {vs : List Value} {ns : List (Node α)},
    decodeAll? item? vs = some ns ↔ mapAll item? (ofValues vs) = mapAll some ns
  | [], [] => by simp [decodeAll?, ofValues]
  | [], n :: ns => by simp [decodeAll?, ofValues]
  | v :: vs, [] => by
    rw [decodeAll?_cons, ofValues, mapAll, mapAll]
    cases decode? item? v <;> cases decodeAll? item? vs <;> simp
  | v :: vs, n :: ns => by
    rw [decodeAll?_cons, ofValues, mapAll, mapAll, List.cons.injEq, ← decode?_eq_some_iff hrefuse,
      ← decodeAll?_eq_some_iff hrefuse]
    cases decode? item? v <;> cases decodeAll? item? vs <;> simp

end

mutual

theorem decode?_eq_none_iff (hrefuse : ∀ vs, item? (.arr vs) = none) : ∀ {v : Value},
    decode? item? v = none ↔ ∃ w ∈ (ofValue v).leaves, item? w = none
  | .arr vs => by rw [decode?_arr hrefuse, Option.map_eq_none_iff, decodeAll?_eq_none_iff hrefuse, ofValue, leaves]
  | .null | .bool _ | .num _ | .str _ | .obj _ => by
    rw [decode?_of_isArray_eq_false rfl, ofValue_of_isArray_eq_false rfl, leaves, Option.map_eq_none_iff]
    simp

theorem decodeAll?_eq_none_iff (hrefuse : ∀ vs, item? (.arr vs) = none) : ∀ {vs : List Value},
    decodeAll? item? vs = none ↔ ∃ w ∈ leavesAll (ofValues vs), item? w = none
  | [] => by simp [decodeAll?, ofValues]
  | v :: vs => by
    rw [decodeAll?_cons, ofValues, leavesAll]
    simp only [List.mem_append, or_and_right, exists_or, ← decode?_eq_none_iff hrefuse,
      ← decodeAll?_eq_none_iff hrefuse]
    cases decode? item? v <;> cases decodeAll? item? vs <;> simp

end

end Node

namespace Json

/-! ### Texts -/

/-- What the trees of elements come to, if there are any. -/
def found {β : Type} : Option β → Except Cause β
  | some b => .ok b
  | none => .error .noMatchingVariant

private theorem exists_found_eq_ok_iff {β : Type} {o : Option β} : (∃ b, found o = .ok b) ↔ o ≠ none := by
  cases o <;> simp [found]

section Elements

variable {α β : Type} {one : Reader α} {n : Nat} {s : List Char}

private theorem elementsFrom_refused {take? : α → Option β} {a : α} {rest : Rest s.length} (h : s.length < n)
    (acc : List β) (hone : one s = .ok (a, rest)) (htake : take? a = none) :
    (elementsFrom one take? s h acc).mapError Text.Fault.cause = .error .noMatchingVariant := by
  rw [elementsFrom, hone]
  dsimp only
  rw [htake]
  rfl

/-- Elements that have all been read are read again where only some are taken, and the first that is refused ends it. -/
private theorem elementsFrom_take {h : s.length < n} {acc vs : List α} {rest : Rest n}
    (hread : elementsFrom one some s h acc = .ok (vs, rest)) (take? : α → Option β) :
    ∃ ws, vs = acc.reverse ++ ws ∧ ∀ acc' : List β,
      (elementsFrom one take? s h acc').mapError Text.Fault.cause =
        found ((ws.mapM take?).map fun bs => (acc'.reverse ++ bs, rest)) := by
  fun_induction elementsFrom one some s h acc with
  | case4 s h acc a rest' hone b htake r hskip =>
    obtain rfl := Option.some.inj htake
    obtain ⟨rfl, rfl⟩ := Prod.mk.inj (Except.ok.inj hread)
    refine ⟨[a], List.reverse_cons, fun acc' => ?_⟩
    cases hb : take? a with
    | none =>
      rw [elementsFrom_refused h acc' hone hb]
      simp [hb, found]
    | some b =>
      obtain ⟨hr, hlast⟩ := elementsFrom_closing h acc' hone hb hskip
      rw [hlast]
      simp [hb, found, Except.mapError]
  | case7 s h acc a rest' hone b htake r c t hnext hclosing hskip _ _ _ ih =>
    obtain rfl := Option.some.inj htake
    obtain ⟨ws, rfl, hrest⟩ := ih hread
    refine ⟨a :: ws, by simp, fun acc' => ?_⟩
    cases hb : take? a with
    | none =>
      rw [elementsFrom_refused h acc' hone hb]
      simp [hb, found]
    | some b =>
      obtain ⟨ht, hmore⟩ := elementsFrom_comma h acc' hone hb hskip hnext hclosing
      rw [hmore, hrest (b :: acc')]
      cases hws : ws.mapM take? <;> simp [hb, hws]
  | case1 | case2 | case3 | case5 | case6 | case8 => cases hread

private theorem elements_take {vs : List α} {rest : Rest (s.length + 1)} (hread : elements one some s = .ok (vs, rest))
    (take? : α → Option β) :
    (elements one take? s).mapError Text.Fault.cause = found ((vs.mapM take?).map fun bs => (bs, rest)) := by
  rw [elements] at hread ⊢
  split at hread
  · cases hread
  · next c r hskip =>
    split at hread
    · next hclosing =>
      obtain ⟨rfl, rfl⟩ := Prod.mk.inj (Except.ok.inj hread)
      rw [if_pos hclosing]
      rfl
    · next hclosing =>
      obtain ⟨ws, rfl, htake⟩ := elementsFrom_take hread take?
      rw [if_neg hclosing]
      exact htake []

end Elements

private theorem mapError_later {α β : Type} {m n : Nat} (f : α → β) (h : m ≤ n) (r : Except Fault (α × Rest m)) :
    (later f h r).mapError Text.Fault.cause =
      (r.mapError Text.Fault.cause).map fun p => (f p.1, p.2.widen h) := by
  cases r <;> rfl

section Nodes

variable {α : Type} {item? : Value → Option α} {s : List Char} {v : Value}

/-- The trees of the elements of a value, or why it has none. -/
def nodesOfValue (item? : Value → Option α) : Value → Except Cause (List (Node α))
  | .arr vs => found (Node.decodeAll? item? vs)
  | v => .error (.invalidType (.ofValue v) .sequence)

theorem nodesOfValue_of_isScalar (h : v.IsScalar) :
    nodesOfValue item? v = .error (.invalidType (.ofValue v) .sequence) := by
  cases v with
  | arr vs => exact h.elim
  | null | bool | num | str | obj => rfl

theorem readNodes_of_readValue {rest : Rest s.length} (hread : readValue depthLimit s = .ok (v, rest)) :
    (readNodes item? s).mapError Text.Fault.cause = (nodesOfValue item? v).map fun ns => (ns, rest) := by
  rw [depthLimit, readValue] at hread
  rw [readNodes]
  split at hread
  · cases hread
  · next c r hskip =>
    dsimp only at hread ⊢
    split at hread
    · next harray =>
      obtain ⟨vs, rest', hvs, rfl⟩ := exists_of_later_eq_ok hread
      have hrest : rest = rest'.widen (lt_of_skipBlank hskip) := by
        rw [hvs] at hread
        exact (Prod.mk.inj (Except.ok.inj hread)).2.symm
      have htake := elements_take hvs (Node.decode? item?)
      rw [← Node.decodeAll?_eq_mapM] at htake
      rw [if_pos harray, mapError_later, hrest, nodesOfValue]
      change ((elements (readValue 126) (Node.decode? item?) r).mapError Text.Fault.cause).map _ = _
      rw [htake]
      cases Node.decodeAll? item? vs <;> rfl
    · next harray =>
      rw [if_neg harray, refuse, if_neg harray]
      split at hread
      · next hobject =>
        obtain ⟨fs, rest', hfs, rfl⟩ := exists_of_later_eq_ok hread
        rw [if_pos hobject]
        rfl
      · next hobject =>
        obtain ⟨w, rest', hw, rfl⟩ := exists_of_later_eq_ok hread
        rw [if_neg hobject, hw, id, nodesOfValue_of_isScalar (isScalar_of_readScalar hw)]
        rfl

/-- What one reader makes of all of a text, if another one leaves the same behind there. -/
private theorem mapError_readAll {β γ : Type} {one : Reader β} {two : Reader γ} {text : List Char} {b : β}
    {result : Except Cause γ} (hread : readAll one text = .ok b)
    (h : ∀ rest, one text = .ok (b, rest) → (two text).mapError Text.Fault.cause = result.map fun c => (c, rest)) :
    (readAll two text).mapError Text.Located.cause = result := by
  rw [readAll] at hread
  split at hread
  · cases hread
  · next b' rest hone =>
    rw [expectEnd] at hread
    cases hend : skipBlank rest.1 with
    | cons d r =>
      rw [hend] at hread
      cases hread
    | nil =>
      rw [hend] at hread
      obtain rfl := Except.ok.inj hread
      have htwo := h rest hone
      rw [readAll]
      cases hresult : two text with
      | error f =>
        rw [hresult] at htwo
        cases result with
        | error e => exact congrArg Except.error (Except.error.inj htwo)
        | ok c => cases htwo
      | ok p =>
        rw [hresult] at htwo
        cases result with
        | error e => cases htwo
        | ok c =>
          obtain rfl := Except.ok.inj htwo
          dsimp only
          rw [expectEnd, hend]
          rfl

theorem parseNodes_of_parse {text : String} (hread : parse text = .ok v) :
    (parseNodes item? text).mapError Text.Located.cause = nodesOfValue item? v :=
  mapError_readAll hread fun _ => readNodes_of_readValue

theorem nodesOfValue_eq_ok_iff (hrefuse : ∀ vs, item? (.arr vs) = none) {ns : List (Node α)} :
    nodesOfValue item? v = .ok ns ↔
      ∃ vs, v = .arr vs ∧ Node.mapAll item? (Node.ofValues vs) = Node.mapAll some ns := by
  cases v with
  | arr vs =>
    simp only [Value.arr.injEq, exists_eq_left', ← Node.decodeAll?_eq_some_iff hrefuse]
    rw [nodesOfValue]
    cases Node.decodeAll? item? vs <;> simp [found]
  | null | bool | num | str | obj => simp [nodesOfValue]

theorem nodesOfValue_arr_of_none (hrefuse : ∀ vs, item? (.arr vs) = none) {vs : List Value}
    (h : ∃ w ∈ Node.leavesAll (Node.ofValues vs), item? w = none) :
    nodesOfValue item? (.arr vs) = .error .noMatchingVariant := by
  rw [nodesOfValue, (Node.decodeAll?_eq_none_iff hrefuse).mpr h, found]

theorem exists_nodesOfValue_iff (hrefuse : ∀ vs, item? (.arr vs) = none) :
    (∃ ns, nodesOfValue item? v = .ok ns) ↔
      ∃ vs, v = .arr vs ∧ ∀ w ∈ Node.leavesAll (Node.ofValues vs), ∃ a, item? w = some a := by
  cases v with
  | arr vs =>
    simp only [Value.arr.injEq, exists_eq_left', ← Option.ne_none_iff_exists']
    rw [nodesOfValue, exists_found_eq_ok_iff, ne_eq, Node.decodeAll?_eq_none_iff hrefuse, not_exists]
    simp only [not_and]
  | null | bool | num | str | obj => simp [nodesOfValue]

end Nodes

/-- **Typed trees are had from the well-typed values, and from no others.** The items of each type refuse arrays. If
items do, a value has trees exactly if it is an array and every value in it decodes that is no array and stands in
arrays only; the trees then have a sequence for each array in it and the decoded item for each such value. An array
with one value that does not decode is refused as no tree, wherever that value stands. A text that spells the value
has the same trees, or none for the same cause. -/
theorem typed_trees :
    (∀ vs : List Value,
        Value.string? (.arr vs) = none ∧ Value.int64? (.arr vs) = none ∧ Value.byte? (.arr vs) = none ∧
          Value.char? (.arr vs) = none ∧ Value.bool? (.arr vs) = none ∧ Value.optionalString? (.arr vs) = none ∧
          Value.unit? (.arr vs) = none ∧ Value.float? (.arr vs) = none) ∧
      ∀ {α : Type} (item? : Value → Option α), (∀ vs, item? (.arr vs) = none) → ∀ v : Value,
        ((∃ ns, nodesOfValue item? v = .ok ns) ↔
            ∃ vs, v = .arr vs ∧ ∀ w ∈ Node.leavesAll (Node.ofValues vs), ∃ a, item? w = some a) ∧
          (∀ ns, nodesOfValue item? v = .ok ns ↔
            ∃ vs, v = .arr vs ∧ Node.mapAll item? (Node.ofValues vs) = Node.mapAll some ns) ∧
          (∀ vs, v = .arr vs → (∃ w ∈ Node.leavesAll (Node.ofValues vs), item? w = none) →
            nodesOfValue item? v = .error .noMatchingVariant) ∧
          Cause.noMatchingVariant.text = "data did not match any variant of untagged enum DepNode" ∧
          ∀ text, parse text = .ok v →
            (parseNodes item? text).mapError Text.Located.cause = nodesOfValue item? v := by
  refine ⟨fun vs => ⟨rfl, rfl, rfl, rfl, rfl, rfl, rfl, rfl⟩, fun item? hrefuse v => ?_⟩
  refine ⟨exists_nodesOfValue_iff hrefuse, fun ns => nodesOfValue_eq_ok_iff hrefuse, ?_, rfl,
    fun text => parseNodes_of_parse⟩
  rintro vs rfl hbad
  exact nodesOfValue_arr_of_none hrefuse hbad

/-- Bytes in sequences, one of them empty, and the same with a number too large, two levels down. -/
theorem typed_trees_bytes :
    let seven : Value := .num (.int ⟨7, by decide, by decide⟩)
    let most : Value := .num (.int ⟨255, by decide, by decide⟩)
    let more : Value := .num (.int ⟨256, by decide, by decide⟩)
    let good : Value := .arr [seven, .arr [], .arr [.arr [most]]]
    let bad : Value := .arr [seven, .arr [], .arr [.arr [more], seven]]
    let text (v : Value) := String.ofList (v.chars ++ ['\n'])
    (∀ vs, Value.byte? (.arr vs) = none) ∧
      (parse (text good) = .ok good ∧ (parseNodes Value.byte? (text good)).mapError Text.Located.cause =
        .ok [.item 7, .seq [], .seq [.seq [.item 255]]]) ∧
      parse (text bad) = .ok bad ∧ Value.byte? more = none ∧
        (parseNodes Value.byte? (text bad)).mapError Text.Located.cause = .error .noMatchingVariant := by
  intro seven most more good bad text
  have hrefuse : ∀ vs, Value.byte? (.arr vs) = none := fun _ => rfl
  have hgood : parse (text good) = .ok good := parse_written (by decide) (by decide) (by decide)
  have hbad : parse (text bad) = .ok bad := parse_written (by decide) (by decide) (by decide)
  obtain ⟨-, hshape, -, -, htext⟩ := typed_trees.2 Value.byte? hrefuse good
  obtain ⟨-, -, hrefused, -, htext'⟩ := typed_trees.2 Value.byte? hrefuse bad
  refine ⟨hrefuse, ⟨hgood, (htext _ hgood).trans ((hshape _).mpr ⟨_, rfl, ?_⟩)⟩, hbad, by decide, ?_⟩
  · have hseven : Value.byte? seven = some 7 := by decide
    have hmost : Value.byte? most = some 255 := by decide
    simp only [Node.ofValues, Node.mapAll, Node.map, seven, most, Node.ofValue, hseven, hmost]
  · have hmem : more ∈ [seven, more, seven] := List.mem_cons_of_mem _ (List.mem_cons_self ..)
    exact (htext' _ hbad).trans (hrefused _ rfl ⟨more, hmem, by decide⟩)

end Json

end BuildOrder
