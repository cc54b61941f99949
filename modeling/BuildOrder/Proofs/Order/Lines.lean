import BuildOrder.Order.Emit
import BuildOrder.Proofs.Json.WrittenScalar

/-!
# An order as lines

A line feed ends a line, so the lines can be told from the text as long as no line holds one. The text of a value
never does: nothing below the blank is ever written, whatever strings and keys the value has inside. Only a string
that is an item by itself is written as it is, and it alone may break a line in two.
-/

namespace BuildOrder

/-! ### The text of a value -/

/-- No character of a text stands below the blank. -/
def NoControl (cs : List Char) : Prop := ∀ c ∈ cs, 0x20 ≤ c.toNat

@[simp] theorem noControl_nil : NoControl [] := List.forall_mem_nil _

@[simp] theorem noControl_cons {c : Char} {cs : List Char} :
    NoControl (c :: cs) ↔ 0x20 ≤ c.toNat ∧ NoControl cs := List.forall_mem_cons

@[simp] theorem noControl_append {cs ds : List Char} : NoControl (cs ++ ds) ↔ NoControl cs ∧ NoControl ds :=
  List.forall_mem_append

theorem NoControl.subset {cs ds : List Char} (h : NoControl ds) (hsub : cs ⊆ ds) : NoControl cs :=
  fun c hc => h c (hsub hc)

theorem NoControl.newline_notMem {cs : List Char} (h : NoControl cs) : '\n' ∉ cs := by
  intro hmem
  have hle := h _ hmem
  revert hle
  decide

namespace Value

theorem noControl_digits (n : Nat) : NoControl (digits n) := by
  intro c hc
  have hdigit := Json.isDigit_of_mem_digits hc
  rw [Char.isDigit, Bool.and_eq_true, decide_eq_true_eq, decide_eq_true_eq] at hdigit
  exact Nat.le_trans (by decide) (UInt32.le_iff_toNat_le.mp hdigit.1)

theorem noControl_intText (i : Int) : NoControl (intText i) := by
  rw [intText]
  split
  · exact noControl_cons.mpr ⟨by decide, noControl_digits _⟩
  · exact noControl_digits _

private theorem noControl_zeros (n : Nat) : NoControl (List.replicate n '0') := by
  intro c hc
  rw [List.eq_of_mem_replicate hc]
  decide

theorem noControl_decimalText (d : Decimal) : NoControl (decimalText d) := by
  have hdigits := noControl_digits d.digits
  rw [decimalText]
  dsimp only
  split
  · have hsign : ∀ e : Int, 0x20 ≤ (if e < 0 then '-' else '+').toNat := by
      intro e
      split <;> decide
    refine noControl_append.mpr
      ⟨?_, noControl_cons.mpr ⟨by decide, noControl_cons.mpr ⟨hsign _, noControl_digits _⟩⟩⟩
    split
    · next hds => exact hds ▸ hdigits
    · next hds =>
      rw [hds] at hdigits
      simpa using hdigits
    · exact noControl_nil
  · split
    · simp [hdigits, noControl_zeros]
    · split
      · simp [hdigits, noControl_zeros]
      · have htake (n : Nat) : NoControl ((digits d.digits).take n) := hdigits.subset (List.take_subset n _)
        have hdrop (n : Nat) : NoControl ((digits d.digits).drop n) := hdigits.subset (List.drop_subset n _)
        simp [htake, hdrop]

theorem noControl_numberChars (n : Number) : NoControl (numberChars n) := by
  cases n with
  | int i => exact noControl_intText i.val
  | float x =>
    have hbody : NoControl (if x.rank = 0 then ['0', '.', '0'] else decimalText (shortestDecimal x.rank)) := by
      split
      · simp
      · exact noControl_decimalText _
    rw [numberChars, floatChars]
    split
    · exact noControl_cons.mpr ⟨by decide, hbody⟩
    · exact hbody

private theorem le_toNat_hexDigit : ∀ n < 16, 0x20 ≤ (hexDigit n).toNat := by decide

private theorem le_toNat_of_escapeLetter? {letter c : Char} (h : Json.escapeLetter? letter = some c) :
    0x20 ≤ letter.toNat := by
  rw [Json.escapeLetter?] at h
  split_ifs at h with hletter hletter hletter hletter hletter hletter hletter hletter <;>
  · rw [hletter]
    decide

theorem noControl_escaped (c : Char) : NoControl (escaped c) := by
  obtain ⟨hwritten, -, -, hcontrol⟩ | ⟨letter, hwritten, hletter⟩ | ⟨hwritten, hcontrol⟩ := Json.escaped_cases c
  · rw [hwritten]
    exact noControl_cons.mpr ⟨Nat.le_of_not_lt hcontrol, noControl_nil⟩
  · rw [hwritten]
    simp [le_toNat_of_escapeLetter? hletter]
  · rw [hwritten]
    have hhigh := le_toNat_hexDigit (c.toNat / 16) (by omega)
    have hlow := le_toNat_hexDigit (c.toNat % 16) (by omega)
    simp [hhigh, hlow]

theorem noControl_quoted (s : String) : NoControl (quoted s) := by
  have hinside : NoControl (s.toList.flatMap escaped) := by
    intro d hd
    obtain ⟨c, -, hc⟩ := List.mem_flatMap.mp hd
    exact noControl_escaped c d hc
  simp [quoted, hinside]

mutual

/-- Nothing below the blank is written, at whatever depth it stands. -/
theorem noControl_chars : ∀ v : Value, NoControl v.chars
  | .null | .bool true | .bool false | .arr [] | .obj [] => by simp [chars]
  | .num n => noControl_numberChars n
  | .str s => noControl_quoted s
  | .arr (v :: vs) => by simp [chars, noControl_chars v, noControl_moreElements vs]
  | .obj ((k, v) :: fs) => by simp [chars, noControl_quoted k, noControl_chars v, noControl_moreFields fs]

theorem noControl_moreElements : ∀ vs : List Value, NoControl (moreElements vs)
  | [] => by simp [moreElements]
  | v :: vs => by simp [moreElements, noControl_chars v, noControl_moreElements vs]

theorem noControl_moreFields : ∀ fs : List (String × Value), NoControl (moreFields fs)
  | [] => by simp [moreFields]
  | (k, v) :: fs => by simp [moreFields, noControl_quoted k, noControl_chars v, noControl_moreFields fs]

end

end Value

/-! ### Lines and their text -/

private theorem length_le_count_newline (lines : List (List Char)) :
    lines.length ≤ (lines.flatMap fun l => l ++ ['\n']).count '\n' := by
  induction lines with
  | nil => exact Nat.zero_le _
  | cons l ls ih =>
    simp only [List.flatMap_cons, List.count_append, List.count_singleton_self, List.length_cons]
    omega

theorem count_newline_eq_length_iff {lines : List (List Char)} :
    (lines.flatMap fun l => l ++ ['\n']).count '\n' = lines.length ↔ ∀ l ∈ lines, '\n' ∉ l := by
  induction lines with
  | nil => simp
  | cons l ls ih =>
    -- The lines behind have their own line feeds at least, so one inside this line has no place in the sum.
    have hbehind := length_le_count_newline ls
    rw [List.forall_mem_cons, ← ih, ← List.count_eq_zero]
    simp only [List.flatMap_cons, List.count_append, List.count_singleton_self, List.length_cons]
    omega

theorem splitOn_newline_flatMap {lines : List (List Char)} (h : ∀ l ∈ lines, '\n' ∉ l) :
    (lines.flatMap fun l => l ++ ['\n']).splitOn '\n' = lines ++ [[]] := by
  induction lines with
  | nil => rw [List.flatMap_nil, List.splitOn_nil, List.nil_append]
  | cons l ls ih =>
    rw [List.forall_mem_cons] at h
    rw [List.flatMap_cons, List.append_assoc, List.singleton_append, List.splitOn_append_cons_self_of_not_mem h.1,
      ih h.2, List.cons_append]

/-! ### The lines of an order -/

/-- No string that is an item by itself holds a line feed. -/
def Unbroken (order : List Value) : Prop := ∀ s, .str s ∈ order → '\n' ∉ s.toList

theorem newline_notMem_itemLine_iff {v : Value} : '\n' ∉ itemLine v ↔ ∀ s, v = .str s → '\n' ∉ s.toList := by
  cases v with
  | str s => simp [itemLine]
  | null | bool | num | arr | obj =>
    exact ⟨fun _ _ h => Value.noConfusion h, fun _ => (Value.noControl_chars _).newline_notMem⟩

theorem forall_newline_notMem_itemLine_iff {order : List Value} :
    (∀ l ∈ order.map itemLine, '\n' ∉ l) ↔ Unbroken order := by
  rw [List.forall_mem_map]
  simp only [newline_notMem_itemLine_iff]
  exact ⟨fun h s hs => h _ hs s rfl, fun h v hv s hvs => h s (hvs ▸ hv)⟩

theorem Emit.body_lines (order : List Value) :
    Emit.lines.body order = (order.map itemLine).flatMap fun l => l ++ ['\n'] := by
  rw [List.flatMap_map]
  rfl

theorem Sink.written_of_write {sink : Sink} {text : String} (h : (sink.write text).2 = true) :
    (sink.write text).1.written = sink.written ++ text.toUTF8 := by
  rw [write] at h ⊢
  cases hroom : sink.room? with
  | none => rfl
  | some room =>
    rw [hroom] at h
    dsimp only at h ⊢
    split at h
    · next hfits => rw [if_pos hfits]
    · cases h

theorem writeOrder_lines (sink : Sink) (order : List Value) :
    writeOrder sink order .lines =
      ((sink.write (String.ofList (Emit.lines.body order))).1,
        if (sink.write (String.ofList (Emit.lines.body order))).2 then .ok () else .error .full) := by
  unfold writeOrder
  rcases sink.write (String.ofList (Emit.lines.body order)) with ⟨after, _ | _⟩ <;> rfl

theorem written_writeOrder_lines {sink : Sink} {order : List Value}
    (h : (writeOrder sink order .lines).2 = .ok ()) :
    (writeOrder sink order .lines).1.written = sink.written ++ (String.ofList (Emit.lines.body order)).toUTF8 := by
  rw [writeOrder_lines] at h ⊢
  apply Sink.written_of_write
  by_contra hfull
  rw [if_neg hfull] at h
  cases h

theorem writeOrder_lines_unlimited (order : List Value) :
    writeOrder (.empty none) order .lines = (⟨(String.ofList (Emit.lines.body order)).toUTF8, none⟩, .ok ()) := by
  rw [writeOrder_lines, Sink.empty, Sink.write, ByteArray.empty_append]
  rfl

/-- **An order is written one item a line, exactly if no string among its items holds a line feed.** There are as many
line feeds as items in this case only, and then the lines are the items: a string as it is, and everything else as its
compact text, whatever strings and keys it has inside. So strings without line feeds are had back from their lines. -/
theorem lines_are_items (order : List Value) :
    ∃ out : String,
      writeOrder (.empty none) order .lines = (⟨out.toUTF8, none⟩, .ok ()) ∧
        (∀ sink, (writeOrder sink order .lines).2 = .ok () →
          (writeOrder sink order .lines).1.written = sink.written ++ out.toUTF8) ∧
        (out.toList.count '\n' = order.length ↔ Unbroken order) ∧
        (Unbroken order → out.toList.splitOn '\n' =
          order.map (fun
            | .str s => s.toList
            | v => v.chars) ++ [[]]) ∧
        ∀ texts : List String, order = texts.map .str → (∀ s ∈ texts, '\n' ∉ s.toList) →
          (out.toList.splitOn '\n').dropLast.map String.ofList = texts := by
  have hsplit : Unbroken order → (Emit.lines.body order).splitOn '\n' = order.map itemLine ++ [[]] := by
    intro hunbroken
    rw [Emit.body_lines, splitOn_newline_flatMap (forall_newline_notMem_itemLine_iff.mpr hunbroken)]
  refine ⟨String.ofList (Emit.lines.body order), writeOrder_lines_unlimited order,
    fun sink => written_writeOrder_lines, ?_, ?_, ?_⟩
  · rw [String.toList_ofList, Emit.body_lines, ← forall_newline_notMem_itemLine_iff,
      ← count_newline_eq_length_iff, List.length_map]
  · rw [String.toList_ofList]
    exact hsplit
  · rintro texts rfl htexts
    have hunbroken : Unbroken (texts.map .str) := by
      intro s hs
      obtain ⟨t, ht, heq⟩ := List.mem_map.mp hs
      exact Value.str.inj heq ▸ htexts t ht
    rw [String.toList_ofList, hsplit hunbroken, List.dropLast_concat, List.map_map, List.map_map]
    exact List.map_id'' (fun s => String.ofList_toList) texts

/-- Line feeds inside an array and in a key break no line, one in a string among the items does. -/
theorem lines_are_items_inside :
    let order : List Value := [.str "a \"b\"", .arr [.str "x\ny"], .str "", .obj [("k\n", .null)]]
    let out := "a \"b\"\n[\"x\\ny\"]\n\n\x7b\"k\\n\":null\x7d\n"
    (Unbroken order ∧ writeOrder (.empty none) order .lines = (⟨out.toUTF8, none⟩, .ok ()) ∧
        out.toList.count '\n' = order.length ∧
        out.toList.splitOn '\n' =
          ["a \"b\"".toList, "[\"x\\ny\"]".toList, [], "\x7b\"k\\n\":null\x7d".toList, []]) ∧
      (¬ Unbroken [.str "x\ny"] ∧
        writeOrder (.empty none) [.str "x\ny"] .lines = (⟨"x\ny\n".toUTF8, none⟩, .ok ()) ∧
        "x\ny\n".toList.count '\n' ≠ 1) ∧
      writeOrder (.empty none) (["b", "a"].map .str) .lines = (⟨"b\na\n".toUTF8, none⟩, .ok ()) ∧
        ("b\na\n".toList.splitOn '\n').dropLast.map String.ofList = ["b", "a"] := by
  intro order out
  -- What the theorem says of the bytes it says of the text, because the bytes have one text only.
  have hwritten : ∀ (items : List Value) (text : String), String.ofList (Emit.lines.body items) = text →
      writeOrder (.empty none) items .lines = (⟨text.toUTF8, none⟩, .ok ()) := by
    rintro items _ rfl
    exact writeOrder_lines_unlimited items
  have hsame : ∀ {items : List Value} {text other : String},
      writeOrder (.empty none) items .lines = (⟨text.toUTF8, none⟩, .ok ()) →
      writeOrder (.empty none) items .lines = (⟨other.toUTF8, none⟩, .ok ()) → other = text := by
    intro items text other htext hother
    exact String.toByteArray_inj.mp (congrArg (fun p => p.1.written) (hother.symm.trans htext))
  have hunbroken : Unbroken order := by
    intro s hs
    simp only [order, List.mem_cons, Value.str.injEq, reduceCtorEq, List.not_mem_nil, or_false, false_or] at hs
    rcases hs with rfl | rfl <;> decide
  have hbroken : ¬ Unbroken [.str "x\ny"] := fun h => h "x\ny" (List.mem_singleton_self _) (by decide)
  refine ⟨⟨hunbroken, ?_⟩, ⟨hbroken, ?_⟩, ?_⟩
  · have hout : writeOrder (.empty none) order .lines = (⟨out.toUTF8, none⟩, .ok ()) := hwritten _ _ (by decide)
    obtain ⟨text, htext, -, hcount, hsplit, -⟩ := lines_are_items order
    rw [hsame hout htext] at hcount hsplit
    exact ⟨hout, hcount.mpr hunbroken, hsplit hunbroken⟩
  · have hout := hwritten [.str "x\ny"] "x\ny\n" (by decide)
    obtain ⟨text, htext, -, hcount, -⟩ := lines_are_items [.str "x\ny"]
    rw [hsame hout htext] at hcount
    exact ⟨hout, mt hcount.mp hbroken⟩
  · have hout := hwritten (["b", "a"].map .str) "b\na\n" (by decide)
    obtain ⟨text, htext, -, -, -, hback⟩ := lines_are_items (["b", "a"].map .str)
    rw [hsame hout htext] at hback
    exact ⟨hout, hback ["b", "a"] rfl (by decide)⟩

end BuildOrder
