import Mathlib.Data.Option.Basic
import BuildOrder.Proofs.Value.Fields

/-!
# Equality of values

Equality of values is an equivalence, although it is numeric on floating point numbers and so coarser than
identity: no number that a value can hold differs from itself. Each law goes through a value as equality does, and
at the numbers it is the law for finite numbers.

Objects are compared field by field in the order of their keys. Where the keys are in order, this is the comparison
of the two objects as maps: under every key both have equal values, or neither has one.
-/

namespace BuildOrder

namespace Number

theorem int_beq_int (i j : Integer) : (int i == int j) = (i.val == j.val) := rfl

theorem float_beq_float (x y : Finite64) : (float x == float y) = (x == y) := rfl

instance : EquivBEq Number where
  rfl {m} := by
    cases m with
    | int i => rw [int_beq_int, beq_self_eq_true]
    | float x => rw [float_beq_float, BEq.refl]
  symm {m n} h := by
    cases m with
    | int i => cases n with
      | int j => rwa [int_beq_int, BEq.comm] at h
      | float y => cases h
    | float x => cases n with
      | int j => cases h
      | float y => rwa [float_beq_float, BEq.comm] at h
  trans {m n k} h h' := by
    cases n with
    | int j => cases m with
      | int i => cases k with
        | int l =>
          rw [int_beq_int, beq_iff_eq] at h h'
          rw [int_beq_int, h, h', beq_self_eq_true]
        | float z => cases h'
      | float x => cases h
    | float y => cases m with
      | int i => cases h
      | float x => cases k with
        | int l => cases h'
        | float z => exact BEq.trans (α := Finite64) h h'

end Number

namespace Value

/-! ### The laws of an equivalence -/

mutual

theorem beq_refl : ∀ v : Value, v.beq v
  | .null => rfl
  | .bool b => BEq.refl b
  | .num n => BEq.refl n
  | .str s => BEq.refl s
  | .arr vs => beqElements_refl vs
  | .obj fs => beqFields_refl fs

theorem beqElements_refl : ∀ vs : List Value, beqElements vs vs
  | [] => rfl
  | v :: vs => Bool.and_eq_true_iff.mpr ⟨beq_refl v, beqElements_refl vs⟩

theorem beqFields_refl : ∀ fs : List (String × Value), beqFields fs fs
  | [] => rfl
  | (k, v) :: fs =>
    Bool.and_eq_true_iff.mpr ⟨Bool.and_eq_true_iff.mpr ⟨BEq.refl k, beq_refl v⟩, beqFields_refl fs⟩

end

theorem beqElements_cons_iff {v w : Value} {vs ws : List Value} :
    beqElements (v :: vs) (w :: ws) ↔ v.beq w ∧ beqElements vs ws := Bool.and_eq_true_iff

theorem beqFields_cons_iff {k l : String} {v w : Value} {fs gs : List (String × Value)} :
    beqFields ((k, v) :: fs) ((l, w) :: gs) ↔ k = l ∧ v.beq w ∧ beqFields fs gs := by
  rw [beqFields, Bool.and_eq_true_iff, Bool.and_eq_true_iff, beq_iff_eq, and_assoc]

section Kinds

variable {w : Value}

private theorem eq_null_of_beq (h : null.beq w) : w = null := by
  cases w with
  | null => rfl
  | bool | num | str | arr | obj => exact Bool.noConfusion h

private theorem eq_bool_of_beq {b : Bool} (h : (bool b).beq w) : w = bool b := by
  cases w with
  | bool c => exact congrArg bool (eq_of_beq h).symm
  | null | num | str | arr | obj => exact Bool.noConfusion h

private theorem eq_str_of_beq {s : String} (h : (str s).beq w) : w = str s := by
  cases w with
  | str t => exact congrArg str (eq_of_beq h).symm
  | null | bool | num | arr | obj => exact Bool.noConfusion h

private theorem exists_num_of_beq {m : Number} (h : (num m).beq w) : ∃ n, w = num n ∧ m == n := by
  cases w with
  | num n => exact ⟨n, rfl, h⟩
  | null | bool | str | arr | obj => exact Bool.noConfusion h

private theorem exists_arr_of_beq {vs : List Value} (h : (arr vs).beq w) : ∃ ws, w = arr ws ∧ beqElements vs ws := by
  cases w with
  | arr ws => exact ⟨ws, rfl, h⟩
  | null | bool | num | str | obj => exact Bool.noConfusion h

private theorem exists_obj_of_beq {fs : List (String × Value)} (h : (obj fs).beq w) :
    ∃ gs, w = obj gs ∧ beqFields fs gs := by
  cases w with
  | obj gs => exact ⟨gs, rfl, h⟩
  | null | bool | num | str | arr => exact Bool.noConfusion h

end Kinds

mutual

theorem beq_symm : ∀ {v w : Value}, v.beq w → w.beq v
  | .null, _, h => by
    rw [eq_null_of_beq h]
    exact beq_refl _
  | .bool _, _, h => by
    rw [eq_bool_of_beq h]
    exact beq_refl _
  | .num _, _, h => by
    obtain ⟨_, rfl, hnum⟩ := exists_num_of_beq h
    exact BEq.symm hnum
  | .str _, _, h => by
    rw [eq_str_of_beq h]
    exact beq_refl _
  | .arr _, _, h => by
    obtain ⟨_, rfl, helements⟩ := exists_arr_of_beq h
    exact beqElements_symm helements
  | .obj _, _, h => by
    obtain ⟨_, rfl, hfields⟩ := exists_obj_of_beq h
    exact beqFields_symm hfields

theorem beqElements_symm : ∀ {vs ws : List Value}, beqElements vs ws → beqElements ws vs
  | [], [], _ => rfl
  | _ :: _, _ :: _, h => by
    obtain ⟨hfirst, hrest⟩ := beqElements_cons_iff.mp h
    exact beqElements_cons_iff.mpr ⟨beq_symm hfirst, beqElements_symm hrest⟩

theorem beqFields_symm : ∀ {fs gs : List (String × Value)}, beqFields fs gs → beqFields gs fs
  | [], [], _ => rfl
  | (_, _) :: _, (_, _) :: _, h => by
    obtain ⟨hkey, hvalue, hrest⟩ := beqFields_cons_iff.mp h
    exact beqFields_cons_iff.mpr ⟨hkey.symm, beq_symm hvalue, beqFields_symm hrest⟩

end

mutual

theorem beq_trans : ∀ {u v w : Value}, u.beq v → v.beq w → u.beq w
  | .null, _, _, h, h' => eq_null_of_beq h ▸ h'
  | .bool _, _, _, h, h' => eq_bool_of_beq h ▸ h'
  | .num _, _, _, h, h' => by
    obtain ⟨_, rfl, hnum⟩ := exists_num_of_beq h
    obtain ⟨_, rfl, hnum'⟩ := exists_num_of_beq h'
    exact BEq.trans hnum hnum'
  | .str _, _, _, h, h' => eq_str_of_beq h ▸ h'
  | .arr _, _, _, h, h' => by
    obtain ⟨_, rfl, helements⟩ := exists_arr_of_beq h
    obtain ⟨_, rfl, helements'⟩ := exists_arr_of_beq h'
    exact beqElements_trans helements helements'
  | .obj _, _, _, h, h' => by
    obtain ⟨_, rfl, hfields⟩ := exists_obj_of_beq h
    obtain ⟨_, rfl, hfields'⟩ := exists_obj_of_beq h'
    exact beqFields_trans hfields hfields'

theorem beqElements_trans : ∀ {us vs ws : List Value},
    beqElements us vs → beqElements vs ws → beqElements us ws
  | [], [], [], _, _ => rfl
  | _ :: _, _ :: _, _ :: _, h, h' => by
    obtain ⟨hfirst, hrest⟩ := beqElements_cons_iff.mp h
    obtain ⟨hfirst', hrest'⟩ := beqElements_cons_iff.mp h'
    exact beqElements_cons_iff.mpr ⟨beq_trans hfirst hfirst', beqElements_trans hrest hrest'⟩

theorem beqFields_trans : ∀ {es fs gs : List (String × Value)},
    beqFields es fs → beqFields fs gs → beqFields es gs
  | [], [], [], _, _ => rfl
  | (_, _) :: _, (_, _) :: _, (_, _) :: _, h, h' => by
    obtain ⟨hkey, hvalue, hrest⟩ := beqFields_cons_iff.mp h
    obtain ⟨hkey', hvalue', hrest'⟩ := beqFields_cons_iff.mp h'
    exact beqFields_cons_iff.mpr
      ⟨hkey.trans hkey', beq_trans hvalue hvalue', beqFields_trans hrest hrest'⟩

end

instance : EquivBEq Value where
  rfl := beq_refl _
  symm := beq_symm
  trans := beq_trans

/-! ### Objects as maps -/

theorem field?_cons (key k : String) (v : Value) (fs : List (String × Value)) :
    field? key ((k, v) :: fs) = if k = key then some v else field? key fs := by
  rw [field?, List.find?_cons]
  by_cases h : k = key
  · simp [h]
  · simp [h, field?, beq_eq_false_iff_ne.mpr h]

theorem field?_eq_none_of_lt {key : String} {fs : List (String × Value)} (h : ∀ f ∈ fs, key < f.1) :
    field? key fs = none := by
  rw [field?, Option.map_eq_none_iff, List.find?_eq_none]
  intro f hf hkey
  exact (h f hf).ne' (beq_iff_eq.mp hkey)

theorem field?_beq_of_beqFields (key : String) : ∀ {fs gs : List (String × Value)},
    beqFields fs gs → field? key fs == field? key gs
  | [], [], _ => rfl
  | (k, v) :: fs, (l, w) :: gs, h => by
    obtain ⟨rfl, hvalue, hrest⟩ := beqFields_cons_iff.mp h
    rw [field?_cons, field?_cons]
    split
    · exact hvalue
    · exact field?_beq_of_beqFields key hrest

/-- Fields in order are the same list as soon as they are the same map. -/
theorem beqFields_of_forall_field? : ∀ {fs gs : List (String × Value)}, KeysInOrder fs → KeysInOrder gs →
    (∀ key, field? key fs == field? key gs) → beqFields fs gs
  | [], [], _, _, _ => rfl
  | [], (l, w) :: gs, _, _, h => by
    have hl := h l
    rw [field?_cons, if_pos rfl] at hl
    exact Bool.noConfusion hl
  | (k, v) :: fs, [], _, _, h => by
    have hk := h k
    rw [field?_cons, if_pos rfl] at hk
    exact Bool.noConfusion hk
  | (k, v) :: fs, (l, w) :: gs, hkfs, hlgs, h => by
    obtain ⟨hkfs, hfs⟩ := keysInOrder_cons.mp hkfs
    obtain ⟨hlgs, hgs⟩ := keysInOrder_cons.mp hlgs
    -- The first keys agree: the smaller of two different ones would be missing on the other side.
    obtain hlt | rfl | hgt := lt_trichotomy k l
    · have hk := h k
      have hnone : field? k gs = none := field?_eq_none_of_lt fun g hg => lt_trans hlt (hlgs g hg)
      rw [field?_cons, if_pos rfl, field?_cons, if_neg hlt.ne', hnone] at hk
      exact Bool.noConfusion hk
    · refine beqFields_cons_iff.mpr ⟨rfl, ?_, beqFields_of_forall_field? hfs hgs fun key => ?_⟩
      · have hk := h k
        rw [field?_cons, if_pos rfl, field?_cons, if_pos rfl] at hk
        exact hk
      · by_cases hkey : k = key
        · subst hkey
          rw [field?_eq_none_of_lt hkfs, field?_eq_none_of_lt hlgs]
          rfl
        · have hother := h key
          rw [field?_cons, if_neg hkey, field?_cons, if_neg hkey] at hother
          exact hother
    · have hl := h l
      have hnone : field? l fs = none := field?_eq_none_of_lt fun f hf => lt_trans hgt (hkfs f hf)
      rw [field?_cons, if_neg hgt.ne', hnone, field?_cons, if_pos rfl] at hl
      exact Bool.noConfusion hl

theorem obj_beq_obj_iff {fs gs : List (String × Value)} (hfs : KeysInOrder fs) (hgs : KeysInOrder gs) :
    (obj fs == obj gs) ↔ ∀ key, field? key fs == field? key gs :=
  ⟨fun h key => field?_beq_of_beqFields key h, beqFields_of_forall_field? hfs hgs⟩

end Value

end BuildOrder
