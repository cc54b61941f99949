import BuildOrder.Proofs.Json.Written

/-!
# Values that are skipped

Whatever the grammar derives as a value is skipped. A scalar is skipped by itself; for the rest, each production
of the grammar is one step of the loop over frames, so a derivation inside open frames takes the loop to what comes
behind a value, with the same frames open.
-/

namespace BuildOrder.Json

variable {s t u v w : List Char}

/-! ### Strings -/

private theorem skipEscape_unit {a b c d : Char} {n : Nat} (h : hexValue4? a b c d = some n) :
    Yields (skipEscape ('u' :: a :: b :: c :: d :: t)) () t := by
  obtain ⟨hlt, hread⟩ := readHex4_cons (t := t) h
  rw [skipEscape, if_pos rfl, hread]
  exact ⟨_, rfl⟩

section SkipString

variable {n : Nat}

private theorem skipString_plain {c : Char} {h : (c :: s).length < n} (hquote : c ≠ '"') (hslash : c ≠ '\\')
    (hcontrol : ¬ c.toNat < 0x20) : skipString (c :: s) h = skipString s (length_tail_lt h) := by
  rw [skipString, if_neg hquote, if_neg hslash, if_neg hcontrol]

private theorem skipString_backslash {h : ('\\' :: s).length < n} (hescape : Yields (skipEscape s) () t) :
    ∃ ht, skipString ('\\' :: s) h = skipString t ht := by
  obtain ⟨hlt, hread⟩ := hescape
  rw [skipString, if_neg (by decide), if_pos rfl, hread]
  exact ⟨_, rfl⟩

/-- What is read as one character is skipped, a surrogate pair in two steps. -/
theorem Escape.skipString {c : Char} (hescape : Escape s c t) (h : ('\\' :: s).length < n) :
    ∃ ht, Json.skipString ('\\' :: s) h = Json.skipString t ht := by
  cases hescape with
  | @letter l c t hl =>
    have hnotu : l ≠ 'u' := by
      rintro rfl
      cases hl
    have hread : Yields (skipEscape (l :: t)) () t := by
      rw [skipEscape, if_neg hnotu, hl]
      exact ⟨_, rfl⟩
    exact skipString_backslash hread
  | unit hvalue => exact skipString_backslash (skipEscape_unit hvalue)
  | pair hvalue _ hvalue' _ =>
    obtain ⟨hu, hfirst⟩ := skipString_backslash (h := h) (skipEscape_unit hvalue)
    obtain ⟨ht, hsecond⟩ := skipString_backslash (h := hu) (skipEscape_unit hvalue')
    exact ⟨ht, hfirst.trans hsecond⟩

theorem Spells.skipString {cs : List Char} (hspells : Spells s cs t) (h : s.length < n) :
    ∃ ht, Json.skipString s h = .ok ⟨t, ht⟩ := by
  induction hspells with
  | close =>
    rw [Json.skipString, if_pos rfl]
    exact ⟨_, rfl⟩
  | plain hquote hslash hcontrol _ ih =>
    rw [skipString_plain hquote hslash hcontrol]
    exact ih _
  | escaped hescape _ ih =>
    obtain ⟨hu, hstep⟩ := hescape.skipString h
    rw [hstep]
    exact ih hu

end SkipString

/-! ### Numbers -/

/-- The text does not go on with digits. -/
def EndsDigits (t : List Char) : Prop := ∀ c ∈ t.head?, c.isDigit = false

theorem EndsNumber.endsDigits (h : EndsNumber t) : EndsDigits t := fun c hc => (h c hc).1

theorem EndsDigits.dropWhile_eq (h : EndsDigits t) : t.dropWhile Char.isDigit = t := by
  cases t with
  | nil => rfl
  | cons c r => exact List.dropWhile_cons_of_neg (Bool.eq_false_iff.mp (h c rfl))

theorem Digits.exists_cons (h : Digits s t) (ht : EndsDigits t) :
    ∃ c r, s = c :: r ∧ c.isDigit = true ∧ r.dropWhile Char.isDigit = t := by
  induction h with
  | last hc => exact ⟨_, _, rfl, hc, ht.dropWhile_eq⟩
  | more hc _ ih =>
    obtain ⟨d, r, rfl, hd, hdrop⟩ := ih ht
    exact ⟨_, _, rfl, hc, (List.dropWhile_cons_of_pos hd).trans hdrop⟩

theorem Digits.skipDigits (h : Digits s t) (ht : EndsDigits t) : ∃ hle, Json.skipDigits s = .ok ⟨t, hle⟩ := by
  obtain ⟨c, r, rfl, hc, rfl⟩ := h.exists_cons ht
  rw [Json.skipDigits, if_pos hc]
  exact ⟨_, rfl⟩

/-- In front of an exponent there are no digits and no point. -/
theorem ExponentPart.head (h : ExponentPart s t) (ht : EndsNumber t) : ∀ c ∈ s.head?, c.isDigit = false ∧ c ≠ '.' := by
  have hletter : ∀ {e : Char}, e = 'e' ∨ e = 'E' → e.isDigit = false ∧ e ≠ '.' := by
    rintro e (rfl | rfl) <;> decide
  rintro c hc
  cases h with
  | absent => exact ⟨(ht c hc).1, (ht c hc).2.1⟩
  | digits he _ => exact Option.some.inj hc ▸ hletter he
  | signed he _ _ => exact Option.some.inj hc ▸ hletter he

theorem FractionPart.endsDigits (h : FractionPart s u) (hexponent : ExponentPart u t) (ht : EndsNumber t) :
    EndsDigits s := by
  intro c hc
  cases h with
  | absent => exact (hexponent.head ht c hc).1
  | digits _ => exact Option.some.inj hc ▸ rfl

theorem ExponentPart.skipExponent (h : ExponentPart s t) (ht : EndsNumber t) :
    ∃ hle, Json.skipExponent s = .ok ⟨t, hle⟩ := by
  have hletter : ∀ {e : Char} {r : List Char}, e = 'e' ∨ e = 'E' → Digits (dropSign r) t →
      ∃ hle, Json.skipExponent (e :: r) = .ok ⟨t, hle⟩ := by
    intro e r he hdigits
    obtain ⟨hle, hskip⟩ := hdigits.skipDigits ht.endsDigits
    rw [Json.skipExponent, if_pos he, hskip]
    exact ⟨_, rfl⟩
  cases h with
  | absent =>
    cases s with
    | nil => exact ⟨_, rfl⟩
    | cons c r =>
      obtain ⟨-, -, hlower, hupper⟩ := ht c rfl
      rw [Json.skipExponent, if_neg (not_or.mpr ⟨hlower, hupper⟩)]
      exact ⟨_, rfl⟩
  | @digits e s t he hdigits =>
    obtain ⟨c, r, rfl, hc, -⟩ := hdigits.exists_cons ht.endsDigits
    have hnosign : ¬ (c = '+' ∨ c = '-') := by
      rintro (rfl | rfl) <;> cases hc
    refine hletter he ?_
    rwa [dropSign, if_neg hnosign]
  | signed he hsign hdigits =>
    refine hletter he ?_
    rwa [dropSign, if_pos hsign]

theorem FractionPart.skipFraction (h : FractionPart s u) (hexponent : ExponentPart u t) (ht : EndsNumber t) :
    ∃ hle, Json.skipFraction s = .ok ⟨t, hle⟩ := by
  obtain ⟨hle, hskip⟩ := hexponent.skipExponent ht
  cases h with
  | absent =>
    have hnopoint : ∀ r, s ≠ '.' :: r := by
      rintro r rfl
      exact (hexponent.head ht '.' rfl).2 rfl
    rw [Json.skipFraction.eq_2 s hnopoint, hskip]
    exact ⟨hle, rfl⟩
  | digits hdigits =>
    obtain ⟨hle', hskip'⟩ := hdigits.skipDigits fun c hc => (hexponent.head ht c hc).1
    rw [Json.skipFraction, hskip']
    dsimp only
    rw [hskip]
    exact ⟨_, rfl⟩

private theorem skipUnsigned_of_skipFraction {c : Char} {r : List Char} {hle : t.length ≤ u.length}
    (hc : c.isDigit = true) (hzero : ¬ (c = '0' ∧ r.head?.any Char.isDigit = true))
    (hu : (if c = '0' then r else r.dropWhile Char.isDigit) = u) (hskip : skipFraction u = .ok ⟨t, hle⟩) :
    Yields (skipUnsigned (c :: r)) () t := by
  subst hu
  simp only [skipUnsigned, hc, hzero, hskip, if_false, Bool.not_true, Bool.false_eq_true]
  exact ⟨_, rfl⟩

theorem WholePart.skipUnsigned {hle : t.length ≤ u.length} (h : WholePart s u) (hends : EndsDigits u)
    (hskip : skipFraction u = .ok ⟨t, hle⟩) :
    ∃ c r, s = c :: r ∧ c.isDigit = true ∧ Yields (Json.skipUnsigned (c :: r)) () t := by
  cases h with
  | zero =>
    have hnomore : ¬ ('0' = '0' ∧ u.head?.any Char.isDigit = true) := by
      rintro ⟨-, hmore⟩
      obtain ⟨c, hc, hdigit⟩ := (Option.any_eq_true ..).mp hmore
      exact absurd hdigit (Bool.eq_false_iff.mp (hends c hc))
    exact ⟨'0', u, rfl, rfl, skipUnsigned_of_skipFraction rfl hnomore rfl hskip⟩
  | @digits c r _ hnotzero hdigits =>
    obtain ⟨d, r', hcons, hd, hdrop⟩ := hdigits.exists_cons hends
    obtain ⟨rfl, rfl⟩ := List.cons.inj hcons
    have hnozero : ¬ (c = '0' ∧ r.head?.any Char.isDigit = true) := fun h => hnotzero h.1
    exact ⟨c, r, rfl, hd, skipUnsigned_of_skipFraction hd hnozero ((if_neg hnotzero).trans hdrop) hskip⟩

theorem Unsigned.skipUnsigned (h : Unsigned s t) (ht : EndsNumber t) :
    ∃ c r, s = c :: r ∧ c.isDigit = true ∧ Yields (Json.skipUnsigned (c :: r)) () t := by
  cases h with
  | parts hwhole hfraction hexponent =>
    obtain ⟨hle, hskip⟩ := hfraction.skipFraction hexponent ht
    exact hwhole.skipUnsigned (hfraction.endsDigits hexponent ht) hskip

/-! ### Scalars -/

private theorem skipScalar_digit {c : Char} {r : List Char} (hc : c.isDigit = true)
    (hskip : Yields (skipUnsigned (c :: r)) () t) : Yields (skipScalar c r) () t := by
  have hne : ∀ d : Char, d.isDigit = false → c ≠ d := by
    rintro d hd rfl
    exact absurd hc (Bool.eq_false_iff.mp hd)
  rw [skipScalar, if_neg (hne 'n' rfl), if_neg (hne 't' rfl), if_neg (hne 'f' rfl), if_neg (hne '"' rfl),
    if_neg (hne '-' rfl), if_pos hc]
  exact hskip.later id _

theorem Scalar.skipScalar (h : Scalar s t) (ht : EndsNumber t) :
    ∃ c r, s = c :: r ∧ isBlank c = false ∧ c ∉ ['[', ']', '\x7b'] ∧ Yields (Json.skipScalar c r) () t := by
  cases h with
  | word hw =>
    simp only [List.mem_cons, List.not_mem_nil, or_false] at hw
    rcases hw with rfl | rfl | rfl <;> exact ⟨_, _, rfl, rfl, by decide, _, rfl⟩
  | @string s _ _ hspells =>
    obtain ⟨hlt, hskip⟩ := hspells.skipString (length_lt_succ s)
    refine ⟨_, _, rfl, rfl, by decide, ?_⟩
    rw [Json.skipScalar, if_neg (by decide), if_neg (by decide), if_neg (by decide), if_pos rfl, hskip]
    exact ⟨hlt, rfl⟩
  | number hunsigned =>
    obtain ⟨c, r, rfl, hc, hskip⟩ := hunsigned.skipUnsigned ht
    refine ⟨c, r, rfl, isBlank_eq_false_of_isDigit hc, ?_, skipScalar_digit hc hskip⟩
    simp only [List.mem_cons, List.not_mem_nil, or_false]
    rintro (rfl | rfl | rfl) <;> cases hc
  | negative hunsigned =>
    obtain ⟨c, r, rfl, -, hskip⟩ := hunsigned.skipUnsigned ht
    refine ⟨'-', c :: r, rfl, rfl, by decide, ?_⟩
    rw [Json.skipScalar, if_neg (by decide), if_neg (by decide), if_neg (by decide), if_neg (by decide), if_pos rfl]
    exact hskip.later id _

/-! ### Frames -/

variable {f : Frame} {frames : List Frame}

private theorem isBlank_opening (f : Frame) : isBlank f.opening = false := by cases f <;> rfl

private theorem isBlank_closing (f : Frame) : isBlank f.closing = false := by cases f <;> rfl

/-- A value starts, behind its blanks, with something other than the end of an array. -/
theorem Derives.exists_skipBlank (h : Derives .value s t) (ht : EndsNumber t) :
    ∃ c r, skipBlank s = c :: r ∧ c ≠ ']' := by
  have hopening : ∀ f : Frame, f.opening ≠ ']' := by
    intro f
    cases f <;> decide
  cases h with
  | scalar hblanks hscalar =>
    obtain ⟨c, r, rfl, hblank, hbracket, -⟩ := hscalar.skipScalar ht
    refine ⟨c, r, hblanks.skipBlank_eq_cons hblank, ?_⟩
    rintro rfl
    exact absurd hbracket (by decide)
  | @empty f _ _ u hblanks _ => exact ⟨_, u, hblanks.skipBlank_eq_cons (isBlank_opening f), hopening f⟩
  | @filled f _ _ u _ _ hblanks _ _ _ => exact ⟨_, u, hblanks.skipBlank_eq_cons (isBlank_opening f), hopening f⟩

theorem endsNumber_closing (f : Frame) (t : List Char) : EndsNumber (f.closing :: t) := by
  cases f <;> exact endsNumber_cons rfl (by decide) (by decide) (by decide)

theorem Blanks.endsNumber (h : Blanks s t) (ht : EndsNumber t) : EndsNumber s := by
  cases h with
  | none => exact ht
  | more hc _ =>
    simp only [isBlank, Bool.or_eq_true, beq_iff_eq] at hc
    rcases hc with ((rfl | rfl) | rfl) | rfl <;> exact endsNumber_cons rfl (by decide) (by decide) (by decide)

theorem Derives.endsNumber_tail (h : Derives (.tail f) s t) : EndsNumber s := by
  cases h with
  | close hblanks => exact hblanks.endsNumber (endsNumber_closing f t)
  | next hblanks _ _ _ => exact hblanks.endsNumber (endsNumber_cons rfl (by decide) (by decide) (by decide))

theorem skipStart_of_skipBlank {c : Char} {r : List Char} (h : skipBlank s = c :: r) :
    skipStart frames s =
      if c = '[' then later id (lt_of_skipBlank h) (openFrame .list frames r)
      else if c = '\x7b' then later id (lt_of_skipBlank h) (openFrame .object frames r)
      else later (fun _ => .behind frames) (lt_of_skipBlank h) (skipScalar c r) := by
  rw [skipStart]
  split
  · next hend => exact absurd (h.symm.trans hend) (List.cons_ne_nil c r)
  · next hcons =>
    obtain ⟨rfl, rfl⟩ := List.cons.inj (h.symm.trans hcons)
    rfl

theorem skipStart_scalar (hblanks : Blanks s u) (hscalar : Scalar u t) (ht : EndsNumber t) :
    Yields (skipStart frames s) (.behind frames) t := by
  obtain ⟨c, r, rfl, hblank, hbracket, hskip⟩ := hscalar.skipScalar ht
  simp only [List.mem_cons, List.not_mem_nil, or_false, not_or] at hbracket
  rw [skipStart_of_skipBlank (hblanks.skipBlank_eq_cons hblank), if_neg hbracket.1, if_neg hbracket.2.2]
  exact hskip.later _ _

theorem skipStart_opening {a : Awaited} (hblanks : Blanks s (f.opening :: u))
    (hopen : Yields (openFrame f frames u) a t) : Yields (skipStart frames s) a t := by
  rw [skipStart_of_skipBlank (hblanks.skipBlank_eq_cons (isBlank_opening f))]
  cases f with
  | list => exact hopen.later id _
  | object => exact hopen.later id _

private theorem openFrame_closing (hblanks : Blanks s (f.closing :: t)) :
    Yields (openFrame f frames s) (.behind frames) t := by
  have h := hblanks.skipBlank_eq_cons (isBlank_closing f)
  rw [openFrame.eq_def]
  split
  · next hend => exact absurd (h.symm.trans hend) (List.cons_ne_nil _ t)
  · next hcons =>
    obtain ⟨rfl, rfl⟩ := List.cons.inj (h.symm.trans hcons)
    rw [if_pos rfl]
    exact ⟨_, rfl⟩

private theorem skipKey_of_spells {key : List Char} (hquote : Blanks s ('"' :: u)) (hspells : Spells u key v)
    (hcolon : Blanks v (':' :: t)) : Yields (skipKey s) () t := by
  have h := hquote.skipBlank_eq_cons rfl
  have h' := hcolon.skipBlank_eq_cons rfl
  obtain ⟨hlt, hskip⟩ := hspells.skipString (length_lt_succ u)
  rw [skipKey]
  split
  · next hend => exact absurd (h.symm.trans hend) (List.cons_ne_nil _ u)
  · next hcons =>
    obtain ⟨rfl, rfl⟩ := List.cons.inj (h.symm.trans hcons)
    rw [if_neg (not_not.mpr rfl), hskip]
    dsimp only
    split
    · next hend => exact absurd (h'.symm.trans hend) (List.cons_ne_nil _ t)
    · next hcons' =>
      obtain ⟨rfl, rfl⟩ := List.cons.inj (h'.symm.trans hcons')
      rw [if_pos rfl]
      exact ⟨_, rfl⟩

private theorem openFrame_lead (hlead : Lead f s t) (hvalue : ∃ c r, skipBlank t = c :: r ∧ c ≠ ']') :
    Yields (openFrame f frames s) (.value (f :: frames)) t := by
  rw [openFrame.eq_def]
  cases hlead with
  | list =>
    obtain ⟨c, r, h, hclose⟩ := hvalue
    have hclosing : c ≠ Frame.list.closing := hclose
    split
    · next hend => exact absurd (h.symm.trans hend) (List.cons_ne_nil c r)
    · next hcons =>
      obtain ⟨rfl, rfl⟩ := List.cons.inj (h.symm.trans hcons)
      rw [if_neg hclosing]
      exact ⟨_, rfl⟩
  | object hquote hspells hcolon =>
    have h := hquote.skipBlank_eq_cons rfl
    split
    · next hend => exact absurd (h.symm.trans hend) (List.cons_ne_nil _ _)
    · next hcons =>
      obtain ⟨rfl, rfl⟩ := List.cons.inj (h.symm.trans hcons)
      rw [if_neg (by decide)]
      exact (skipKey_of_spells hquote hspells hcolon).later _ _

private theorem skipSeparator_closing (hblanks : Blanks s (f.closing :: t)) :
    Yields (skipSeparator f frames s) (.behind frames) t := by
  have h := hblanks.skipBlank_eq_cons (isBlank_closing f)
  have hcomma : f.closing ≠ ',' := by cases f <;> decide
  rw [skipSeparator]
  split
  · next hend => exact absurd (h.symm.trans hend) (List.cons_ne_nil _ t)
  · next hcons =>
    obtain ⟨rfl, rfl⟩ := List.cons.inj (h.symm.trans hcons)
    rw [if_neg hcomma, if_pos rfl]
    exact ⟨_, rfl⟩

private theorem skipSeparator_comma (hblanks : Blanks s (',' :: u)) (hlead : Lead f u t) :
    Yields (skipSeparator f frames s) (.value (f :: frames)) t := by
  have h := hblanks.skipBlank_eq_cons rfl
  rw [skipSeparator]
  split
  · next hend => exact absurd (h.symm.trans hend) (List.cons_ne_nil _ u)
  · next hcons =>
    obtain ⟨rfl, rfl⟩ := List.cons.inj (h.symm.trans hcons)
    rw [if_pos rfl]
    cases hlead with
    | list => exact ⟨_, rfl⟩
    | object hquote hspells hcolon => exact (skipKey_of_spells hquote hspells hcolon).later _ _

/-! ### The loop -/

/-- What is awaited where a symbol is derived, with frames open around it. -/
def Symbol.awaited (frames : List Frame) : Symbol → Awaited
  | .value => .value frames
  | .tail f => .separator f frames

section Loop

variable {n : Nat}

theorem skipAwaited_value {a : Awaited} (hstart : Yields (skipStart frames s) a t) (h : s.length < n) :
    ∃ ht, skipAwaited (.value frames) s h = skipAwaited a t ht := by
  obtain ⟨hlt, hstart⟩ := hstart
  rw [skipAwaited, hstart]
  exact ⟨_, rfl⟩

theorem skipAwaited_separator {a : Awaited} (hseparator : Yields (skipSeparator f frames s) a t) (h : s.length < n) :
    ∃ ht, skipAwaited (.separator f frames) s h = skipAwaited a t ht := by
  obtain ⟨hlt, hseparator⟩ := hseparator
  rw [skipAwaited, hseparator]
  exact ⟨_, rfl⟩

/-- A derivation inside open frames takes the loop to what comes behind a value. -/
theorem Derives.skipAwaited {symbol : Symbol} (hderives : Derives symbol s t) (ht : EndsNumber t)
    (frames : List Frame) (h : s.length < n) :
    ∃ ht, Json.skipAwaited (symbol.awaited frames) s h = Json.skipAwaited (.behind frames) t ht := by
  -- The frames are those around the symbol; a value inside brackets has one more of them open.
  induction hderives generalizing frames with
  | scalar hblanks hscalar => exact skipAwaited_value (skipStart_scalar hblanks hscalar ht) h
  | empty hblanks hblanks' => exact skipAwaited_value (skipStart_opening hblanks (openFrame_closing hblanks')) h
  | @filled f s t u v w hblanks hlead hvalue htail ihvalue ihtail =>
    have hends := htail.endsNumber_tail
    have hopen : Yields (openFrame f frames u) (.value (f :: frames)) v :=
      openFrame_lead hlead (hvalue.exists_skipBlank hends)
    obtain ⟨hv, hfirst⟩ := skipAwaited_value (skipStart_opening hblanks hopen) h
    obtain ⟨hw, hsecond⟩ := ihvalue hends (f :: frames) hv
    obtain ⟨ht', hthird⟩ := ihtail ht frames hw
    exact ⟨ht', hfirst.trans (hsecond.trans hthird)⟩
  | close hblanks => exact skipAwaited_separator (skipSeparator_closing hblanks) h
  | @next f s t u v w hblanks hlead hvalue htail ihvalue ihtail =>
    have hseparator : Yields (skipSeparator f frames s) (.value (f :: frames)) v := skipSeparator_comma hblanks hlead
    obtain ⟨hv, hfirst⟩ := skipAwaited_separator hseparator h
    obtain ⟨hw, hsecond⟩ := ihvalue htail.endsNumber_tail (f :: frames) hv
    obtain ⟨ht', hthird⟩ := ihtail ht frames hw
    exact ⟨ht', hfirst.trans (hsecond.trans hthird)⟩

/-- The bound on what is left does not matter; the loop is entered with another one than it goes on with. -/
theorem skipAwaited_bound {m : Nat} {a : Awaited} {h : s.length < n} {ht : t.length < n}
    (hskip : skipAwaited a s h = .ok ⟨t, ht⟩) (h' : s.length < m) :
    ∃ ht', skipAwaited a s h' = .ok ⟨t, ht'⟩ := by
  induction hlength : s.length using Nat.strongRecOn generalizing a s with
  | ind k ih =>
    subst hlength
    cases a with
    | nothing =>
      rw [skipAwaited] at hskip ⊢
      obtain rfl := congrArg Subtype.val (Except.ok.inj hskip)
      exact ⟨h', rfl⟩
    | value frames =>
      rw [skipAwaited] at hskip ⊢
      split at hskip
      · cases hskip
      · next rest hstart => exact ih _ rest.2 hskip _ rfl
    | separator f frames =>
      rw [skipAwaited] at hskip ⊢
      split at hskip
      · cases hskip
      · next rest hstart => exact ih _ rest.2 hskip _ rfl

end Loop

theorem Derives.skipValue (hderives : Derives .value s t) (ht : EndsNumber t) : Yields (Json.skipValue s) () t := by
  obtain ⟨hlt, hloop⟩ := hderives.skipAwaited ht [] (length_lt_succ s)
  change Json.skipAwaited (.value []) s _ = Json.skipAwaited .nothing t hlt at hloop
  rw [Json.skipAwaited, Json.skipAwaited] at hloop
  rw [Json.skipValue]
  split at hloop
  · cases hloop
  · next a rest hstart =>
    obtain ⟨ht', hskip⟩ := skipAwaited_bound hloop rest.2
    rw [hskip]
    exact ⟨ht', rfl⟩

end BuildOrder.Json
