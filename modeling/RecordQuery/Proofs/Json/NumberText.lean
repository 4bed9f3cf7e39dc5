import RecordQuery.Json.Reader
import RecordQuery.Json.Text
import RecordQuery.Proofs.Number.Padded
import RecordQuery.Proofs.Number.Shortest

/-!
# The text of a number

A float is written with the digits of its shortest decimal and with a point, an exponent or both.
Read as a numeral it is the float again, and it is the numeral of no integer. So a number is known
by its text.
-/

namespace RecordQuery

-- ---------------------------------------------------------------------------
-- Reading decimals
-- ---------------------------------------------------------------------------

namespace Numeral

theorem digitsValue_append_zeros (cs : List Char) (z : Nat) :
    digitsValue (cs ++ List.replicate z '0') = digitsValue cs * 10 ^ z := by
  induction z with
  | zero => simp
  | succ z ih =>
    rw [List.replicate_succ', ← List.append_assoc, digitsValue, List.foldl_append,
      ← digitsValue, ih, Nat.pow_succ']
    simp [digitValue]
    ring

/-- A run of digits ends where no digit follows. -/
theorem takeWhile_digits {cs : List Char} (hcs : cs.all isDigit = true) (rest : List Char)
    (hrest : rest.takeWhile isDigit = []) :
    (cs ++ rest).takeWhile isDigit = cs ∧ (cs ++ rest).dropWhile isDigit = rest := by
  have hdigits : ∀ c ∈ cs, isDigit c = true := List.all_eq_true.mp hcs
  have hdrop : rest.dropWhile isDigit = rest := by
    have happend := List.takeWhile_append_dropWhile (p := isDigit) (l := rest)
    rwa [hrest] at happend
  rw [List.takeWhile_append_of_pos hdigits, List.dropWhile_append_of_pos hdigits, hrest, hdrop]
  exact ⟨List.append_nil cs, rfl⟩

section
variable {whole part rest : List Char} (negative : Bool)

theorem decimal?_point (hne : whole ≠ []) (hwhole : whole.all isDigit = true)
    (hpart : part.all isDigit = true) (hrest : rest.takeWhile isDigit = []) :
    decimal? negative (whole ++ '.' :: (part ++ rest)) =
      (exponent? rest).map fun e =>
        Binary64.Extended.ofDecimal negative (digitsValue (whole ++ part)) (e - part.length) := by
  obtain ⟨htake, hdrop⟩ := takeWhile_digits hwhole ('.' :: (part ++ rest)) rfl
  obtain ⟨htake', hdrop'⟩ := takeWhile_digits hpart rest hrest
  unfold decimal?
  simp only [htake, hdrop, htake', hdrop', hne, false_and, if_false]

theorem decimal?_exponent (hne : whole ≠ []) (hwhole : whole.all isDigit = true) :
    decimal? negative (whole ++ 'e' :: rest) =
      (exponent? ('e' :: rest)).map fun e =>
        Binary64.Extended.ofDecimal negative (digitsValue whole) e := by
  obtain ⟨htake, hdrop⟩ := takeWhile_digits hwhole ('e' :: rest) rfl
  unfold decimal?
  simp only [htake, hdrop, hne, false_and, if_false]
  simp

end

end Numeral

-- ---------------------------------------------------------------------------
-- Digits and their place
-- ---------------------------------------------------------------------------

namespace Decimal

/-- The digits, the first of them in this place, are read as the number, however many zeros are
added to them. -/
structure Shows (x : Binary64) (shown : List Char) (place : Int) : Prop where
  nonempty : shown ≠ []
  digits : shown.all Numeral.isDigit = true
  reads (z : Nat) :
    Binary64.Extended.ofDecimal x.negative (Numeral.digitsValue shown * 10 ^ z)
      (place + 1 - shown.length - z) = .finite x

theorem scientific_zero (e : Int) : scientific ⟨0, e⟩ = (['0'], 0) := by
  simp [scientific]

theorem exists_closing_zeros (cs : List Char) :
    ∃ z, cs = (cs.reverse.dropWhile (· == '0')).reverse ++ List.replicate z '0' := by
  refine ⟨(cs.reverse.takeWhile (· == '0')).length, ?_⟩
  have hzeros : cs.reverse.takeWhile (· == '0') =
      List.replicate (cs.reverse.takeWhile (· == '0')).length '0' :=
    List.eq_replicate_iff.mpr ⟨rfl, fun c hc => by simpa using List.mem_takeWhile_imp hc⟩
  rw [← List.reverse_inj, List.reverse_append, List.reverse_reverse, List.reverse_replicate,
    ← hzeros, List.takeWhile_append_dropWhile]

/-- Closing zeros are not shown. -/
theorem scientific_eq {d : Decimal} (h : d.digits ≠ 0) :
    ∃ (shown : List Char) (z : Nat), shown ≠ [] ∧ shown.all Numeral.isDigit = true ∧
      Numeral.digitsValue shown * 10 ^ z = d.digits ∧
      d.scientific = (shown, d.exponent + z + shown.length - 1) := by
  have hdigits := Numeral.all_isDigit_toDigits d.digits
  have hvalue := Numeral.digitsValue_toDigits d.digits
  unfold scientific
  generalize Nat.toDigits 10 d.digits = all at *
  obtain ⟨z, hall⟩ := exists_closing_zeros all
  dsimp only
  generalize (all.reverse.dropWhile (· == '0')).reverse = shown at *
  subst hall
  have hshown : Numeral.digitsValue shown * 10 ^ z = d.digits := by
    rw [← Numeral.digitsValue_append_zeros, hvalue]
  have hne : shown ≠ [] := by
    rintro rfl
    exact h (hshown.symm.trans (Nat.zero_mul _))
  rw [List.all_append, Bool.and_eq_true] at hdigits
  refine ⟨shown, z, hne, hdigits.1, hshown, ?_⟩
  split
  · exact absurd rfl hne
  · rw [List.length_append, List.length_replicate, Prod.mk.injEq]
    exact ⟨rfl, by omega⟩

theorem shows_shortest (x : Binary64) :
    Shows x (Binary64.shortest x.rank).scientific.1 (Binary64.shortest x.rank).scientific.2 := by
  obtain ⟨negative, rank, hfinite⟩ := x
  by_cases hzero : rank = 0
  · subst hzero
    simp only [Binary64.shortest, if_pos, scientific_zero]
    refine ⟨by simp, by decide, fun z => ?_⟩
    rw [show Numeral.digitsValue ['0'] = 0 from rfl, Nat.zero_mul]
    exact if_pos rfl
  · have hrank : 0 < rank := Nat.pos_of_ne_zero hzero
    have hreads := Binary64.reads_shortest hrank hfinite
    obtain ⟨shown, k, hne, hdigits, hvalue, hscientific⟩ :=
      scientific_eq (hreads.digits_ne_zero hrank)
    simp only [hscientific]
    refine ⟨hne, hdigits, fun z => ?_⟩
    have hshown : Binary64.Reads rank
        ⟨Numeral.digitsValue shown, (Binary64.shortest rank).exponent + k⟩ := by
      rw [← Binary64.reads_zeros, hvalue]
      exact hreads
    generalize (Binary64.shortest rank).exponent + k = e at *
    rw [show e + shown.length - 1 + 1 - shown.length - z = e - z by omega]
    refine Binary64.Reads.ofDecimal (Binary64.reads_zeros.mpr ?_) hrank hfinite negative
    rwa [Int.sub_add_cancel]

-- ---------------------------------------------------------------------------
-- Notations
-- ---------------------------------------------------------------------------

/-- The text is a numeral of the number without its sign, and it is not of digits alone. -/
structure Writes (x : Binary64) (text : List Char) : Prop where
  head : ∃ c rest, text = c :: rest ∧ Numeral.isDigit c = true
  reads : Numeral.decimal? x.negative text = some (.finite x)
  marked : text.all Numeral.isDigit = false
  chars : text.all Json.isNumberChar = true

theorem isNumberChar_of_digits {cs : List Char} (h : cs.all Numeral.isDigit = true) :
    cs.all Json.isNumberChar = true := by
  rw [List.all_eq_true] at h ⊢
  intro c hc
  simp [Json.isNumberChar, h c hc]

section
variable {x : Binary64} {shown whole part rest : List Char} {place e : Int}

/-- The digits with a point among them or zeros behind them. -/
theorem Shows.writes_point (h : Shows x shown place) (z : Nat) (hne : whole ≠ [])
    (hwhole : whole.all Numeral.isDigit = true) (hpart : part.all Numeral.isDigit = true)
    (hvalue : Numeral.digitsValue (whole ++ part) = Numeral.digitsValue shown * 10 ^ z)
    (hrest : rest.takeWhile Numeral.isDigit = []) (hexponent : Numeral.exponent? rest = some e)
    (hchars : rest.all Json.isNumberChar = true)
    (hplace : e - part.length = place + 1 - shown.length - z) :
    Writes x (whole ++ '.' :: (part ++ rest)) where
  head := Numeral.head_of_digits hne hwhole _
  reads := by
    rw [Numeral.decimal?_point x.negative hne hwhole hpart hrest, hexponent, Option.map_some,
      hvalue, hplace, h.reads]
  marked := by simp [Numeral.isDigit]
  chars := by
    simp only [List.all_append, List.all_cons, isNumberChar_of_digits hwhole,
      isNumberChar_of_digits hpart, hchars]
    rfl

/-- A whole number is given a point. -/
theorem Shows.writes_positional (h : Shows x shown place) :
    Writes x
      (if (positional shown place).contains '.' then positional shown place
      else positional shown place ++ ['.', '0']) := by
  cases place with
  | negSucc n =>
    -- zeros behind the point
    have hzeros : (List.replicate n '0').all Numeral.isDigit = true :=
      List.all_eq_true.mpr fun c hc => by rw [List.eq_of_mem_replicate hc]; rfl
    have hwrites : Writes x (['0'] ++ '.' :: ((List.replicate n '0' ++ shown) ++ [])) :=
      h.writes_point 0 (by simp) rfl (by simp [hzeros, h.digits])
        (by simpa [List.replicate_succ] using Numeral.digitsValue_zeros (n + 1) shown)
        rfl rfl rfl (by simp; omega)
    simpa [positional] using hwrites
  | ofNat p =>
    by_cases hwhole : shown.length ≤ p + 1
    · -- zeros before the point
      have hdigits : (shown ++ List.replicate (p + 1 - shown.length) '0').all Numeral.isDigit =
          true := by
        rw [List.all_append, h.digits]
        simp [Numeral.isDigit]
      have hpoint : '.' ∉ shown := fun hmem => by
        have := List.all_eq_true.mp h.digits '.' hmem
        cases this
      have hwrites : Writes x
          ((shown ++ List.replicate (p + 1 - shown.length) '0') ++ '.' :: (['0'] ++ [])) :=
        h.writes_point (p + 1 - shown.length + 1) (by simp [h.nonempty]) hdigits rfl
          (by rw [List.append_assoc, ← List.replicate_succ', Numeral.digitsValue_append_zeros])
          rfl rfl rfl (by simp; omega)
      simpa [positional, hwhole, hpoint] using hwrites
    · have hsplit : (shown.take (p + 1)).all Numeral.isDigit = true ∧
          (shown.drop (p + 1)).all Numeral.isDigit = true := by
        rw [← Bool.and_eq_true, ← List.all_append, List.take_append_drop]
        exact h.digits
      have hwrites : Writes x (shown.take (p + 1) ++ '.' :: (shown.drop (p + 1) ++ [])) :=
        h.writes_point 0 (by simp [h.nonempty]) hsplit.1 hsplit.2 (by simp) rfl rfl rfl
          (by simp; omega)
      simpa [positional, hwhole] using hwrites

theorem exponent?_text (place : Int) :
    Numeral.exponent? ('e' :: (if place < 0 then '-' else '+') :: Nat.toDigits 10 place.natAbs) =
      some place := by
  have hdigits := Numeral.digits?_toDigits place.natAbs
  have hread : Numeral.int? ((if place < 0 then '-' else '+') :: Nat.toDigits 10 place.natAbs) =
      some (if place < 0 then -(place.natAbs : Int) else place.natAbs) := by
    by_cases hneg : place < 0 <;> simp [Numeral.int?, Numeral.sign, hneg, hdigits]
  rw [Numeral.exponent?, if_pos (.inl rfl), hread, Option.some.injEq]
  split <;> omega

theorem Shows.writes_exponential (h : Shows x shown place) :
    Writes x (exponential shown place) := by
  have hexponent := exponent?_text place
  have hchars : ('e' :: (if place < 0 then '-' else '+') :: Nat.toDigits 10 place.natAbs).all
      Json.isNumberChar = true := by
    rw [List.all_cons, List.all_cons,
      isNumberChar_of_digits (Numeral.all_isDigit_toDigits place.natAbs)]
    split <;> rfl
  unfold exponential
  dsimp only
  generalize (if place < 0 then '-' else '+') :: Nat.toDigits 10 place.natAbs = rest at *
  match shown, h with
  | [], h => exact absurd rfl h.nonempty
  | [c], h =>
    refine ⟨Numeral.head_of_digits h.nonempty h.digits _, ?_, ?_, ?_⟩
    · have hreads := h.reads 0
      simp only [Nat.pow_zero, Nat.mul_one, List.length_singleton, Nat.cast_one, Nat.cast_zero,
        Int.sub_zero, Int.add_sub_cancel] at hreads
      rw [Numeral.decimal?_exponent x.negative h.nonempty h.digits, hexponent, Option.map_some,
        hreads]
    · simp [Numeral.isDigit]
    · rw [List.all_append, isNumberChar_of_digits h.digits, hchars]
      rfl
  | first :: second :: more, h =>
    have hdigits := h.digits
    rw [List.all_cons, Bool.and_eq_true] at hdigits
    have hwrites : Writes x ([first] ++ '.' :: ((second :: more) ++ 'e' :: rest)) :=
      h.writes_point 0 (List.cons_ne_nil first []) (by simpa using hdigits.1) hdigits.2 (by simp)
        rfl hexponent hchars (by simp)
    exact hwrites

end

end Decimal

-- ---------------------------------------------------------------------------
-- Floats
-- ---------------------------------------------------------------------------

namespace Json

theorem floatText_eq (x : Binary64) :
    ∃ text, Decimal.Writes x text ∧
      floatText x = String.ofList (if x.negative then '-' :: text else text) := by
  have hshows := Decimal.shows_shortest x
  unfold floatText
  generalize (Binary64.shortest x.rank).scientific = parts at *
  obtain ⟨shown, place⟩ := parts
  refine ⟨_, ?_, rfl⟩
  dsimp only at hshows ⊢
  split
  · exact hshows.writes_positional
  · exact hshows.writes_exponential

theorem sign_floatText (x : Binary64) :
    ∃ text, Decimal.Writes x text ∧ Numeral.sign (floatText x).toList = (x.negative, text) := by
  obtain ⟨text, hwrites, htext⟩ := floatText_eq x
  refine ⟨text, hwrites, ?_⟩
  rw [htext, String.toList_ofList, Numeral.sign_of_head hwrites.head]

/-- The text of a float reads back. -/
theorem real?_floatText (x : Binary64) : Numeral.real? (floatText x) = some (.finite x) := by
  obtain ⟨text, hwrites, hsign⟩ := sign_floatText x
  rw [Numeral.real?_of_head hsign hwrites.head, hwrites.reads]

/-- The text of a float is not that of an integer. -/
theorem int?_floatText (x : Binary64) : Numeral.int? (floatText x).toList = none := by
  obtain ⟨text, hwrites, hsign⟩ := sign_floatText x
  rw [Numeral.int?, hsign]
  simp [Numeral.digits?, hwrites.marked]

theorem Number.chars_text (n : Number) :
    n.text.toList ≠ [] ∧ n.text.toList.all isNumberChar = true := by
  cases n with
  | int i =>
    rw [text, Numeral.toList_toString]
    refine ⟨by simp [Nat.toDigits_ne_nil], ?_⟩
    rw [List.all_append, Decimal.isNumberChar_of_digits (Numeral.all_isDigit_toDigits _)]
    split <;> rfl
  | float x =>
    obtain ⟨cs, hwrites, htext⟩ := floatText_eq x
    rw [text, htext, String.toList_ofList]
    have hne : cs ≠ [] := by
      obtain ⟨c, rest, rfl, -⟩ := hwrites.head
      exact List.cons_ne_nil c rest
    split
    · exact ⟨List.cons_ne_nil _ _, by rw [List.all_cons, hwrites.chars]; rfl⟩
    · exact ⟨hne, hwrites.chars⟩

/-- A number is known by its text, an integer and the float of its value included. -/
theorem Number.text_injective : Function.Injective Number.text := by
  intro m n h
  have hint (i : Integer) (x : Binary64) : toString i.val ≠ floatText x := by
    intro heq
    have hread := Numeral.int?_toString i.val
    rw [heq, int?_floatText] at hread
    cases hread
  cases m with
  | int i =>
    cases n with
    | int j =>
      obtain ⟨i, _, _⟩ := i
      obtain rfl : i = j.val := Numeral.toString_injective h
      rfl
    | float y => exact absurd h (hint i y)
  | float x =>
    cases n with
    | int j => exact absurd h.symm (hint j x)
    | float y =>
      have hread := congrArg Numeral.real? h
      simp only [Number.text, real?_floatText, Option.some.injEq,
        Binary64.Extended.finite.injEq] at hread
      rw [hread]

end Json

end RecordQuery
