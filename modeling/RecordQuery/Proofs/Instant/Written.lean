import RecordQuery.Proofs.Instant.Calendar
import RecordQuery.Proofs.Number.Padded

/-!
# Written times

The notations in which a point of time is written, and that each is read as the time it denotes.
The readers are tried in turn, so of each notation it is shown which readers refuse it before one
reads it.
-/

namespace RecordQuery.Instant

open Numeral (padded)

def Date.text (d : Date) : List Char :=
  padded 4 d.year ++ '-' :: (padded 2 d.month ++ '-' :: padded 2 d.day)

def Clock.text (t : Clock) : List Char :=
  padded 2 t.hour ++ ':' :: (padded 2 t.minute ++ ':' :: padded 2 t.second)

/-- The nanoseconds of a second: nothing for none, or at most nine digits behind a point. -/
inductive Fraction : Nat → List Char → Prop
  | whole : Fraction 0 []
  | digits {width n : Nat} : 1 ≤ width → width ≤ 9 → n < 10 ^ width →
      Fraction (n * 10 ^ (9 - width)) ('.' :: padded width n)

/-- How far a local time is ahead of universal time or behind it. -/
structure Offset where
  ahead : Bool
  hours : Nat
  minutes : Nat
  hours_lt : hours < 24
  minutes_lt : minutes < 60

def Offset.text (o : Offset) : List Char :=
  (if o.ahead then '+' else '-') :: (padded 2 o.hours ++ ':' :: padded 2 o.minutes)

def Offset.seconds (o : Offset) : Int :=
  if o.ahead then o.hours * 3600 + o.minutes * 60 else -(o.hours * 3600 + o.minutes * 60)

/-- The text denotes the moment, which is counted in nanoseconds. Without offset it is in
universal time, a date alone is its midnight. -/
inductive Written : List Char → Int → Prop
  | civil (d : Date) (t : Clock) {divider : Char} {f : List Char} :
      divider = 'T' ∨ divider = ' ' → Fraction t.nano f →
      Written (d.text ++ divider :: (t.text ++ f)) (moment d t)
  | universal (d : Date) (t : Clock) {f : List Char} : Fraction t.nano f →
      Written (d.text ++ 'T' :: (t.text ++ (f ++ ['Z']))) (moment d t)
  | zoned (d : Date) (t : Clock) (o : Offset) {f : List Char} : Fraction t.nano f →
      Written (d.text ++ 'T' :: (t.text ++ (f ++ o.text))) (moment d t - o.seconds * 1000000000)
  | midnight (d : Date) : Written d.text (moment d .midnight)

/-- Blanks may surround what is written. -/
def Denotes (s : String) (m : Int) : Prop :=
  ∃ before cs after, (∀ c ∈ before, Text.isBlank c = true) ∧ (∀ c ∈ after, Text.isBlank c = true) ∧
    s.toList = before ++ (cs ++ after) ∧ Written cs m

-- ---------------------------------------------------------------------------
-- Parts
-- ---------------------------------------------------------------------------

theorem bind_of_eq_some {x : Option α} {a : α} (h : x = some a) (f : α → Option β) :
    (x >>= f) = f a := by
  rw [h]
  rfl

theorem readChar?_cons (c : Char) (rest : List Char) : readChar? c (c :: rest) = some rest :=
  if_pos rfl

section
variable {n low : Nat} (rest : List Char)

theorem readDigits?_four (hn : n < 10000) (hlow : low ≤ 4) :
    readDigits? low 4 (padded 4 n ++ rest) = some (n, rest) :=
  readDigits?_padded hlow (by decide) hn rest

theorem readDigits?_two (hn : n < 100) (hlow : low ≤ 2) :
    readDigits? low 2 (padded 2 n ++ rest) = some (n, rest) :=
  readDigits?_padded hlow (by decide) hn rest

theorem readShort?_two (hn : n < 100) : readShort? (padded 2 n ++ rest) = some (n, rest) := by
  rw [readShort?, skipBlanks_padded]
  exact readDigits?_two rest hn (by decide)

theorem readYear?_four (hn : n < 10000) :
    readYear? (padded 4 n ++ rest) = some ((n : Int), rest) := by
  obtain ⟨c, cs, hcons, hc⟩ := Numeral.padded_eq_cons 4 n
  have hread : readDigits? 1 4 (padded 4 n ++ rest) = some (n, rest) :=
    readDigits?_four rest hn (by decide)
  rw [readYear?, skipBlanks_padded]
  rw [hcons] at hread ⊢
  split
  · next heq => cases heq; cases hc
  · next heq => cases heq; cases hc
  · rw [hread]
    rfl

end

/-- What follows a fraction cannot be taken for a part of it. -/
theorem readFraction?_text {nano : Nat} {f : List Char} (hf : Fraction nano f) (tail : List Char)
    (htail : ∀ c ∈ tail.head?, Numeral.isDigit c = false ∧ c ≠ '.') :
    readFraction? (f ++ tail) = some (nano, tail) := by
  have htake : tail.takeWhile Numeral.isDigit = [] ∧ tail.dropWhile Numeral.isDigit = tail := by
    cases tail with
    | nil => exact ⟨rfl, rfl⟩
    | cons c rest => simp [(htail c rfl).1]
  cases hf with
  | whole =>
    rw [List.nil_append]
    unfold readFraction?
    split
    · exact absurd rfl (htail '.' rfl).2
    · rfl
  | @digits width n hpos hle hn =>
    have hdigits : ∀ c ∈ padded width n, Numeral.isDigit c = true :=
      fun c => Numeral.isDigit_of_mem_padded
    have hlength := Numeral.length_padded hpos hn
    have hrun : (padded width n ++ tail).takeWhile Numeral.isDigit = padded width n := by
      rw [List.takeWhile_append_of_pos hdigits, htake.1, List.append_nil]
    have hrest : (padded width n ++ tail).dropWhile Numeral.isDigit = tail := by
      rw [List.dropWhile_append_of_pos hdigits, htake.2]
    have hkept : (padded width n).take 9 = padded width n :=
      List.take_of_length_le (hlength.trans_le hle)
    simp only [List.cons_append, readFraction?, hrun, hrest, hkept, hlength,
      Numeral.digitsValue_padded, if_neg (Numeral.padded_ne_nil width n)]
    rfl

theorem readFraction?_end {nano : Nat} {f : List Char} (hf : Fraction nano f) :
    readFraction? f = some (nano, []) := by
  have hread := readFraction?_text hf [] (by simp)
  rwa [List.append_nil] at hread

theorem readOffset?_text (o : Offset) : readOffset? o.text = some (o.seconds, []) := by
  have hhours := o.hours_lt
  have hminutes := o.minutes_lt
  have hfirst (rest : List Char) : readDigits? 2 2 (padded 2 o.hours ++ rest) =
      some (o.hours, rest) := readDigits?_two rest (hhours.trans (by decide)) le_rfl
  have hlast : readDigits? 2 2 (padded 2 o.minutes ++ []) = some (o.minutes, []) :=
    readDigits?_two [] (hminutes.trans (by decide)) le_rfl
  rw [List.append_nil] at hlast
  unfold Offset.text Offset.seconds
  cases o.ahead <;>
    simp [readOffset?, hfirst, hlast, readChar?_cons, hhours, hminutes]

-- ---------------------------------------------------------------------------
-- Stamps
-- ---------------------------------------------------------------------------

section
variable (d : Date) (t : Clock)

theorem ofStamp?_text {divider : Char} {f tail : List Char}
    (hdivider : divider = 'T' ∨ divider = ' ')
    (hf : readFraction? (f ++ tail) = some (t.nano, tail)) :
    ofStamp? (d.text ++ divider :: (t.text ++ (f ++ tail))) =
      (readOffset? tail).bind fun (offset, cs) =>
        if cs ≠ [] then none else some ((civil d t).minusSeconds offset) := by
  obtain ⟨hhour, hminute, hsecond⟩ := t.two_digits
  have hread (rest : List Char) : ofStamp?.readDivider? (divider :: rest) = some rest := by
    rcases hdivider with rfl | rfl <;> rfl
  simp only [Date.text, Clock.text, List.append_assoc, List.cons_append]
  -- one step for each part that is read, from left to right
  refine (bind_of_eq_some (readDigits?_four _ d.year_lt le_rfl) _).trans ?_
  refine (bind_of_eq_some (readChar?_cons ..) _).trans ?_
  refine (bind_of_eq_some (readDigits?_two _ d.month_lt le_rfl) _).trans ?_
  refine (bind_of_eq_some (readChar?_cons ..) _).trans ?_
  refine (bind_of_eq_some (readDigits?_two _ d.day_lt le_rfl) _).trans ?_
  refine (bind_of_eq_some (hread _) _).trans ?_
  refine (bind_of_eq_some (readDigits?_two _ hhour le_rfl) _).trans ?_
  refine (bind_of_eq_some (readChar?_cons ..) _).trans ?_
  refine (bind_of_eq_some (readDigits?_two _ hminute le_rfl) _).trans ?_
  refine (bind_of_eq_some (readChar?_cons ..) _).trans ?_
  refine (bind_of_eq_some (readDigits?_two _ hsecond le_rfl) _).trans ?_
  refine (bind_of_eq_some hf _).trans ?_
  simp only [ofCivil?_civil]
  rfl

section
variable {f : List Char} (hf : Fraction t.nano f)
include hf

/-- Without an offset at its end a stamp is refused. -/
theorem ofStamp?_open {divider : Char} (hdivider : divider = 'T' ∨ divider = ' ') :
    ofStamp? (d.text ++ divider :: (t.text ++ f)) = none := by
  have hfraction := readFraction?_text hf [] (by simp)
  have hstamp := ofStamp?_text d t hdivider hfraction
  rwa [List.append_nil] at hstamp

theorem ofStamp?_universal : ofStamp? (d.text ++ 'T' :: (t.text ++ (f ++ ['Z']))) =
    some ((civil d t).minusSeconds 0) := by
  have hfraction := readFraction?_text hf ['Z'] (by simp [Numeral.isDigit])
  rw [ofStamp?_text d t (.inl rfl) hfraction]
  rfl

theorem ofStamp?_zoned (o : Offset) : ofStamp? (d.text ++ 'T' :: (t.text ++ (f ++ o.text))) =
    some ((civil d t).minusSeconds o.seconds) := by
  have hsign : ∀ c ∈ o.text.head?, Numeral.isDigit c = false ∧ c ≠ '.' := by
    unfold Offset.text
    cases o.ahead <;> simp [Numeral.isDigit]
  rw [ofStamp?_text d t (.inl rfl) (readFraction?_text hf o.text hsign), readOffset?_text]
  rfl

end

theorem ofStamp?_date : ofStamp? d.text = none := by
  have hday : readDigits? 2 2 (padded 2 d.day ++ []) = some (d.day, []) :=
    readDigits?_two [] d.day_lt le_rfl
  rw [List.append_nil] at hday
  refine (bind_of_eq_some (readDigits?_four _ d.year_lt le_rfl) _).trans ?_
  refine (bind_of_eq_some (readChar?_cons ..) _).trans ?_
  refine (bind_of_eq_some (readDigits?_two _ d.month_lt le_rfl) _).trans ?_
  refine (bind_of_eq_some (readChar?_cons ..) _).trans ?_
  exact (bind_of_eq_some hday _).trans rfl

-- ---------------------------------------------------------------------------
-- Dates and times without offset
-- ---------------------------------------------------------------------------

theorem readDate?_text (rest : List Char) :
    readDate? (d.text ++ rest) = some (((d.year : Int), d.month, d.day), rest) := by
  simp only [Date.text, List.append_assoc, List.cons_append]
  refine (bind_of_eq_some (readYear?_four _ d.year_lt) _).trans ?_
  refine (bind_of_eq_some (readChar?_cons ..) _).trans ?_
  refine (bind_of_eq_some (readShort?_two _ d.month_lt) _).trans ?_
  refine (bind_of_eq_some (readChar?_cons ..) _).trans ?_
  exact (bind_of_eq_some (readShort?_two _ d.day_lt) _).trans rfl

theorem ofDateText?_text : ofDateText? d.text = some (civil d .midnight) := by
  have hdate := readDate?_text d []
  rw [List.append_nil] at hdate
  exact (bind_of_eq_some hdate _).trans (ofCivil?_civil d .midnight)

variable {divider : List Char → Option (List Char)} {rest : List Char}

theorem ofCivilText?_text {f : List Char} (hf : Fraction t.nano f)
    (hdivider : divider rest = some (t.text ++ f)) :
    ofCivilText? divider (d.text ++ rest) = some (civil d t) := by
  obtain ⟨hhour, hminute, hsecond⟩ := t.two_digits
  simp only [Clock.text, List.append_assoc, List.cons_append] at hdivider
  refine (bind_of_eq_some (readDate?_text d _) _).trans ?_
  refine (bind_of_eq_some hdivider _).trans ?_
  refine (bind_of_eq_some (readShort?_two _ hhour) _).trans ?_
  refine (bind_of_eq_some (readChar?_cons ..) _).trans ?_
  refine (bind_of_eq_some (readShort?_two _ hminute) _).trans ?_
  refine (bind_of_eq_some (readChar?_cons ..) _).trans ?_
  refine (bind_of_eq_some (readShort?_two _ hsecond) _).trans ?_
  exact (bind_of_eq_some (readFraction?_end hf) _).trans (ofCivil?_civil d t)

theorem ofCivilText?_spaced {f : List Char} (hf : Fraction t.nano f) :
    ofCivilText? (fun cs => some (skipBlanks cs)) (d.text ++ ' ' :: (t.text ++ f)) =
      some (civil d t) := by
  have hskip : some (skipBlanks (' ' :: (t.text ++ f))) = some (t.text ++ f) := by
    simp only [Clock.text, List.append_assoc, Option.some.injEq]
    exact skipBlanks_padded ..
  exact ofCivilText?_text d t hf hskip

/-- A date with no hour behind the divider is refused. -/
theorem ofCivilText?_refuses (h : (divider rest).bind readShort? = none) :
    ofCivilText? divider (d.text ++ rest) = none := by
  refine (bind_of_eq_some (readDate?_text d _) _).trans ?_
  cases hdivider : divider rest with
  | none => simp [hdivider]
  | some cs =>
    rw [hdivider, Option.bind_some] at h
    simp [hdivider, h]

end

-- ---------------------------------------------------------------------------
-- Blanks around a notation
-- ---------------------------------------------------------------------------

theorem solid_padded (width n : Nat) : ∀ c ∈ padded width n, Text.isBlank c = false :=
  fun _ hc => Numeral.isBlank_of_isDigit (Numeral.isDigit_of_mem_padded hc)

theorem Date.text_solid (d : Date) : ∀ c ∈ d.text, Text.isBlank c = false := by
  simp only [Date.text, List.forall_mem_append, List.forall_mem_cons]
  exact ⟨solid_padded _ _, rfl, solid_padded _ _, rfl, solid_padded _ _⟩

theorem Clock.text_solid (t : Clock) : ∀ c ∈ t.text, Text.isBlank c = false := by
  simp only [Clock.text, List.forall_mem_append, List.forall_mem_cons]
  exact ⟨solid_padded _ _, rfl, solid_padded _ _, rfl, solid_padded _ _⟩

theorem Clock.text_ne_nil (t : Clock) : t.text ≠ [] :=
  List.append_ne_nil_of_left_ne_nil (Numeral.padded_ne_nil 2 t.hour) _

theorem Fraction.solid {nano : Nat} {f : List Char} (hf : Fraction nano f) :
    ∀ c ∈ f, Text.isBlank c = false := by
  cases hf with
  | whole => simp
  | digits => exact List.forall_mem_cons.mpr ⟨rfl, solid_padded _ _⟩

theorem Offset.text_solid (o : Offset) : ∀ c ∈ o.text, Text.isBlank c = false := by
  simp only [Offset.text, List.forall_mem_append, List.forall_mem_cons]
  refine ⟨?_, solid_padded _ _, rfl, solid_padded _ _⟩
  cases o.ahead <;> rfl

section
variable (d : Date) {before after : List Char} (hbefore : ∀ c ∈ before, Text.isBlank c = true)
  (hafter : ∀ c ∈ after, Text.isBlank c = true)
include hbefore hafter

/-- A text that starts with a date has a digit at its front. -/
theorem trimChars_date (rest : List Char)
    (hlast : ∀ c ∈ (d.text ++ rest).getLast?, Text.isBlank c = false) :
    Text.trimChars (before ++ ((d.text ++ rest) ++ after)) = d.text ++ rest := by
  refine Text.trimChars_surrounded hbefore hafter ?_ hlast
  obtain ⟨c, cs, hcons, hc⟩ := Numeral.padded_eq_cons 4 d.year
  simp [Date.text, hcons, Numeral.isBlank_of_isDigit hc]

theorem trimChars_date_clock (t : Clock) (divider : Char) {f : List Char}
    (hf : ∀ c ∈ f, Text.isBlank c = false) :
    Text.trimChars (before ++ ((d.text ++ divider :: (t.text ++ f)) ++ after)) =
      d.text ++ divider :: (t.text ++ f) := by
  refine trimChars_date d hbefore hafter _ fun c hc => ?_
  have hne : t.text ++ f ≠ [] := List.append_ne_nil_of_left_ne_nil t.text_ne_nil f
  rw [List.append_cons, List.getLast?_append_of_ne_nil _ hne] at hc
  exact List.forall_mem_append.mpr ⟨t.text_solid, hf⟩ c (List.mem_of_mem_getLast? hc)

end

/-- Inside the blanks a notation is found as it was written. -/
theorem Written.trimmed {cs before after : List Char} {m : Int} (h : Written cs m)
    (hbefore : ∀ c ∈ before, Text.isBlank c = true)
    (hafter : ∀ c ∈ after, Text.isBlank c = true) :
    Text.trimChars (before ++ (cs ++ after)) = cs := by
  cases h with
  | civil d t hdivider hf => exact trimChars_date_clock d hbefore hafter t _ hf.solid
  | universal d t hf =>
    refine trimChars_date_clock d hbefore hafter t _ ?_
    exact List.forall_mem_append.mpr ⟨hf.solid, by simp [Text.isBlank]⟩
  | zoned d t o hf =>
    refine trimChars_date_clock d hbefore hafter t _ ?_
    exact List.forall_mem_append.mpr ⟨hf.solid, o.text_solid⟩
  | midnight d =>
    have htrim := trimChars_date d hbefore hafter []
    rw [List.append_nil] at htrim
    exact htrim fun c hc => d.text_solid c (List.mem_of_mem_getLast? hc)

-- ---------------------------------------------------------------------------
-- The readers in turn
-- ---------------------------------------------------------------------------

/-- Each notation is read as an instant of the moment that it denotes. -/
theorem parse?_of_written {s : String} {cs : List Char} {m : Int} (h : Written cs m)
    (htrim : Text.trimChars s.toList = cs) :
    ∃ i, parse? s = some i ∧ i.Regular ∧ i.nanos = m := by
  simp only [parse?, htrim]
  cases h with
  | civil d t hdivider hf =>
    refine ⟨civil d t, ?_, civil_regular d t, nanos_civil d t⟩
    rw [ofStamp?_open d t hf hdivider]
    rcases hdivider with rfl | rfl
    · rw [ofCivilText?_refuses d rfl, ofCivilText?_text d t hf (readChar?_cons ..)]
      rfl
    · rw [ofCivilText?_spaced d t hf]
      rfl
  | universal d t hf =>
    refine ⟨(civil d t).minusSeconds 0, ?_, (civil_regular d t).minusSeconds 0, ?_⟩
    · rw [ofStamp?_universal d t hf]
      rfl
    · rw [nanos_minusSeconds, nanos_civil, zero_mul, sub_zero]
  | zoned d t o hf =>
    refine ⟨(civil d t).minusSeconds o.seconds, ?_, (civil_regular d t).minusSeconds _, ?_⟩
    · rw [ofStamp?_zoned d t hf]
      rfl
    · rw [nanos_minusSeconds, nanos_civil]
  | midnight d =>
    have hcivil (divider : List Char → Option (List Char))
        (h : (divider []).bind readShort? = none) : ofCivilText? divider d.text = none := by
      have hrefuses := ofCivilText?_refuses d h
      rwa [List.append_nil] at hrefuses
    refine ⟨civil d .midnight, ?_, civil_regular d _, nanos_civil d _⟩
    rw [ofStamp?_date, hcivil _ rfl, hcivil _ rfl, ofDateText?_text]
    rfl

theorem parse?_of_denotes {s : String} {m : Int} (h : Denotes s m) :
    ∃ i, parse? s = some i ∧ i.Regular ∧ i.nanos = m := by
  obtain ⟨before, cs, after, hbefore, hafter, htext, hwritten⟩ := h
  refine parse?_of_written hwritten ?_
  rw [htext]
  exact hwritten.trimmed hbefore hafter

end RecordQuery.Instant
