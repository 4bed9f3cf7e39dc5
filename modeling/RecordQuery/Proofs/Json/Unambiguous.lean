import RecordQuery.Proofs.Json.NumberText

/-!
# A value is known by its JSON text

The first character of a text shows what kind of value it is the text of, and every text ends where
it must: a number where no character of a number follows, a string at the quote that is not
escaped, a list or an object at its bracket. So no two values have one text, whatever follows.
-/

namespace RecordQuery.Json

-- ---------------------------------------------------------------------------
-- Strings
-- ---------------------------------------------------------------------------

theorem hexValue?_hexDigit : ∀ n < 16, hexValue? (hexDigit n) = some n := by decide

theorem readEscapedUnits?_control {c : Char} (h : c.toNat < 32) (rest : List Char) :
    readEscapedUnits? ('0' :: '0' :: hexDigit (c.toNat / 16) :: hexDigit (c.toNat % 16) :: rest) =
      some (c, rest) := by
  have hhigh := hexValue?_hexDigit (c.toNat / 16) (by omega)
  have hlow := hexValue?_hexDigit (c.toNat % 16) (by omega)
  have hzero : hexValue? '0' = some 0 := rfl
  have hcode : c.toNat / 16 * 16 + c.toNat % 16 = c.toNat := Nat.div_add_mod' ..
  simp [readEscapedUnits?, readUnit?, hzero, hhigh, hlow, hcode]
  omega

theorem readQuoted?_escapeChar (c : Char) {fuel : Nat} {rest cs tail : List Char}
    (h : readQuoted? fuel rest = some (cs, tail)) :
    readQuoted? (fuel + 1) (escapeChar c ++ rest) = some (c :: cs, tail) := by
  unfold escapeChar
  split
  · next hc => subst hc; simp [readQuoted?, simpleEscape?, h]
  split
  · next hc => subst hc; simp [readQuoted?, simpleEscape?, h]
  split
  · next hc => subst hc; simp [readQuoted?, simpleEscape?, h]
  split
  · next hc => subst hc; simp [readQuoted?, simpleEscape?, h]
  split
  · next hc => subst hc; simp [readQuoted?, simpleEscape?, h]
  split
  · next hc =>
    obtain rfl : Char.ofNat 8 = c := hc ▸ Char.ofNat_toNat c
    simp [readQuoted?, simpleEscape?, h]
  split
  · next hc =>
    obtain rfl : Char.ofNat 12 = c := hc ▸ Char.ofNat_toNat c
    simp [readQuoted?, simpleEscape?, h]
  split
  · next hc => simp [readQuoted?, readEscapedUnits?_control hc, h]
  · next hbackslash _ _ _ _ _ hc => simp [readQuoted?, hbackslash, hc, h]

theorem readQuoted?_escaped (cs : List Char) (fuel : Nat) (rest : List Char) :
    readQuoted? (fuel + cs.length + 1) (cs.flatMap escapeChar ++ '"' :: rest) =
      some (cs, rest) := by
  induction cs with
  | nil => rfl
  | cons c cs ih =>
    rw [List.flatMap_cons, List.append_assoc]
    exact readQuoted?_escapeChar c ih

theorem toList_quoted (s : String) :
    (quoted s).toList = '"' :: (s.toList.flatMap escapeChar ++ ['"']) := by
  rw [quoted, String.toList_ofList]
  rfl

/-- A quoted text ends at its closing quote. -/
theorem quoted_append_inj {s s' : String} {t t' : List Char}
    (h : (quoted s).toList ++ t = (quoted s').toList ++ t') : s = s' ∧ t = t' := by
  have hread := readQuoted?_escaped s.toList s'.toList.length t
  have hread' := readQuoted?_escaped s'.toList s.toList.length t'
  simp only [toList_quoted, List.cons_append, List.append_assoc, List.nil_append, List.cons.injEq,
    true_and] at h
  rw [h, Nat.add_comm s'.toList.length, hread', Option.some.injEq, Prod.mk.injEq] at hread
  exact ⟨String.toList_inj.mp hread.1.symm, hread.2.symm⟩

theorem quoted_injective : Function.Injective quoted := by
  intro s s' h
  exact (quoted_append_inj (congrArg (fun q : String => q.toList ++ []) h)).1

-- ---------------------------------------------------------------------------
-- Lists
-- ---------------------------------------------------------------------------

/-- No number goes on here. -/
def Stops (s : List Char) : Prop := ∀ c ∈ s.head?, isNumberChar c = false

/-- What is written is known by its text, whatever follows that ends a number. -/
def Known {α : Type} (write : α → List Char) (x : α) : Prop :=
  ∀ y s t, Stops s → Stops t → write x ++ s = write y ++ t → x = y ∧ s = t

theorem stops_cons {c : Char} (h : isNumberChar c = false) (s : List Char) : Stops (c :: s) := by
  rintro d ⟨⟩
  exact h

section
variable {α : Type} (write : α → List Char)

/-- What is written, each with a comma in front. -/
def commas (xs : List α) : List Char := xs.flatMap fun x => ',' :: write x

/-- What is written, with commas between neighbours. -/
def written : List α → List Char
  | [] => []
  | x :: rest => write x ++ commas write rest

variable {write} {close : Char}

theorem stops_commas (hclose : isNumberChar close = false) (xs : List α) (s : List Char) :
    Stops (commas write xs ++ close :: s) := by
  cases xs with
  | nil => exact stops_cons hclose s
  | cons x rest => exact stops_cons rfl _

theorem commas_append_inj (hclose : isNumberChar close = false) (hcomma : close ≠ ',')
    {xs : List α} (hknown : ∀ x ∈ xs, Known write x) {ys : List α} {s t : List Char}
    (h : commas write xs ++ close :: s = commas write ys ++ close :: t) : xs = ys ∧ s = t := by
  induction xs generalizing ys with
  | nil =>
    cases ys with
    | nil => exact ⟨rfl, (List.cons.inj h).2⟩
    | cons y ys => exact absurd (List.cons.inj h).1 hcomma
  | cons x xs ih =>
    cases ys with
    | nil => exact absurd (List.cons.inj h).1.symm hcomma
    | cons y ys =>
      obtain ⟨hx, hxs⟩ := List.forall_mem_cons.mp hknown
      simp only [commas, List.flatMap_cons, List.cons_append, List.append_assoc, List.cons.injEq,
        true_and] at h
      obtain ⟨rfl, hrest⟩ := hx y _ _ (stops_commas hclose xs s) (stops_commas hclose ys t) h
      obtain ⟨rfl, rfl⟩ := ih hxs hrest
      exact ⟨rfl, rfl⟩

/-- A list is known by its text up to the closing bracket when its members are known by theirs and
none of them begins with that bracket. -/
theorem written_append_inj (hclose : isNumberChar close = false) (hcomma : close ≠ ',')
    (hhead : ∀ (x : α) (s : List Char), (write x ++ s).head? ≠ some close)
    {xs : List α} (hknown : ∀ x ∈ xs, Known write x) {ys : List α} {s t : List Char}
    (h : written write xs ++ close :: s = written write ys ++ close :: t) : xs = ys ∧ s = t := by
  cases xs with
  | nil =>
    cases ys with
    | nil => exact ⟨rfl, (List.cons.inj h).2⟩
    | cons y ys =>
      rw [written, written, List.append_assoc] at h
      exact absurd (congrArg List.head? h).symm (hhead y _)
  | cons x xs =>
    cases ys with
    | nil =>
      rw [written, written, List.append_assoc] at h
      exact absurd (congrArg List.head? h) (hhead x _)
    | cons y ys =>
      obtain ⟨hx, hxs⟩ := List.forall_mem_cons.mp hknown
      rw [written, written, List.append_assoc, List.append_assoc] at h
      obtain ⟨rfl, hrest⟩ := hx y _ _ (stops_commas hclose xs s) (stops_commas hclose ys t) h
      obtain ⟨rfl, rfl⟩ := commas_append_inj hclose hcomma hxs hrest
      exact ⟨rfl, rfl⟩

end

-- ---------------------------------------------------------------------------
-- Values
-- ---------------------------------------------------------------------------

/-- The text of a value as characters. -/
def chars (v : Json) : List Char := v.text.toList

def memberChars (m : String × Json) : List Char := (quoted m.1).toList ++ ':' :: m.2.chars

theorem toList_itemsText (items : List Json) : (itemsText items).toList = written chars items := by
  induction items with
  | nil => rfl
  | cons x rest ih =>
    cases rest with
    | nil => simp [itemsText, written, commas, chars]
    | cons y rest =>
      rw [itemsText, String.toList_append, String.toList_append, ih, List.append_assoc]
      · rfl
      · exact List.cons_ne_nil y rest

theorem toList_membersText (members : List (String × Json)) :
    (membersText members).toList = written memberChars members := by
  induction members with
  | nil => rfl
  | cons m rest ih =>
    obtain ⟨k, x⟩ := m
    cases rest with
    | nil => simp [membersText, written, commas, memberChars, chars]
    | cons m' rest =>
      rw [membersText, String.toList_append, ih]
      · simp [written, commas, memberChars, chars]
      · exact List.cons_ne_nil m' rest

theorem chars_array (items : List Json) :
    (Json.array items).chars = '[' :: (written chars items ++ [']']) := by
  simp [chars, text, ← toList_itemsText]

theorem chars_object (members : List (String × Json)) :
    (Json.object members).chars = '\x7b' :: (written memberChars members ++ ['\x7d']) := by
  simp [chars, text, ← toList_membersText]

/-- What a value is, as its first character shows. -/
inductive Form
  | null
  | boolean
  | number
  | string
  | array
  | object

def form : Json → Form
  | .null => .null
  | .bool _ => .boolean
  | .number _ => .number
  | .string _ => .string
  | .array _ => .array
  | .object _ => .object

def formOf? (c : Char) : Option Form :=
  if isNumberChar c then some .number
  else
    match c with
    | 'n' => some .null
    | 't' => some .boolean
    | 'f' => some .boolean
    | '"' => some .string
    | '[' => some .array
    | '\x7b' => some .object
    | _ => none

theorem formOf?_head (v : Json) : v.chars.head?.bind formOf? = some v.form := by
  cases v with
  | null => rfl
  | bool b => cases b <;> rfl
  | number n =>
    obtain ⟨hne, hall⟩ := n.chars_text
    rw [chars, text]
    cases hchars : n.text.toList with
    | nil => exact absurd hchars hne
    | cons c rest =>
      rw [hchars, List.all_cons, Bool.and_eq_true] at hall
      exact if_pos hall.1
  | string s => rw [chars, text, toList_quoted]; rfl
  | array items => rw [chars_array]; rfl
  | object members => rw [chars_object]; rfl

theorem form_eq_of_append_eq {v w : Json} {s t : List Char} (h : v.chars ++ s = w.chars ++ t) :
    v.form = w.form := by
  have hv := formOf?_head v
  have hw := formOf?_head w
  cases hvc : v.chars with
  | nil => simp [hvc] at hv
  | cons c rest =>
    cases hwc : w.chars with
    | nil => simp [hwc] at hw
    | cons d rest' =>
      rw [hvc, hwc] at h
      obtain rfl : c = d := (List.cons.inj h).1
      rw [hvc] at hv
      rw [hwc] at hw
      exact Option.some.inj (hv.symm.trans hw)

/-- A number ends where no character of a number follows. -/
theorem known_number (n : Number) : Known (fun n : Number => n.text.toList) n := by
  intro m s t hs ht h
  have hsplit (n : Number) {s : List Char} (hs : Stops s) :
      (n.text.toList ++ s).takeWhile isNumberChar = n.text.toList := by
    have hnone : s.takeWhile isNumberChar = [] := by
      cases s with
      | nil => rfl
      | cons c rest => exact List.takeWhile_cons_of_neg (by simp [hs c rfl])
    rw [List.takeWhile_append_of_pos (List.all_eq_true.mp n.chars_text.2), hnone, List.append_nil]
  have htext : n.text.toList = m.text.toList := by
    have htake := congrArg (List.takeWhile isNumberChar) h
    rwa [hsplit n hs, hsplit m ht] at htake
  refine ⟨Number.text_injective (String.toList_inj.mp htext), ?_⟩
  dsimp only at h
  rwa [htext, List.append_cancel_left_eq] at h

theorem known_member {m : String × Json} (h : Known chars m.2) : Known memberChars m := by
  rintro ⟨k, y⟩ s t hs ht heq
  simp only [memberChars, List.append_assoc, List.cons_append] at heq
  obtain ⟨hk, hrest⟩ := quoted_append_inj heq
  obtain ⟨hx, rfl⟩ := h y s t hs ht (List.cons.inj hrest).2
  exact ⟨Prod.ext hk hx, rfl⟩

theorem chars_head_ne_bracket (v : Json) (s : List Char) : (v.chars ++ s).head? ≠ some ']' := by
  have hv := formOf?_head v
  cases hvc : v.chars with
  | nil => simp [hvc] at hv
  | cons c rest =>
    rintro ⟨⟩
    rw [hvc] at hv
    cases hv

/-- A value is known by its JSON text, whatever follows that ends a number. -/
theorem known (v : Json) : Known chars v := by
  induction v using induct with
  | null =>
    intro w s t _ _ h
    have hform := form_eq_of_append_eq h
    cases w with
    | null => exact ⟨rfl, List.append_cancel_left h⟩
    | _ => cases hform
  | bool b =>
    intro w s t _ _ h
    have hform := form_eq_of_append_eq h
    cases w with
    | bool b' =>
      have hhead : (chars (.bool b)).head? = (chars (.bool b')).head? := by
        have hfirst := congrArg List.head? h
        cases b <;> cases b' <;> exact hfirst
      obtain rfl : b = b' := by cases b <;> cases b' <;> first | rfl | cases hhead
      exact ⟨rfl, List.append_cancel_left h⟩
    | _ => cases hform
  | number n =>
    intro w s t hs ht h
    have hform := form_eq_of_append_eq h
    cases w with
    | number m =>
      obtain ⟨rfl, rfl⟩ := known_number n m s t hs ht (by simpa [chars, text] using h)
      exact ⟨rfl, rfl⟩
    | _ => cases hform
  | string c =>
    intro w s t _ _ h
    have hform := form_eq_of_append_eq h
    cases w with
    | string c' =>
      obtain ⟨rfl, rfl⟩ := quoted_append_inj (by simpa [chars, text] using h)
      exact ⟨rfl, rfl⟩
    | _ => cases hform
  | array items ih =>
    intro w s t _ _ h
    have hform := form_eq_of_append_eq h
    cases w with
    | array items' =>
      rw [chars_array, chars_array, List.cons_append, List.cons_append, List.append_assoc,
        List.append_assoc] at h
      obtain ⟨rfl, rfl⟩ := written_append_inj rfl (by decide) chars_head_ne_bracket ih
        (List.cons.inj h).2
      exact ⟨rfl, rfl⟩
    | _ => cases hform
  | object members ih =>
    intro w s t _ _ h
    have hform := form_eq_of_append_eq h
    cases w with
    | object members' =>
      rw [chars_object, chars_object, List.cons_append, List.cons_append, List.append_assoc,
        List.append_assoc] at h
      have hhead (m : String × Json) (s : List Char) :
          (memberChars m ++ s).head? ≠ some '\x7d' := by
        rw [memberChars, toList_quoted]
        rintro ⟨⟩
      obtain ⟨rfl, rfl⟩ := written_append_inj rfl (by decide) hhead
        (fun m hm => known_member (ih m hm)) (List.cons.inj h).2
      exact ⟨rfl, rfl⟩
    | _ => cases hform

/-- No two values have one JSON text. -/
theorem text_injective : Function.Injective text := by
  intro v w h
  have hstops : Stops [] := by
    rintro c ⟨⟩
  exact (known v w [] [] hstops hstops (congrArg (fun s : String => s.toList ++ []) h)).1

end RecordQuery.Json
