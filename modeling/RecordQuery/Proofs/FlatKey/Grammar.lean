import RecordQuery.FlatKey

/-!
# The grammar of flat keys

What a key can mean is said here without a reader: it is a field of the schema, or it is an
identifier, two underscores and the word of a flat operator, or it is neither. No word of an
operator holds two underscores or starts with one, so the last two of a key divide it in the
only possible way, whatever underscores the identifier has. The reader decides this grammar,
and its two errors part the remaining keys.
-/

namespace RecordQuery

namespace FlatKey

/-- Letters, digits and underscores, one at least. -/
def Identifier (name : String) : Prop :=
  name ≠ "" ∧ ∀ c ∈ name.toList, Text.isAlphanumeric c = true ∨ c = '_'

/-- Two underscores stand somewhere in the key. -/
def Divided (key : String) : Prop := ∃ front back, key = front ++ "__" ++ back

/-- The key is an identifier, two underscores and the word of a flat operator. -/
structure Suffixed (key field : String) (op : Operator) : Prop where
  key_eq : key = field ++ "__" ++ op.word
  flat : op ∈ Operator.flat
  identifier : Identifier field

theorem isIdentifier_iff {name : String} : isIdentifier name = true ↔ Identifier name := by
  simp [isIdentifier, Identifier]

-- ---------------------------------------------------------------------------
-- The last separator
-- ---------------------------------------------------------------------------

theorem splitLast?_cons_of_some {c : Char} {rest front back : List Char}
    (h : splitLast? rest = some (front, back)) :
    splitLast? (c :: rest) = some (c :: front, back) := by
  unfold splitLast?
  rw [h]

theorem splitLast?_separator {back : List Char} (h : splitLast? ('_' :: back) = none) :
    splitLast? ('_' :: '_' :: back) = some ([], back) := by
  unfold splitLast?
  simp only [h]

theorem append_of_splitLast? {cs front back : List Char} (h : splitLast? cs = some (front, back)) :
    cs = front ++ '_' :: '_' :: back := by
  induction cs generalizing front with
  | nil => cases h
  | cons c rest ih =>
    unfold splitLast? at h
    split at h
    · next hrest =>
      cases h
      rw [ih hrest]
      rfl
    · split at h
      · cases h
        rfl
      · cases h

/-- Wherever two underscores stand, some last two are found. -/
theorem splitLast?_append_ne_none (front back : List Char) :
    splitLast? (front ++ '_' :: '_' :: back) ≠ none := by
  induction front with
  | nil =>
    rw [List.nil_append]
    cases h : splitLast? ('_' :: back) with
    | none => simp [splitLast?_separator h]
    | some parts => simp [splitLast?_cons_of_some h]
  | cons c front ih =>
    obtain ⟨⟨before, after⟩, hsplit⟩ := Option.ne_none_iff_exists'.mp ih
    rw [List.cons_append, splitLast?_cons_of_some hsplit]
    simp

/-- What stands before the last separator is arbitrary, underscores included. -/
theorem splitLast?_append {back : List Char} (h : splitLast? ('_' :: back) = none)
    (front : List Char) : splitLast? (front ++ '_' :: '_' :: back) = some (front, back) := by
  induction front with
  | nil => exact splitLast?_separator h
  | cons c front ih => exact splitLast?_cons_of_some ih

theorem divided_iff {key : String} : Divided key ↔ splitLast? key.toList ≠ none := by
  constructor
  · rintro ⟨front, back, rfl⟩
    have hlist : (front ++ "__" ++ back).toList = front.toList ++ '_' :: '_' :: back.toList := by
      simp
    rw [hlist]
    exact splitLast?_append_ne_none _ _
  · intro h
    obtain ⟨⟨front, back⟩, hsplit⟩ := Option.ne_none_iff_exists'.mp h
    refine ⟨String.ofList front, String.ofList back, String.toList_injective ?_⟩
    simp [append_of_splitLast? hsplit]

-- ---------------------------------------------------------------------------
-- Suffixes
-- ---------------------------------------------------------------------------

theorem ofSuffix?_eq_some {s : String} {op : Operator} :
    Operator.ofSuffix? s = some op ↔ op ∈ Operator.flat ∧ op.word = s := by
  constructor
  · intro h
    exact ⟨List.mem_of_find?_eq_some h, by simpa using List.find?_some h⟩
  · rintro ⟨hflat, rfl⟩
    cases op <;> first | rfl | simp [Operator.flat] at hflat

/-- A word after an underscore holds no separator, though some words hold underscores. -/
theorem splitLast?_word (op : Operator) : splitLast? ('_' :: op.word.toList) = none := by
  cases op <;> decide

theorem Suffixed.splitLast? {key field : String} {op : Operator} (h : Suffixed key field op) :
    splitLast? key.toList = some (field.toList, op.word.toList) := by
  have hlist : key.toList = field.toList ++ '_' :: '_' :: op.word.toList := by
    simp [h.key_eq]
  rw [hlist, splitLast?_append (splitLast?_word op)]

/-- A key is divided into an identifier and a suffix in one way at most. -/
theorem Suffixed.unique {key f g : String} {op op' : Operator} (h : Suffixed key f op)
    (h' : Suffixed key g op') : f = g ∧ op = op' := by
  have hsplit := h.splitLast?.symm.trans h'.splitLast?
  rw [Option.some.injEq, Prod.mk.injEq, String.toList_inj, String.toList_inj] at hsplit
  obtain ⟨hfield, hword⟩ := hsplit
  have hop : Operator.ofSuffix? op.word = some op := ofSuffix?_eq_some.mpr ⟨h.flat, rfl⟩
  rw [hword, ofSuffix?_eq_some.mpr ⟨h'.flat, rfl⟩, Option.some.injEq] at hop
  exact ⟨hfield, hop.symm⟩

-- ---------------------------------------------------------------------------
-- The reader
-- ---------------------------------------------------------------------------

/-- What a key means for a schema, or how it fails. -/
inductive Reads (schema : Schema) (key : String) : Except QueryError FlatKey → Prop
  | field : schema.hasField key = true → Reads schema key (.ok ⟨key, .eq⟩)
  | suffixed {f : String} {op : Operator} : schema.hasField key = false → Suffixed key f op →
    schema.hasField f = true → Reads schema key (.ok ⟨f, op⟩)
  | unknown {f : String} {op : Operator} : schema.hasField key = false → Suffixed key f op →
    schema.hasField f = false → Reads schema key (.error (.fieldNotFound key))
  | undivided : schema.hasField key = false → ¬ Divided key →
    Reads schema key (.error (.fieldNotFound key))
  | unsupported : schema.hasField key = false → Divided key → (¬ ∃ f op, Suffixed key f op) →
    Reads schema key (.error (.unsupportedOperator key))

theorem Suffixed.divided {key f : String} {op : Operator} (h : Suffixed key f op) : Divided key :=
  ⟨f, op.word, h.key_eq⟩

/-- The reader says of every key what it means. -/
theorem reads_parse (schema : Schema) (key : String) : Reads schema key (parse schema key) := by
  unfold parse
  cases hkey : schema.hasField key with
  | true => exact .field hkey
  | false =>
    simp only [Bool.false_eq_true, if_false]
    split
    · next hnone =>
      refine .undivided hkey ?_
      rw [divided_iff, hnone]
      simp
    · next front back hsplit =>
      have hdivided : Divided key := divided_iff.mpr (by simp [hsplit])
      have hkey_eq : key = String.ofList front ++ "__" ++ String.ofList back := by
        apply String.toList_injective
        simp [append_of_splitLast? hsplit]
      -- any division of the key into an identifier and a suffix is the one found
      have hsuffixed {f : String} {op : Operator} (h : Suffixed key f op) :
          String.ofList front = f ∧ String.ofList back = op.word := by
        have hparts := hsplit.symm.trans h.splitLast?
        rw [Option.some.injEq, Prod.mk.injEq] at hparts
        simp [hparts.1, hparts.2]
      split
      · next hnone =>
        refine .unsupported hkey hdivided ?_
        rintro ⟨f, op, h⟩
        rw [(hsuffixed h).2, ofSuffix?_eq_some.mpr ⟨h.flat, rfl⟩] at hnone
        cases hnone
      · next op hop =>
        obtain ⟨hflat, hword⟩ := ofSuffix?_eq_some.mp hop
        cases hid : isIdentifier (String.ofList front) with
        | false =>
          refine .unsupported hkey hdivided ?_
          rintro ⟨f, op', h⟩
          rw [(hsuffixed h).1, isIdentifier_iff.mpr h.identifier] at hid
          cases hid
        | true =>
          have h : Suffixed key (String.ofList front) op :=
            ⟨by rw [hword]; exact hkey_eq, hflat, isIdentifier_iff.mp hid⟩
          cases hfield : schema.hasField (String.ofList front) with
          | true => exact .suffixed hkey h hfield
          | false => exact .unknown hkey h hfield

section
variable {schema : Schema} {key : String}

/-- The cases do not overlap. -/
theorem Reads.unique {x y : Except QueryError FlatKey} (hx : Reads schema key x)
    (hy : Reads schema key y) : x = y := by
  have hnever {α : Prop} (ht : schema.hasField key = true) (hf : schema.hasField key = false) : α :=
    absurd (ht.symm.trans hf) (by decide)
  cases hx with
  | field hkey =>
    cases hy with
    | field _ => rfl
    | _ => exact hnever hkey ‹_›
  | @suffixed f op hkey h hf =>
    cases hy with
    | field hkey' => exact hnever hkey' hkey
    | suffixed _ h' _ =>
      obtain ⟨rfl, rfl⟩ := h.unique h'
      rfl
    | unknown _ h' hf' =>
      obtain ⟨rfl, rfl⟩ := h.unique h'
      exact absurd (hf.symm.trans hf') (by decide)
    | undivided _ hdivided => exact absurd h.divided hdivided
    | unsupported _ _ hnone => exact absurd ⟨f, op, h⟩ hnone
  | @unknown f op hkey h hf =>
    cases hy with
    | field hkey' => exact hnever hkey' hkey
    | suffixed _ h' hf' =>
      obtain ⟨rfl, rfl⟩ := h.unique h'
      exact absurd (hf'.symm.trans hf) (by decide)
    | unknown _ _ _ => rfl
    | undivided _ _ => rfl
    | unsupported _ _ hnone => exact absurd ⟨f, op, h⟩ hnone
  | undivided hkey hdivided =>
    cases hy with
    | field hkey' => exact hnever hkey' hkey
    | suffixed _ h' _ => exact absurd h'.divided hdivided
    | unknown _ _ _ => rfl
    | undivided _ _ => rfl
    | unsupported _ hdivided' _ => exact absurd hdivided' hdivided
  | unsupported hkey hdivided hnone =>
    cases hy with
    | field hkey' => exact hnever hkey' hkey
    | suffixed _ h' _ => exact absurd ⟨_, _, h'⟩ hnone
    | unknown _ h' _ => exact absurd ⟨_, _, h'⟩ hnone
    | undivided _ hdivided' => exact absurd hdivided hdivided'
    | unsupported _ _ _ => rfl

theorem parse_eq_iff {x : Except QueryError FlatKey} :
    parse schema key = x ↔ Reads schema key x := by
  constructor
  · rintro rfl
    exact reads_parse schema key
  · exact (reads_parse schema key).unique

end

/-- The reader decides the flat grammar for every schema: which keys it accepts and as what, in
one way alone, and which of its two errors every other key fails with. -/
theorem parse_decides_grammar (schema : Schema) (key : String) :
    (parse schema key = .ok ⟨key, .eq⟩ ↔ schema.hasField key = true) ∧
    (∀ k, parse schema key = .ok k ↔
      schema.hasField key = true ∧ k = ⟨key, .eq⟩ ∨
        schema.hasField key = false ∧ Suffixed key k.field k.operator ∧
          schema.hasField k.field = true) ∧
    (∀ f g op op', Suffixed key f op → Suffixed key g op' → f = g ∧ op = op') ∧
    (∀ e, parse schema key = .error e ↔
      schema.hasField key = false ∧
        (e = .fieldNotFound key ∧
            (¬ Divided key ∨ ∃ f op, Suffixed key f op ∧ schema.hasField f = false) ∨
          e = .unsupportedOperator key ∧ Divided key ∧ ¬ ∃ f op, Suffixed key f op)) := by
  refine ⟨?_, fun k => ?_, fun f g op op' h h' => h.unique h', fun e => ?_⟩
  · rw [parse_eq_iff]
    constructor
    · intro h
      cases h with
      | field hkey => exact hkey
      | suffixed _ h _ => exact absurd h.flat (by decide)
    · exact .field
  · rw [parse_eq_iff]
    constructor
    · intro h
      cases h with
      | field hkey => exact .inl ⟨hkey, rfl⟩
      | suffixed hkey h hf => exact .inr ⟨hkey, h, hf⟩
    · rintro (⟨hkey, rfl⟩ | ⟨hkey, h, hf⟩)
      · exact .field hkey
      · exact .suffixed hkey h hf
  · rw [parse_eq_iff]
    constructor
    · intro h
      cases h with
      | unknown hkey h hf => exact ⟨hkey, .inl ⟨rfl, .inr ⟨_, _, h, hf⟩⟩⟩
      | undivided hkey hdivided => exact ⟨hkey, .inl ⟨rfl, .inl hdivided⟩⟩
      | unsupported hkey hdivided hnone => exact ⟨hkey, .inr ⟨rfl, hdivided, hnone⟩⟩
    · rintro ⟨hkey, ⟨rfl, hdivided | ⟨f, op, h, hf⟩⟩ | ⟨rfl, hdivided, hnone⟩⟩
      · exact .undivided hkey hdivided
      · exact .unknown hkey h hf
      · exact .unsupported hkey hdivided hnone

/-- A field that ends in an underscore, in front of a word with one. -/
theorem parse_decides_grammar_underscores :
    let schema := (Schema.empty "Tag" "tag").column "_a__b_" .text
    Suffixed "_a__b___not_in" "_a__b_" .noneOf ∧
      parse schema "_a__b___not_in" = .ok ⟨"_a__b_", .noneOf⟩ ∧
      ∀ g op, Suffixed "_a__b___not_in" g op → "_a__b_" = g ∧ .noneOf = op := by
  intro schema
  have h : Suffixed "_a__b___not_in" "_a__b_" .noneOf :=
    ⟨rfl, by decide, isIdentifier_iff.mp (by decide +kernel)⟩
  obtain ⟨-, haccepted, hunique, -⟩ := parse_decides_grammar schema "_a__b___not_in"
  have hfield : schema.hasField "_a__b_" = true := by decide +kernel
  have hkey : schema.hasField "_a__b___not_in" = false := by decide +kernel
  exact ⟨h, (haccepted _).mpr (.inr ⟨hkey, h, hfield⟩), fun g op => hunique _ g _ op h⟩

end FlatKey

end RecordQuery
