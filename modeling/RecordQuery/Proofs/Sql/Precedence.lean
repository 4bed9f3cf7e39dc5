/-!
# Precedence

A filter in SQL is a row of leaves, connectives and parentheses, in which `AND` binds tighter
than `OR`. It can be read in one way at most; and a text whose leaves are known can be taken
apart into such a row in one way at most. So a text and its leaves leave no doubt about its
truth.
-/

namespace RecordQuery

/-- A truth value for every text that can be a leaf. The two constants have their own. -/
structure LeafTruth where
  of : String → Bool
  always : of "1=1" = true
  never : of "1=0" = false

/-- Of all texts but the constants these are the true ones. -/
def LeafTruth.among (texts : List String) : LeafTruth where
  of s := s == "1=1" || (s != "1=0" && texts.contains s)
  always := rfl
  never := rfl

inductive SqlToken
  | leaf (text : String)
  | and
  | or
  | opening
  | closing

namespace SqlToken

def text : SqlToken → String
  | leaf s => s
  | and => " AND "
  | or => " OR "
  | opening => "("
  | closing => ")"

/-- The text that a row of tokens makes up. -/
def spelled : List SqlToken → String
  | [] => ""
  | t :: rest => t.text ++ spelled rest

/-- The leaves of a row, from left to right. -/
def leaves : List SqlToken → List String
  | [] => []
  | leaf s :: rest => s :: leaves rest
  | _ :: rest => leaves rest

theorem spelled_append (ts us : List SqlToken) : spelled (ts ++ us) = spelled ts ++ spelled us := by
  induction ts with
  | nil => simp [spelled]
  | cons t rest ih => simp [spelled, ih, String.append_assoc]

theorem leaves_append (ts us : List SqlToken) : leaves (ts ++ us) = leaves ts ++ leaves us := by
  induction ts with
  | nil => rfl
  | cons t rest ih => cases t <;> simp [leaves, ih]

end SqlToken

-- ---------------------------------------------------------------------------
-- The grammar
-- ---------------------------------------------------------------------------

/-- What a stretch of a filter is read as. -/
inductive SqlLevel
  | operand
  | conjunction
  | disjunction

/-- The stretch is read at this level and has this truth value. -/
inductive ReadAs (v : LeafTruth) : SqlLevel → List SqlToken → Bool → Prop
  | leaf (s : String) : ReadAs v .operand [.leaf s] (v.of s)
  | parenthesized {ts b} : ReadAs v .disjunction ts b →
      ReadAs v .operand (.opening :: (ts ++ [.closing])) b
  | operand {ts b} : ReadAs v .operand ts b → ReadAs v .conjunction ts b
  | and {ts us b c} : ReadAs v .conjunction ts b → ReadAs v .operand us c →
      ReadAs v .conjunction (ts ++ .and :: us) (b && c)
  | conjunction {ts b} : ReadAs v .conjunction ts b → ReadAs v .disjunction ts b
  | or {ts us b c} : ReadAs v .disjunction ts b → ReadAs v .conjunction us c →
      ReadAs v .disjunction (ts ++ .or :: us) (b || c)

-- ---------------------------------------------------------------------------
-- One truth value
-- ---------------------------------------------------------------------------

/-- What is known within one pair of parentheses: whether a conjunction before the last `OR`
is true, and whether the operands after it are. -/
structure OpenGroup where
  before : Bool
  after : Bool

namespace OpenGroup

def fresh : OpenGroup := ⟨false, true⟩

def value (g : OpenGroup) : Bool := g.before || g.after

/-- The group with one operand more. -/
def take (g : OpenGroup) (b : Bool) : OpenGroup := ⟨g.before, g.after && b⟩

end OpenGroup

/-- The truth value of a row, token by token, with the groups that are open around it. -/
def evaluate (v : LeafTruth) : List SqlToken → OpenGroup → List OpenGroup → Bool
  | [], g, _ => g.value
  | .leaf s :: rest, g, around => evaluate v rest (g.take (v.of s)) around
  | .and :: rest, g, around => evaluate v rest g around
  | .or :: rest, g, around => evaluate v rest ⟨g.value, true⟩ around
  | .opening :: rest, g, around => evaluate v rest .fresh (g :: around)
  | .closing :: _, g, [] => g.value
  | .closing :: rest, g, outer :: around => evaluate v rest (outer.take g.value) around

namespace ReadAs

variable {v : LeafTruth} {level : SqlLevel} {ts us : List SqlToken} {b c : Bool}

/-- How the evaluation of a row goes on after a stretch of it. A disjunction may have moved
what is known past an `OR`. -/
def Passed (v : LeafTruth) (ts : List SqlToken) (b : Bool) : SqlLevel → Prop
  | .disjunction => ∀ before rest around, ∃ g : OpenGroup, g.value = (before || b) ∧
      evaluate v (ts ++ rest) ⟨before, true⟩ around = evaluate v rest g around
  | _ => ∀ g rest around, evaluate v (ts ++ rest) g around = evaluate v rest (g.take b) around

theorem passed (h : ReadAs v level ts b) : Passed v ts b level := by
  induction h with
  | leaf s =>
    intro g rest around
    rfl
  | @parenthesized ts b _ ih =>
    intro g rest around
    obtain ⟨inner, hvalue, hinner⟩ := ih false (.closing :: rest) (g :: around)
    rw [Bool.false_or] at hvalue
    rw [List.cons_append, List.append_assoc, List.singleton_append, evaluate]
    exact hinner.trans (by rw [evaluate, hvalue])
  | operand _ ih => exact ih
  | @and ts us b c _ _ ihl ihr =>
    intro g rest around
    have htake : (g.take b).take c = g.take (b && c) := by simp [OpenGroup.take, Bool.and_assoc]
    rw [List.append_assoc, List.cons_append, ihl, evaluate, ihr, htake]
  | @conjunction ts b _ ih =>
    intro before rest around
    exact ⟨_, by simp [OpenGroup.take, OpenGroup.value], ih ⟨before, true⟩ rest around⟩
  | @or ts us b c _ _ ihl ihr =>
    intro before rest around
    obtain ⟨g, hvalue, hleft⟩ := ihl before (.or :: (us ++ rest)) around
    refine ⟨OpenGroup.take ⟨before || b, true⟩ c, ?_, ?_⟩
    · simp [OpenGroup.take, OpenGroup.value, Bool.or_assoc]
    · rw [List.append_assoc, List.cons_append, hleft, evaluate, hvalue, ihr]

/-- A row is not read as true and as false. -/
theorem unique (hb : ReadAs v .disjunction ts b) (hc : ReadAs v .disjunction ts c) : b = c := by
  obtain ⟨g, hg, hb⟩ := hb.passed false [] []
  obtain ⟨g', hg', hc⟩ := hc.passed false [] []
  have hvalue : g.value = g'.value := hb.symm.trans hc
  simpa [hg, hg'] using hvalue

end ReadAs

-- ---------------------------------------------------------------------------
-- One row of tokens
-- ---------------------------------------------------------------------------

/-- What can come next in a row. -/
inductive SqlPlace
  | operand
  | connective

/-- What can come after a token. -/
def SqlToken.next : SqlToken → SqlPlace
  | leaf _ => .connective
  | and => .operand
  | or => .operand
  | opening => .operand
  | closing => .connective

/-- Operands and connectives take turns from this place on. -/
inductive Alternates : SqlPlace → List SqlToken → Prop
  | leaf {ts} (s : String) : Alternates .connective ts → Alternates .operand (.leaf s :: ts)
  | opening {ts} : Alternates .operand ts → Alternates .operand (.opening :: ts)
  | closing {ts} : Alternates .connective ts → Alternates .connective (.closing :: ts)
  | and {ts} : Alternates .operand ts → Alternates .connective (.and :: ts)
  | or {ts} : Alternates .operand ts → Alternates .connective (.or :: ts)
  | done : Alternates .connective []

theorem Alternates.tail {place : SqlPlace} {t : SqlToken} {ts : List SqlToken}
    (h : Alternates place (t :: ts)) : Alternates t.next ts := by
  cases h <;> assumption

theorem ReadAs.alternates_append {v : LeafTruth} {level : SqlLevel} {ts : List SqlToken} {b : Bool}
    (h : ReadAs v level ts b) {rest : List SqlToken} (hrest : Alternates .connective rest) :
    Alternates .operand (ts ++ rest) := by
  induction h generalizing rest with
  | leaf s => exact .leaf s hrest
  | parenthesized _ ih =>
    rw [List.cons_append, List.append_assoc]
    exact .opening (ih (.closing hrest))
  | operand _ ih => exact ih hrest
  | and _ _ ihl ihr =>
    rw [List.append_assoc, List.cons_append]
    exact ihl (.and (ihr hrest))
  | conjunction _ ih => exact ih hrest
  | or _ _ ihl ihr =>
    rw [List.append_assoc, List.cons_append]
    exact ihl (.or (ihr hrest))

theorem ReadAs.alternates {v : LeafTruth} {level : SqlLevel} {ts : List SqlToken} {b : Bool}
    (h : ReadAs v level ts b) : Alternates .operand ts := by
  simpa using h.alternates_append .done

namespace SqlToken

/-- A leaf that is not all opening parentheses is not taken for any. -/
def Solid (s : String) : Prop := ∃ c ∈ s.toList, c ≠ '('

theorem Solid.append_left {s : String} (t : String) (h : Solid s) : Solid (t ++ s) := by
  obtain ⟨c, hc, hne⟩ := h
  exact ⟨c, by simp [hc], hne⟩

theorem Solid.append_right {s : String} (t : String) (h : Solid s) : Solid (s ++ t) := by
  obtain ⟨c, hc, hne⟩ := h
  exact ⟨c, by simp [hc], hne⟩

theorem not_solid_of_shifted {k : Nat} {w x y : List Char}
    (h : List.replicate (k + 1) '(' ++ (w ++ x) = w ++ y) : ∀ c ∈ w, c = '(' := by
  induction w with
  | nil => exact List.forall_mem_nil _
  | cons c w ih =>
    rw [List.replicate_succ, List.cons_append, List.cons_append, List.cons_append] at h
    obtain ⟨rfl, h⟩ := List.cons.inj h
    refine List.forall_mem_cons.mpr ⟨rfl, ih ?_⟩
    rw [List.replicate_succ', List.append_assoc, List.singleton_append, h]

/-- Where an operand is expected, a leaf follows any number of opening parentheses. -/
theorem leading_leaf {ts : List SqlToken} (h : Alternates .operand ts) :
    ∃ k s rest, ts = List.replicate k .opening ++ .leaf s :: rest := by
  generalize hplace : SqlPlace.operand = place at h
  induction h with
  | leaf s _ => exact ⟨0, s, _, rfl⟩
  | opening _ ih =>
    obtain ⟨k, s, rest, rfl⟩ := ih rfl
    exact ⟨k + 1, s, rest, rfl⟩
  | _ => cases hplace

theorem toList_spelled_openings (k : Nat) (rest : List SqlToken) :
    (spelled (List.replicate k .opening ++ rest)).toList =
      List.replicate k '(' ++ (spelled rest).toList := by
  induction k with
  | zero => rfl
  | succ k ih =>
    rw [List.replicate_succ, List.cons_append, spelled, String.toList_append, ih]
    rfl

theorem leaves_openings (k : Nat) (rest : List SqlToken) :
    leaves (List.replicate k .opening ++ rest) = leaves rest := by
  induction k with
  | zero => rfl
  | succ k ih => exact ih

/-- A parenthesis cannot be the beginning of the leaf that comes next. -/
theorem opening_ne_leaf {ts us : List SqlToken} {s : String} (hts : Alternates .operand ts)
    (hsolid : Solid s) (hleaves : leaves (.opening :: ts) = leaves (.leaf s :: us)) :
    spelled (.opening :: ts) ≠ spelled (.leaf s :: us) := by
  intro h
  obtain ⟨k, s', rest, rfl⟩ := leading_leaf hts
  have hs : s' :: leaves rest = s :: leaves us := by
    simpa only [leaves, leaves_openings] using hleaves
  obtain ⟨rfl, -⟩ := List.cons.inj hs
  have hchars : List.replicate (k + 1) '(' ++ (s'.toList ++ (spelled rest).toList) =
      s'.toList ++ (spelled us).toList := by
    have := congrArg String.toList h
    rw [← List.cons_append, ← List.replicate_succ, toList_spelled_openings] at this
    simpa only [spelled, text, String.toList_append] using this
  obtain ⟨c, hc, hne⟩ := hsolid
  exact hne (not_solid_of_shifted hchars c hc)

theorem spelled_cons_inj {t : SqlToken} {ts us : List SqlToken}
    (h : spelled (t :: ts) = spelled (t :: us)) : spelled ts = spelled us := by
  have hchars := congrArg String.toList h
  simp only [spelled, String.toList_append, List.append_cancel_left_eq] at hchars
  exact String.toList_inj.mp hchars

theorem leaves_cons_inj {t : SqlToken} {ts us : List SqlToken}
    (h : leaves (t :: ts) = leaves (t :: us)) : leaves ts = leaves us := by
  cases t with
  | leaf s => exact (List.cons.inj h).2
  | _ => exact h

theorem mem_leaves_cons {t : SqlToken} {ts : List SqlToken} {s : String} (h : s ∈ leaves ts) :
    s ∈ leaves (t :: ts) := by
  cases t with
  | leaf s' => exact List.mem_cons_of_mem s' h
  | _ => exact h

/-- Parentheses and connectives are told apart by their first two characters. -/
theorem head_eq {place : SqlPlace} {t u : SqlToken} {ts us : List SqlToken}
    (hts : Alternates place (t :: ts)) (hus : Alternates place (u :: us))
    (hleaves : leaves (t :: ts) = leaves (u :: us)) (hsolid : ∀ s ∈ leaves (t :: ts), Solid s)
    (h : spelled (t :: ts) = spelled (u :: us)) : t = u := by
  cases place with
  | operand =>
    cases hts with
    | leaf s _ =>
      cases hus with
      | leaf s' _ => rw [(List.cons.inj hleaves).1]
      | opening hus =>
        exact absurd h.symm (opening_ne_leaf hus (hsolid s List.mem_cons_self) hleaves.symm)
    | opening hts =>
      cases hus with
      | leaf s _ =>
        have hs : Solid s := hsolid s (hleaves ▸ List.mem_cons_self)
        exact absurd h (opening_ne_leaf hts hs hleaves)
      | opening _ => rfl
  | connective =>
    have hchars := congrArg String.toList h
    cases hts <;> cases hus <;> simp [spelled, text] at hchars ⊢

/-- The text and the leaves of a row determine the row. -/
theorem eq_of_spelled_eq {place : SqlPlace} {ts us : List SqlToken} (hts : Alternates place ts)
    (hus : Alternates place us) (hleaves : leaves ts = leaves us)
    (hsolid : ∀ s ∈ leaves ts, Solid s) (h : spelled ts = spelled us) : ts = us := by
  induction ts generalizing place us with
  | nil =>
    cases hts
    cases hus with
    | done => rfl
    | _ => simp [spelled, text] at h
  | cons t ts ih =>
    cases us with
    | nil =>
      cases hus
      cases hts <;> simp [spelled, text] at h
    | cons u us =>
      obtain rfl := head_eq hts hus hleaves hsolid h
      rw [ih hts.tail hus.tail (leaves_cons_inj hleaves)
        (fun s hs => hsolid s (mem_leaves_cons hs)) (spelled_cons_inj h)]

end SqlToken

end RecordQuery
