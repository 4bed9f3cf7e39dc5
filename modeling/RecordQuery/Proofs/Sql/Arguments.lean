import RecordQuery.Proofs.Json.Unambiguous
import RecordQuery.Proofs.Sql.Shape

/-!
# What the bound arguments tell

Queries of one shape are told apart by their arguments. An argument is known by its type and its
value's text. An integer past the signed range of 64 bits meets a column of any type but text as
the nearest float, and the float is all that is known of it; every other value is known exactly.
-/

namespace RecordQuery

-- ---------------------------------------------------------------------------
-- Arguments
-- ---------------------------------------------------------------------------

/-- The type of an argument and the text of its value; a document is sent as JSON text. -/
def Argument.sent : Argument → String × String
  | .int8 i => ("int8", toString i)
  | .float8 x => ("float8", Json.floatText x)
  | .bool b => ("bool", Json.boolText b)
  | .text s => ("text", s)
  | .jsonb v => ("jsonb", v.text)

namespace Json

theorem boolText_injective : Function.Injective boolText := by
  intro a b h
  cases a <;> cases b <;> first | rfl | cases congrArg String.length h

theorem floatText_injective : Function.Injective floatText := fun _ _ h =>
  Number.float.inj (Number.text_injective h)

end Json

theorem Argument.sent_injective : Function.Injective Argument.sent := by
  intro a b h
  cases a with
  | int8 i =>
    cases b with
    | int8 j => rw [Numeral.toString_injective (Prod.mk.inj h).2]
    | _ => simp [sent] at h
  | float8 x =>
    cases b with
    | float8 y => rw [Json.floatText_injective (Prod.mk.inj h).2]
    | _ => simp [sent] at h
  | bool c =>
    cases b with
    | bool d => rw [Json.boolText_injective (Prod.mk.inj h).2]
    | _ => simp [sent] at h
  | text s =>
    cases b with
    | text t => rw [(Prod.mk.inj h).2]
    | _ => simp [sent] at h
  | jsonb v =>
    cases b with
    | jsonb w => rw [Json.text_injective (Prod.mk.inj h).2]
    | _ => simp [sent] at h

-- ---------------------------------------------------------------------------
-- Values
-- ---------------------------------------------------------------------------

namespace Json

/-- An integer past the signed range of 64 bits becomes the nearest float. -/
def Number.narrowed : Number → Number
  | .int i =>
    if i.val < 0x8000000000000000 then .int i else .float (Binary64.ofInt i.val i.natAbs_le)
  | .float x => .float x

/-- What a value is for a column of this type: numbers meet texts as they are written. -/
def narrowed (type : ColumnType) : Json → Json
  | .number n => .number (if type = .text then n else n.narrowed)
  | v => v

/-- What is bound for a number shows the narrowed number. -/
theorem Number.argument_eq (n : Number) :
    n.argument = match n.narrowed with
      | .int i => .int8 i.val
      | .float x => .float8 x := by
  cases n with
  | int i =>
    unfold argument narrowed
    dsimp only
    split <;> rfl
  | float x => rfl

theorem Number.argument_eq_iff {m n : Number} :
    m.argument = n.argument ↔ m.narrowed = n.narrowed := by
  refine ⟨fun h => ?_, fun h => by rw [argument_eq, argument_eq, h]⟩
  rw [argument_eq, argument_eq] at h
  generalize m.narrowed = m at h
  generalize n.narrowed = n at h
  cases m with
  | int i =>
    cases n with
    | int j =>
      obtain ⟨i, _, _⟩ := i
      obtain rfl : i = j.val := Argument.int8.inj h
      rfl
    | float y => cases h
  | float x =>
    cases n with
    | int j => cases h
    | float y => rw [Argument.float8.inj h]

theorem argument_eq_iff {v w : Json} (hkind : v.kind = w.kind) (hnull : v.isNull = false)
    (type : ColumnType) :
    v.argument type = w.argument type ↔ v.narrowed type = w.narrowed type := by
  cases v <;> cases w <;> try cases hkind
  case null.null => cases hnull
  case bool.bool b c =>
    have htext : boolText b = boolText c ↔ b = c := boolText_injective.eq_iff
    by_cases htype : type = .text <;> simp [argument_bool, narrowed, htype, htext]
  case number.number m n =>
    have htext : m.text = n.text ↔ m = n := Number.text_injective.eq_iff
    by_cases htype : type = .text <;>
      simp [argument_number, narrowed, htype, htext, Number.argument_eq_iff]
  all_goals simp [argument, narrowed]

theorem narrowed_eq_self {v : Json} {type : ColumnType}
    (h : ∀ i, v = .number (.int i) → type = .text ∨ i.val < 0x8000000000000000) :
    v.narrowed type = v := by
  cases v with
  | number n =>
    cases n with
    | int i =>
      rcases h i rfl with htype | hlt
      · simp [narrowed, htype]
      · simp [narrowed, Number.narrowed, hlt]
    | float x => simp [narrowed, Number.narrowed]
  | _ => rfl

end Json

-- ---------------------------------------------------------------------------
-- Predicates
-- ---------------------------------------------------------------------------

namespace Predicate

variable (schema : Schema)

mutual

/-- The predicate with each value as it is for its column. -/
def narrowed : Predicate → Predicate
  | .compare field op v => .compare field op (v.narrowed (schema.columnType field))
  | .oneOf field vs => .oneOf field (vs.map (Json.narrowed (schema.columnType field)))
  | .noneOf field vs => .noneOf field (vs.map (Json.narrowed (schema.columnType field)))
  | .holdsText field text => .holdsText field text
  | .like field pattern => .like field pattern
  | .and ps => .and (narrowedAll ps)
  | .or ps => .or (narrowedAll ps)

def narrowedAll : List Predicate → List Predicate
  | [] => []
  | p :: rest => narrowed p :: narrowedAll rest

end

theorem narrowedAll_eq (ps : List Predicate) :
    narrowedAll schema ps = ps.map (narrowed schema) := by
  induction ps with
  | nil => rfl
  | cons p rest ih => rw [narrowedAll, ih, List.map_cons]

/-- No integer past the signed range of 64 bits meets a column of another type than text. -/
def Narrow (p : Predicate) : Prop :=
  ∀ field i, .value field (.number (.int i)) ∈ p.fillings →
    schema.columnType field = .text ∨ i.val < 0x8000000000000000

/-- What is bound for the predicate. -/
def arguments (p : Predicate) : List Argument := p.fillings.map (Filling.argument schema)

theorem arguments_bind (p : Predicate) :
    (p.bind schema .empty).arguments = p.arguments schema := by
  rw [← bind_condition, Template.bind_eq_fill, fillings_condition]
  rfl

theorem length_fillings_of_alike {p q : Predicate} (h : p.Alike q) :
    p.fillings.length = q.fillings.length := by
  have halike : Template.Alike (.empty "" "") p.condition.template q.condition.template :=
    alike_condition h
  have hlength := congrArg List.length halike.casts
  rwa [List.length_map, List.length_map, fillings_condition, fillings_condition] at hlength

variable {schema}

/-- The values of a list are told apart by what is bound for them. -/
theorem argument_values_iff {field : String} {vs ws : List Json}
    (hkinds : vs.map Json.kind = ws.map Json.kind) :
    (presentValues field vs).map (Filling.argument schema) =
        (presentValues field ws).map (Filling.argument schema) ↔
      vs.map (Json.narrowed (schema.columnType field)) =
        ws.map (Json.narrowed (schema.columnType field)) := by
  induction vs generalizing ws with
  | nil =>
    cases ws with
    | nil => simp
    | cons w ws => cases hkinds
  | cons v vs ih =>
    cases ws with
    | nil => cases hkinds
    | cons w ws =>
      obtain ⟨hkind, hrest⟩ := List.cons.inj hkinds
      have hnull : v.isNull = w.isNull := by rw [Json.isNull_eq, Json.isNull_eq, hkind]
      have ihrest := ih hrest
      rw [List.map_cons, List.map_cons, List.cons.injEq, ← ihrest]
      unfold presentValues
      cases hv : v.isNull with
      | true =>
        -- neither is bound, and there is one null
        have hw : w.isNull = true := hnull ▸ hv
        have hnarrowed : v.narrowed (schema.columnType field) =
            w.narrowed (schema.columnType field) := by
          cases v <;> cases hv
          cases w <;> cases hw
          rfl
        simp [hv, hw, hnarrowed]
      | false =>
        have hw : w.isNull = false := hnull ▸ hv
        simp only [List.filter_cons, hv, hw, Bool.not_false, if_pos, List.map_cons, List.cons.injEq,
          Filling.argument, Json.argument_eq_iff hkind hv]

/-- Operands of one shape are told apart by what is bound for them. -/
theorem arguments_all_iff {ps qs : List Predicate} (halike : List.Forall₂ Alike ps qs)
    (ih : ∀ p ∈ ps, ∀ q, p.Alike q →
      (p.arguments schema = q.arguments schema ↔ p.narrowed schema = q.narrowed schema)) :
    (ps.flatMap fillings).map (Filling.argument schema) =
        (qs.flatMap fillings).map (Filling.argument schema) ↔
      ps.map (narrowed schema) = qs.map (narrowed schema) := by
  induction halike with
  | nil => simp
  | @cons p q ps qs hp hrest ihrest =>
    obtain ⟨ihp, ihps⟩ := List.forall_mem_cons.mp ih
    have hlength : (p.arguments schema).length = (q.arguments schema).length := by
      rw [arguments, arguments, List.length_map, List.length_map, length_fillings_of_alike hp]
    rw [List.map_cons, List.map_cons, List.cons.injEq, ← ihp q hp, ← ihrest ihps, List.flatMap_cons,
      List.flatMap_cons, List.map_append, List.map_append]
    exact ⟨fun h => List.append_inj h hlength, fun h => congr (congrArg _ h.1) h.2⟩

/-- Predicates of one shape bind the same arguments just when they agree in what their values are
for the columns. -/
theorem arguments_eq_iff {p q : Predicate} (h : p.Alike q) :
    p.arguments schema = q.arguments schema ↔ p.narrowed schema = q.narrowed schema := by
  induction p generalizing q with
  | compare field op v =>
    cases q with
    | compare g op' w =>
      simp only [Alike] at h
      obtain ⟨rfl, rfl, hkind⟩ := h
      have hkinds : [v].map Json.kind = [w].map Json.kind := congrArg (fun kind => [kind]) hkind
      rw [arguments, arguments, fillings, fillings, argument_values_iff hkinds]
      simp [narrowed]
    | _ => simp [Alike] at h
  | oneOf field vs =>
    cases q with
    | oneOf g ws =>
      simp only [Alike] at h
      obtain ⟨rfl, hkinds⟩ := h
      rw [arguments, arguments, fillings, fillings, argument_values_iff hkinds, narrowed, narrowed,
        oneOf.injEq, eq_self, true_and]
    | _ => simp [Alike] at h
  | noneOf field vs =>
    cases q with
    | noneOf g ws =>
      simp only [Alike] at h
      obtain ⟨rfl, hkinds⟩ := h
      rw [arguments, arguments, fillings, fillings, argument_values_iff hkinds, narrowed, narrowed,
        noneOf.injEq, eq_self, true_and]
    | _ => simp [Alike] at h
  | holdsText field text =>
    cases q with
    | holdsText g text' =>
      simp only [Alike] at h
      subst h
      simp [arguments, fillings, narrowed, Filling.argument, Json.quoted_injective.eq_iff]
    | _ => simp [Alike] at h
  | like field pattern =>
    cases q with
    | like g pattern' =>
      simp only [Alike] at h
      subst h
      simp [arguments, fillings, narrowed, Filling.argument]
    | _ => simp [Alike] at h
  | and ps ih =>
    cases q with
    | and qs =>
      rw [Alike, allAlike_iff] at h
      rw [arguments, arguments, fillings, fillings, fillingsAll_eq, fillingsAll_eq,
        arguments_all_iff h fun p hp q => ih p hp, narrowed, narrowed, narrowedAll_eq,
        narrowedAll_eq, and.injEq]
    | _ => simp [Alike] at h
  | or ps ih =>
    cases q with
    | or qs =>
      rw [Alike, allAlike_iff] at h
      rw [arguments, arguments, fillings, fillings, fillingsAll_eq, fillingsAll_eq,
        arguments_all_iff h fun p hp q => ih p hp, narrowed, narrowed, narrowedAll_eq,
        narrowedAll_eq, or.injEq]
    | _ => simp [Alike] at h

theorem narrowed_values {field : String} {vs : List Json}
    (h : ∀ i, .value field (.number (.int i)) ∈ presentValues field vs →
      schema.columnType field = .text ∨ i.val < 0x8000000000000000) :
    vs.map (Json.narrowed (schema.columnType field)) = vs := by
  refine (List.map_congr_left fun v hv => ?_).trans (List.map_id vs)
  refine Json.narrowed_eq_self fun i hi => h i ?_
  subst hi
  exact List.mem_map.mpr ⟨_, List.mem_filter.mpr ⟨hv, rfl⟩, rfl⟩

theorem narrowed_all {ps : List Predicate} (h : ∀ p ∈ ps, p.narrowed schema = p) :
    ps.map (narrowed schema) = ps :=
  (List.map_congr_left h).trans (List.map_id ps)

theorem Narrow.narrowed_eq {p : Predicate} (h : p.Narrow schema) : p.narrowed schema = p := by
  induction p with
  | compare field op v =>
    have hvalues := narrowed_values (h field)
    rw [List.map_singleton] at hvalues
    rw [narrowed, (List.cons.inj hvalues).1]
  | oneOf field vs => rw [narrowed, narrowed_values (h field)]
  | noneOf field vs => rw [narrowed, narrowed_values (h field)]
  | holdsText field text => rfl
  | like field pattern => rfl
  | and ps ih =>
    rw [narrowed, narrowedAll_eq, narrowed_all fun p hp => ih p hp fun field i hi => h field i ?_]
    rw [fillings, fillingsAll_eq]
    exact List.mem_flatMap.mpr ⟨p, hp, hi⟩
  | or ps ih =>
    rw [narrowed, narrowedAll_eq, narrowed_all fun p hp => ih p hp fun field i hi => h field i ?_]
    rw [fillings, fillingsAll_eq]
    exact List.mem_flatMap.mpr ⟨p, hp, hi⟩

/-- Predicates of one shape are sent with the same arguments just when they are equal after each
integer past the signed range of 64 bits that meets a column of another type than text has become
the nearest float. Without such integers they are equal. -/
theorem arguments_tell_narrowed (schema : Schema) {p q : Predicate} (h : p.Alike q) :
    ((p.bind schema .empty).arguments.map Argument.sent =
        (q.bind schema .empty).arguments.map Argument.sent ↔
      p.narrowed schema = q.narrowed schema) ∧
    (p.Narrow schema → q.Narrow schema →
      ((p.bind schema .empty).arguments.map Argument.sent =
          (q.bind schema .empty).arguments.map Argument.sent ↔ p = q)) := by
  have hsent : (p.bind schema .empty).arguments.map Argument.sent =
      (q.bind schema .empty).arguments.map Argument.sent ↔
        p.narrowed schema = q.narrowed schema := by
    rw [(List.map_injective_iff.mpr Argument.sent_injective).eq_iff, arguments_bind, arguments_bind]
    exact arguments_eq_iff h
  refine ⟨hsent, fun hp hq => ?_⟩
  rw [hsent, hp.narrowed_eq, hq.narrowed_eq]

/-- Where a text is compared, integers of any size are told apart, and from the float that they
are nearest to. -/
theorem arguments_tell_narrowed_names :
    let past : Json.Integer := ⟨0x8000000000000000, by decide, by decide⟩
    let next : Json.Integer := ⟨0x8000000000000001, by decide, by decide⟩
    let filter (name : Json.Number) : Predicate :=
      .or [.compare "name" .eq (.number name), .oneOf "age" [.word 18, .null]]
    let p := filter (.int past)
    let q := filter (.int next)
    p.Alike q ∧ p.Narrow Sample.heroSchema ∧ q.Narrow Sample.heroSchema ∧
      (p.bind Sample.heroSchema .empty).arguments.map Argument.sent ≠
        (q.bind Sample.heroSchema .empty).arguments.map Argument.sent := by
  intro past next filter p q
  have halike : p.Alike q := by simp [p, q, filter, Alike, AllAlike, Json.kind]
  have hnarrow (name : Json.Number) : (filter name).Narrow Sample.heroSchema := by
    intro field i hi
    have hfillings : (filter name).fillings =
        [.value "name" (.number name), .value "age" (.word 18)] := rfl
    rw [hfillings] at hi
    rcases List.mem_pair.mp hi with hname | hage
    · obtain ⟨rfl, -⟩ := Filling.value.inj hname
      exact .inl (by decide)
    · obtain ⟨-, hword⟩ := Filling.value.inj hage
      cases hword
      exact .inr (by decide)
  refine ⟨halike, hnarrow _, hnarrow _, fun hsent => ?_⟩
  have heq : p = q :=
    ((arguments_tell_narrowed Sample.heroSchema halike).2 (hnarrow _) (hnarrow _)).mp hsent
  simp [p, q, filter, past, next] at heq

/-- Two neighbours past the signed range are bound to a column of integers as one float. -/
theorem neighbours_sent_alike :
    let past : Json.Integer := ⟨0x8000000000000000, by decide, by decide⟩
    let next : Json.Integer := ⟨0x8000000000000001, by decide, by decide⟩
    let p : Predicate := .compare "age" .eq (.number (.int past))
    let q : Predicate := .compare "age" .eq (.number (.int next))
    p.Alike q ∧ p ≠ q ∧
      (p.bind Sample.heroSchema .empty).arguments =
        (q.bind Sample.heroSchema .empty).arguments := by
  intro past next p q
  refine ⟨by simp [p, q, Alike, Json.kind], by simp [p, q, past, next], ?_⟩
  rw [arguments_bind, arguments_bind, arguments_eq_iff (by simp [p, q, Alike, Json.kind])]
  have hfloat : Binary64.ofInt 0x8000000000000000 (by decide) =
      Binary64.ofInt 0x8000000000000001 (by decide) := by decide +kernel
  have htype : Sample.heroSchema.columnType "age" = .integer := by decide
  simp [p, q, past, next, narrowed, Json.narrowed, Json.Number.narrowed, htype, hfloat]

end Predicate

end RecordQuery
