import RecordQuery.Proofs.Collection.FirstFault
import RecordQuery.Proofs.Collection.OneFilter
import RecordQuery.Proofs.FlatKey.Grammar
import RecordQuery.Proofs.Record.Lookup
import RecordQuery.Proofs.Schema.Built
import RecordQuery.Proofs.Text.CommaList

/-!
# Rows by their primary key

A text names a row by one part for each primary key, in order of declaration. The parts travel
as parameters, in the order of the names of the keys; since every name is a key of the schema
and no two are the same, what is asked for is still that every key is equal to its part. The
row that is found is the first such row in order of insertion.
-/

namespace RecordQuery

-- ---------------------------------------------------------------------------
-- Parts of a key
-- ---------------------------------------------------------------------------

/-- The text gives these parts to these keys: to a single key it is given whole, commas
included, and to several keys what stands between its commas, one piece for each. Blanks
around a part do not count, and no part is empty. -/
inductive KeyParts (pk : String) : List String → List String → Prop
  | whole (key : String) : Text.trim pk ≠ "" → KeyParts pk [key] [Text.trim pk]
  | pieces {keys cut : List String} : 1 < keys.length → Text.CutAtCommas pk cut →
    cut.length = keys.length → (∀ piece ∈ cut, Text.trim piece ≠ "") →
      KeyParts pk keys (cut.map Text.trim)

/-- The text gives no parts to the keys. -/
inductive NoKeyParts (pk : String) : List String → Prop
  | noKey : NoKeyParts pk []
  | blank (key : String) : Text.trim pk = "" → NoKeyParts pk [key]
  | pieces {keys cut : List String} : 1 < keys.length → Text.CutAtCommas pk cut →
    (cut.length ≠ keys.length ∨ ∃ piece ∈ cut, Text.trim piece = "") → NoKeyParts pk keys

theorem KeyParts.length_eq {pk : String} {keys parts : List String} (h : KeyParts pk keys parts) :
    parts.length = keys.length := by
  cases h with
  | whole key _ => rfl
  | pieces _ _ hlength _ => rw [List.length_map, hlength]

/-- One of the two is the case. -/
theorem keyParts_or_noKeyParts (pk : String) (keys : List String) :
    (∃ parts, KeyParts pk keys parts) ∨ NoKeyParts pk keys := by
  match keys with
  | [] => exact .inr .noKey
  | [key] =>
    by_cases hblank : Text.trim pk = ""
    · exact .inr (.blank key hblank)
    · exact .inl ⟨_, .whole key hblank⟩
  | key :: next :: rest =>
    have hseveral : 1 < (key :: next :: rest).length := by simp
    have hcut := Text.cutAtCommas_splitCommas pk
    by_cases hfault : ((Text.splitCommas pk.toList).map String.ofList).length ≠
        (key :: next :: rest).length ∨
        ∃ piece ∈ (Text.splitCommas pk.toList).map String.ofList, Text.trim piece = ""
    · exact .inr (.pieces hseveral hcut hfault)
    · obtain ⟨hlength, hparts⟩ := not_or.mp hfault
      exact .inl ⟨_, .pieces hseveral hcut (not_not.mp hlength) fun piece hpiece hblank =>
        hparts ⟨piece, hpiece, hblank⟩⟩

namespace Collection

variable {c : Collection} {pk : String}

theorem keyRequest_of_parts {parts : List String} (h : KeyParts pk c.schema.primaryKeys parts) :
    c.keyRequest pk = .ok
      { params := KeyMap.ofEntries (c.schema.primaryKeys.zip (parts.map Json.string)) } := by
  unfold keyRequest
  generalize c.schema.primaryKeys = keys at h ⊢
  cases h with
  | whole key hblank => simp [hblank]
  | pieces hseveral hcut hlength hparts =>
    have hkeys : keys ≠ [] := List.ne_nil_of_length_pos (Nat.lt_of_succ_lt hseveral)
    simpa [hkeys, hseveral, hcut.pieces_eq, hlength] using hparts

theorem keyRequest_of_noKeyParts (h : NoKeyParts pk c.schema.primaryKeys) :
    ∃ fault, c.keyRequest pk = .error (.invalidKey fault) := by
  unfold keyRequest
  generalize c.schema.primaryKeys = keys at h ⊢
  cases h with
  | noKey => exact ⟨_, rfl⟩
  | blank key hblank => exact ⟨.wrongParts [key] pk, by simp [hblank]⟩
  | pieces hseveral hcut hfault =>
    have hkeys : keys ≠ [] := List.ne_nil_of_length_pos (Nat.lt_of_succ_lt hseveral)
    refine ⟨.wrongParts keys pk, ?_⟩
    simpa [hkeys, hseveral, hcut.pieces_eq, or_iff_not_imp_left] using hfault

end Collection

-- ---------------------------------------------------------------------------
-- Parameters that name fields
-- ---------------------------------------------------------------------------

/-- A parameter that is named as a column asks for equality with its value, whatever the
name looks like. -/
theorem Parameters.compileOne_field {schema : Schema} {single : Bool} {f : Field}
    (hf : schema.field? f.name = some f) (hscalar : f.isRelation = false) (value : Json) :
    compileOne schema single f.name value = .ok (.compare f.name .eq value) := by
  have hparse : FlatKey.parse schema f.name = .ok ⟨f.name, .eq⟩ :=
    FlatKey.parse_eq_iff.mpr (.field (Schema.hasField_of_field? hf))
  exact compileOne_of_parse hparse hf hscalar value

theorem Parameters.compile_fields {schema : Schema} {single : Bool} {params : KeyMap Json}
    (h : ∀ e ∈ params, e.2.isNull = false ∧
      ∃ f, schema.field? e.1 = some f ∧ f.name = e.1 ∧ f.isRelation = false) :
    compile schema single params = .ok (params.map fun e => .compare e.1 .eq e.2) := by
  refine compile_eq_ok.mpr ?_
  have hgiven : given params = params := List.filter_eq_self.mpr fun e he => by simp [(h e he).1]
  rw [hgiven, List.forall₂_map_right_iff, List.forall₂_same]
  intro e he
  obtain ⟨-, f, hf, hname, hscalar⟩ := h e he
  rw [← hname] at hf ⊢
  exact compileOne_field hf hscalar e.2

-- ---------------------------------------------------------------------------
-- The row of a key
-- ---------------------------------------------------------------------------

/-- Every key column of the row is equal to its part. -/
def Record.hasKey (keys parts : List String) (r : Record) : Bool :=
  (keys.zip parts).all fun e => Comparison.eq.holds (column r.columns e.1) (.string e.2)

namespace Store

theorem sorted_nil (rows : List Record) : sorted [] rows = rows := by
  refine List.mergeSort_of_pairwise (List.pairwise_of_forall fun a b => ?_)
  rfl

/-- The parameters of a key ask for the same as the parts, in whatever order they stand. -/
theorem selected_keys {keys parts : List String} (hkeys : keys.Nodup)
    (hlength : parts.length = keys.length) (s : Store) (table : String) :
    s.selected table ((KeyMap.ofEntries (keys.zip (parts.map Json.string))).map
        fun e => .compare e.1 .eq e.2) =
      (s.rows table).filter (Record.hasKey keys parts) := by
  have hnodup : (KeyMap.keys (keys.zip (parts.map Json.string))).Nodup := by
    have hle : keys.length ≤ (parts.map Json.string).length := by simp [hlength]
    rwa [KeyMap.keys, List.map_fst_zip hle]
  refine List.filter_congr fun r _ => Bool.eq_iff_iff.mpr ?_
  rw [List.all_map, List.all_eq_true, Record.hasKey, List.all_eq_true]
  simp only [KeyMap.mem_ofEntries hnodup]
  rw [List.zip_map_right, List.forall_mem_map]
  rfl

end Store

namespace Collection

variable {c : Collection} {s : Store}

/-- Without a selection a row is answered as it is stored. -/
theorem present_unselected (params : KeyMap Json) : c.present s { params := params } = id :=
  funext fun _ => rfl

/-- The first row under filters is found in the order of the table. -/
theorem getFirst_unsorted {config : Config} (hconfig : config.validate = .ok ())
    (hc : c.config = config.query) (honline : s.offline = false) {params : KeyMap Json}
    {ps : List Predicate} (hfilter : c.compilePredicates params none = .ok ps) :
    ((c.getFirst { params := params }).runOn s).1 = .ok (s.selected c.schema.table ps).head? := by
  have hsort : SortKey.parse c.schema none .asc = .ok [] := rfl
  have hlist : ((c.getList (ListRequest.onPage { params := params } (some 1) (some 1))).runOn s).1 =
      _ := list_filtered honline hfilter hsort (hc ▸ Window.within_first hconfig)
  rw [getFirst_eq, StoreM.runOn_map]
  show Except.map List.head?
    ((c.getList (ListRequest.onPage { params := params } (some 1) (some 1))).runOn s).1 = _
  rw [hlist, Except.map, Window.first, List.head?_map,
    Window.head?_slice_firstPage (UInt32.le_refl 1), Store.sorted_nil, present_unselected,
    Option.map_id, id]

/-- A look-up with a part for every key finds the first row that has these parts. -/
theorem getByKey_of_parts {config : Config} (hconfig : config.validate = .ok ())
    (hc : c.config = config.query) (hbuilt : c.schema.Built) (honline : s.offline = false)
    {pk : String} {parts : List String} (h : KeyParts pk c.schema.primaryKeys parts) :
    ((c.getByKey pk).runOn s).1 =
      .ok ((s.rows c.schema.table).find? (Record.hasKey c.schema.primaryKeys parts)) := by
  let params := KeyMap.ofEntries (c.schema.primaryKeys.zip (parts.map Json.string))
  have hcolumns : Parameters.compile c.schema c.config.singleValueInAsEq params =
      .ok (params.map fun e => .compare e.1 .eq e.2) := by
    refine Parameters.compile_fields fun e he => ?_
    obtain ⟨hkey, hvalue⟩ := List.of_mem_zip (KeyMap.mem_of_mem_ofEntries he)
    obtain ⟨part, -, hpart⟩ := List.mem_map.mp hvalue
    exact ⟨hpart ▸ rfl, hbuilt.primaryKey_scalar hkey⟩
  rw [getByKey, keyRequest_of_parts h, StoreM.runOn_bind_ok (StoreM.runOn_lift _),
    getFirst_unsorted hconfig hc honline (compilePredicates_flat hcolumns),
    Store.selected_keys hbuilt.nodup_primaryKeys h.length_eq, List.head?_filter]

/-- A text names a row by its key exactly when it gives a part to every primary key; then the
look-up succeeds and finds the first row that has these parts, if there is one. -/
theorem getByKey_finds_first (config : Config) (hconfig : config.validate = .ok ())
    (c : Collection) (hc : c.config = config.query) (hbuilt : c.schema.Built) (s : Store)
    (honline : s.offline = false) (pk : String) :
    ((∃ fault, ((c.getByKey pk).runOn s).1 = .error (.invalidKey fault)) ↔
      NoKeyParts pk c.schema.primaryKeys) ∧
    (¬ NoKeyParts pk c.schema.primaryKeys → ∃ parts, KeyParts pk c.schema.primaryKeys parts ∧
      ((c.getByKey pk).runOn s).1 =
        .ok ((s.rows c.schema.table).find? (Record.hasKey c.schema.primaryKeys parts))) := by
  have hfound {parts : List String} (h : KeyParts pk c.schema.primaryKeys parts) :=
    getByKey_of_parts hconfig hc hbuilt honline h
  refine ⟨⟨?_, fun h => ?_⟩, fun h => ?_⟩
  · rintro ⟨fault, hfault⟩
    refine (keyParts_or_noKeyParts pk _).resolve_left ?_
    rintro ⟨parts, hparts⟩
    rw [hfound hparts] at hfault
    cases hfault
  · obtain ⟨fault, hfault⟩ := keyRequest_of_noKeyParts h
    refine ⟨fault, ?_⟩
    rw [getByKey, hfault]
    rfl
  · obtain ⟨parts, hparts⟩ := (keyParts_or_noKeyParts pk c.schema.primaryKeys).resolve_right h
    exact ⟨parts, hparts, hfound hparts⟩

/-- The keys of a membership in order of declaration are not in the order of their names. The
row that is found is not the first of the table, and one part is too few. -/
theorem getByKey_finds_first_membership :
    let c : Collection := ⟨"Membership", Sample.membershipSchema, {}⟩
    let row (team hero : Int) : Record :=
      .ofColumns (KeyMap.ofEntries [("team_id", .int team), ("hero_id", .int hero)])
    let s := (Store.empty.insertRecord "membership" (row 1 2)).insertRecord "membership" (row 2 1)
    (Config.validate {} = .ok () ∧ c.schema.Built ∧ s.offline = false) ∧
      NoKeyParts "2" c.schema.primaryKeys ∧
      (∃ fault, ((c.getByKey "2").runOn s).1 = .error (.invalidKey fault)) ∧
      ¬ NoKeyParts " 2 , 1 " c.schema.primaryKeys ∧
      ((c.getByKey " 2 , 1 ").runOn s).1 = .ok (some (row 2 1)) := by
  intro c row s
  have hbuilt : c.schema.Built := Sample.membershipSchema_built
  have hkeys : c.schema.primaryKeys = ["team_id", "hero_id"] := by decide +kernel
  have hcut (pk : String) := Text.cutAtCommas_splitCommas pk
  have hfew : NoKeyParts "2" c.schema.primaryKeys :=
    .pieces (by rw [hkeys]; decide) (hcut "2") (.inl (by decide +kernel))
  obtain ⟨hrefused, -⟩ := getByKey_finds_first {} rfl c rfl hbuilt s rfl "2"
  obtain ⟨-, hfound⟩ := getByKey_finds_first {} rfl c rfl hbuilt s rfl " 2 , 1 "
  have hpieces {cut : List String} (h : Text.CutAtCommas " 2 , 1 " cut) :
      cut.map Text.trim = ["2", "1"] := by
    rw [← h.pieces_eq]
    decide +kernel
  have hparts : ¬ NoKeyParts " 2 , 1 " c.schema.primaryKeys := by
    rw [hkeys]
    intro h
    cases h with
    | pieces _ h hfault =>
      have hlength := congrArg List.length (hpieces h)
      rw [List.length_map] at hlength
      rcases hfault with hfault | ⟨piece, hpiece, hblank⟩
      · exact hfault hlength
      · have hmem := List.mem_map_of_mem (f := Text.trim) hpiece
        rw [hpieces h, hblank] at hmem
        exact absurd hmem (by decide)
  refine ⟨⟨rfl, hbuilt, rfl⟩, hfew, hrefused.mpr hfew, hparts, ?_⟩
  obtain ⟨parts, h, hrow⟩ := hfound hparts
  obtain rfl : parts = ["2", "1"] := by
    rw [hkeys] at h
    cases h with
    | pieces _ h _ _ => exact hpieces h
  have hfirst : Record.hasKey ["team_id", "hero_id"] ["2", "1"] (row 1 2) = false := by
    decide +kernel
  have hsecond : Record.hasKey ["team_id", "hero_id"] ["2", "1"] (row 2 1) = true := by
    decide +kernel
  have hrows : s.rows c.schema.table = [row 1 2, row 2 1] := by rfl
  rw [hrow, hrows, hkeys, List.find?_cons_of_neg (by simp [hfirst]), List.find?_cons_of_pos hsecond]

end Collection

end RecordQuery
