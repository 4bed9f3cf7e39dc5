import RecordQuery.Text.CommaList
import RecordQuery.Text.Joined

/-!
# Cutting at commas

A text is cut at its commas in exactly one way: into pieces without commas that give the text
when commas are put between them. So a list of texts without commas is read back from its
joined text, whatever blanks and empty items are put into it on the way.
-/

namespace RecordQuery.Text

-- ---------------------------------------------------------------------------
-- Pieces
-- ---------------------------------------------------------------------------

theorem splitCommas_of_not_mem {cs : List Char} (h : ',' ∉ cs) : splitCommas cs = [cs] := by
  induction cs with
  | nil => rfl
  | cons c rest ih =>
    obtain ⟨hc, hrest⟩ := not_or.mp (mt List.mem_cons.mpr h)
    rw [splitCommas, if_neg (Ne.symm hc), ih hrest]
    rfl

/-- A piece ends at the first comma. -/
theorem splitCommas_append {front : List Char} (h : ',' ∉ front) (rest : List Char) :
    splitCommas (front ++ ',' :: rest) = front :: splitCommas rest := by
  induction front with
  | nil => exact if_pos rfl
  | cons c front ih =>
    obtain ⟨hc, hfront⟩ := not_or.mp (mt List.mem_cons.mpr h)
    rw [List.cons_append, splitCommas, if_neg (Ne.symm hc), ih hfront]
    rfl

theorem not_mem_of_mem_splitCommas {cs piece : List Char} (h : piece ∈ splitCommas cs) :
    ',' ∉ piece := by
  induction cs generalizing piece with
  | nil =>
    obtain rfl := List.mem_singleton.mp h
    exact List.not_mem_nil
  | cons c rest ih =>
    rw [splitCommas] at h
    split at h
    · rcases List.mem_cons.mp h with rfl | h
      · exact List.not_mem_nil
      · exact ih h
    · next hc =>
      obtain ⟨first, others, hsplit⟩ := List.exists_cons_of_ne_nil (splitCommas_ne_nil rest)
      rw [hsplit] at h ih
      rcases List.mem_cons.mp h with rfl | h
      · exact List.not_mem_cons_of_ne_of_not_mem (Ne.symm hc) (ih List.mem_cons_self)
      · exact ih (List.mem_cons_of_mem _ h)

theorem joined_cons (separator s : String) {rest : List String} (h : rest ≠ []) :
    joined separator (s :: rest) = s ++ separator ++ joined separator rest := by
  obtain ⟨t, rest, rfl⟩ := List.exists_cons_of_ne_nil h
  rfl

theorem toList_joined_splitCommas (cs : List Char) :
    (joined "," ((splitCommas cs).map String.ofList)).toList = cs := by
  induction cs with
  | nil => rfl
  | cons c rest ih =>
    have hne : (splitCommas rest).map String.ofList ≠ [] := by simp [splitCommas_ne_nil]
    rw [splitCommas]
    split
    · next hc =>
      rw [List.map_cons, joined_cons _ _ hne, String.toList_append, ih, hc]
      rfl
    · obtain ⟨first, others, hsplit⟩ := List.exists_cons_of_ne_nil (splitCommas_ne_nil rest)
      rw [hsplit] at ih ⊢
      rw [List.modifyHead_cons, ← List.singleton_append]
      cases others with
      | nil => simpa [joined] using ih
      | cons second others => simpa [joined] using ih

/-- The text is cut at all of its commas into the pieces between them. -/
structure CutAtCommas (s : String) (pieces : List String) : Prop where
  ne_nil : pieces ≠ []
  solid : ∀ piece ∈ pieces, ',' ∉ piece.toList
  joined : Text.joined "," pieces = s

theorem splitCommas_joined {pieces : List String} (hne : pieces ≠ [])
    (hsolid : ∀ piece ∈ pieces, ',' ∉ piece.toList) :
    splitCommas (joined "," pieces).toList = pieces.map String.toList := by
  induction pieces with
  | nil => exact absurd rfl hne
  | cons piece rest ih =>
    obtain ⟨hpiece, hrest⟩ := List.forall_mem_cons.mp hsolid
    cases rest with
    | nil => exact splitCommas_of_not_mem hpiece
    | cons next rest =>
      have htext : (joined "," (piece :: next :: rest)).toList =
          piece.toList ++ ',' :: (joined "," (next :: rest)).toList := by
        simp [joined]
      rw [htext, splitCommas_append hpiece, ih (List.cons_ne_nil _ _) hrest]
      rfl

/-- Every text can be cut. -/
theorem cutAtCommas_splitCommas (s : String) :
    CutAtCommas s ((splitCommas s.toList).map String.ofList) where
  ne_nil := by simp [splitCommas_ne_nil]
  solid := by
    intro piece hpiece
    obtain ⟨cs, hcs, rfl⟩ := List.mem_map.mp hpiece
    rw [String.toList_ofList]
    exact not_mem_of_mem_splitCommas hcs
  joined := String.toList_inj.mp (toList_joined_splitCommas s.toList)

namespace CutAtCommas

variable {s : String} {cut : List String}

theorem pieces_eq (h : CutAtCommas s cut) : pieces s = cut.map trim := by
  rw [pieces, ← h.joined, splitCommas_joined h.ne_nil h.solid, List.map_map]
  rfl

theorem items_eq (h : CutAtCommas s cut) : items s = names cut := by
  rw [items, h.pieces_eq, names]

end CutAtCommas

-- ---------------------------------------------------------------------------
-- Items
-- ---------------------------------------------------------------------------

theorem items_joined {cells : List String} (h : ∀ cell ∈ cells, ',' ∉ cell.toList) :
    items (joined "," cells) = names cells := by
  cases cells with
  | nil => rfl
  | cons cell rest => exact CutAtCommas.items_eq ⟨List.cons_ne_nil _ _, h, rfl⟩

theorem names_append (given more : List String) :
    names (given ++ more) = names given ++ names more := by
  simp [names]

theorem mem_names {given : List String} {name : String} :
    name ∈ names given ↔ (∃ cell ∈ given, trim cell = name) ∧ name ≠ "" := by
  simp [names]

theorem names_of_trimmed {given : List String}
    (h : ∀ name ∈ given, name ≠ "" ∧ trim name = name) : names given = given := by
  have htrim : given.map trim = given :=
    (List.map_congr_left fun name hname => (h name hname).2).trans (List.map_id given)
  rw [names, htrim]
  exact List.filter_eq_self.mpr (by simpa using fun name hname => (h name hname).1)

/-- The items of a text are the items of the text that they are joined to. -/
theorem items_joined_items (s : String) : items (joined "," (items s)) = items s := by
  have hcut := cutAtCommas_splitCommas s
  have hsolid : ∀ item ∈ items s, ',' ∉ item.toList := by
    intro item hitem hcomma
    rw [hcut.items_eq, mem_names] at hitem
    obtain ⟨⟨cell, hcell, rfl⟩, -⟩ := hitem
    exact hcut.solid cell hcell (mem_of_mem_trim hcomma)
  have htrimmed : ∀ item ∈ items s, item ≠ "" ∧ trim item = item := by
    intro item hitem
    rw [hcut.items_eq, mem_names] at hitem
    obtain ⟨⟨cell, -, rfl⟩, hne⟩ := hitem
    exact ⟨hne, trim_trim cell⟩
  rw [items_joined hsolid, names_of_trimmed htrimmed]

/-- The text consists of blanks. -/
def Blank (s : String) : Prop := ∀ c ∈ s.toList, isBlank c = true

/-- The cells of a list before commas are put between them: every item in its order, with any
blanks around it, and any number of blank cells among them. -/
inductive Spread : List String → List String → Prop
  | nil : Spread [] []
  | blank {items cells : List String} {cell : String} :
    Blank cell → Spread items cells → Spread items (cell :: cells)
  | item {items cells : List String} {before after : String} (item : String) :
    Blank before → Blank after → Spread items cells →
      Spread (item :: items) ((before ++ item ++ after) :: cells)

theorem not_mem_of_blank {s : String} (h : Blank s) : ',' ∉ s.toList :=
  fun hc => absurd (h ',' hc) (by decide)

theorem trim_of_blank {s : String} (h : Blank s) : trim s = "" := by
  have hnone : ∀ c ∈ ([] : List Char), isBlank c = true := nofun
  have htrim := trimChars_around [] h hnone
  rw [List.append_nil, List.append_nil] at htrim
  rw [trim, htrim]
  rfl

theorem trim_around {before after : String} (s : String) (hbefore : Blank before)
    (hafter : Blank after) : trim (before ++ s ++ after) = trim s := by
  rw [trim, trim, String.toList_append, String.toList_append, List.append_assoc,
    trimChars_around _ hbefore hafter]

namespace Spread

variable {items cells : List String}

theorem not_mem_cells (h : Spread items cells) (hitems : ∀ item ∈ items, ',' ∉ item.toList) :
    ∀ cell ∈ cells, ',' ∉ cell.toList := by
  induction h with
  | nil => nofun
  | blank hblank _ ih => exact List.forall_mem_cons.mpr ⟨not_mem_of_blank hblank, ih hitems⟩
  | item item hbefore hafter _ ih =>
    obtain ⟨hitem, hrest⟩ := List.forall_mem_cons.mp hitems
    refine List.forall_mem_cons.mpr ⟨?_, ih hrest⟩
    simp [not_mem_of_blank hbefore, not_mem_of_blank hafter, hitem]

theorem names_eq (h : Spread items cells) (hitems : ∀ item ∈ items, item ≠ "" ∧ trim item = item) :
    names cells = items := by
  induction h with
  | nil => rfl
  | blank hblank _ ih =>
    rw [← ih hitems]
    simp [names, trim_of_blank hblank]
  | item item hbefore hafter _ ih =>
    obtain ⟨⟨hne, htrim⟩, hrest⟩ := List.forall_mem_cons.mp hitems
    rw [← ih hrest]
    simp [names, trim_around _ hbefore hafter, htrim, hne]

end Spread

end RecordQuery.Text
