/-!
# Maps with text keys

A map is the list of its entries in increasing order of the keys, each key once.
Texts are ordered by code points. `put` keeps the order, and a look-up after it sees
the new value.
-/

namespace RecordQuery

abbrev KeyMap (α : Type u) := List (String × α)

namespace KeyMap

def get? : KeyMap α → String → Option α
  | [], _ => none
  | (k', v) :: rest, k => if k = k' then some v else get? rest k

def has (m : KeyMap α) (k : String) : Bool := (get? m k).isSome

/-- Replaces the value of a key, or enters the key in its place. -/
def put : KeyMap α → String → α → KeyMap α
  | [], k, v => [(k, v)]
  | (k', v') :: rest, k, v =>
    if k = k' then (k, v) :: rest
    else if k < k' then (k, v) :: (k', v') :: rest
    else (k', v') :: put rest k v

/-- Of several entries with one key the last counts. -/
def ofEntries (entries : List (String × α)) : KeyMap α :=
  entries.foldl (fun m e => put m e.1 e.2) []

/-- The first map overlaid by the entries of the second. -/
def overlay (m n : KeyMap α) : KeyMap α := n.foldl (fun m e => put m e.1 e.2) m

def keys (m : KeyMap α) : List String := m.map Prod.fst

def Ordered (m : KeyMap α) : Prop := m.Pairwise fun a b => a.1 < b.1

theorem get?_put (m : KeyMap α) (k : String) (v : α) (j : String) :
    get? (put m k v) j = if j = k then some v else get? m j := by
  induction m with
  | nil => rfl
  | cons e rest ih =>
    obtain ⟨k', v'⟩ := e
    by_cases h1 : k = k'
    · subst h1
      by_cases h : j = k <;> simp [get?, put, h]
    · by_cases h2 : k < k'
      · simp [get?, put, h1, h2]
      · by_cases h : j = k'
        · subst h
          simp [get?, put, h1, h2, Ne.symm h1]
        · simp [get?, put, h1, h2, h, ih]

theorem mem_put {m : KeyMap α} {k : String} {v : α} {e : String × α} (h : e ∈ put m k v) :
    e = (k, v) ∨ e ∈ m := by
  induction m with
  | nil => simpa [put] using h
  | cons d rest ih =>
    simp only [put] at h
    split at h
    · rcases List.mem_cons.mp h with h | h
      · exact .inl h
      · exact .inr (List.mem_cons_of_mem _ h)
    · split at h
      · rcases List.mem_cons.mp h with h | h
        · exact .inl h
        · exact .inr h
      · rcases List.mem_cons.mp h with h | h
        · exact .inr (h ▸ List.mem_cons_self)
        · exact (ih h).imp id (List.mem_cons_of_mem _)

theorem ordered_put {m : KeyMap α} (h : Ordered m) (k : String) (v : α) : Ordered (put m k v) := by
  induction m with
  | nil => exact List.pairwise_singleton _ _
  | cons d rest ih =>
    obtain ⟨hd, hr⟩ := List.pairwise_cons.mp h
    simp only [put]
    split
    · next he => exact List.pairwise_cons.mpr ⟨he ▸ hd, hr⟩
    · next hne =>
      split
      · next hlt =>
        refine List.pairwise_cons.mpr ⟨fun e he => ?_, h⟩
        rcases List.mem_cons.mp he with rfl | he
        · exact hlt
        · exact String.lt_trans hlt (hd e he)
      · next hge =>
        refine List.pairwise_cons.mpr ⟨fun e he => ?_, ih hr⟩
        rcases mem_put he with rfl | he
        · exact Decidable.byContradiction fun hn =>
            hne (String.le_antisymm hn hge)
        · exact hd e he

theorem ordered_foldl_put (entries : List (String × α)) {m : KeyMap α} (h : Ordered m) :
    Ordered (entries.foldl (fun m e => put m e.1 e.2) m) := by
  induction entries generalizing m with
  | nil => exact h
  | cons e rest ih => exact ih (ordered_put h e.1 e.2)

theorem ordered_ofEntries (entries : List (String × α)) : Ordered (ofEntries entries) :=
  ordered_foldl_put entries List.Pairwise.nil

end KeyMap

end RecordQuery
