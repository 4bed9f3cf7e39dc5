import RecordQuery.Json.Order
import RecordQuery.Proofs.Instant.Written

/-!
# Texts that denote times

Two texts that denote times are ordered by these times, by a filter as by a sort, whatever the
notation and the offset of either.
-/

namespace RecordQuery.Json

theorem textOrder_of_denotes {s t : String} {x y : Int} (hs : Instant.Denotes s x)
    (ht : Instant.Denotes t y) : textOrder s t = compare x y := by
  obtain ⟨a, hreads, ha, rfl⟩ := Instant.parse?_of_denotes hs
  obtain ⟨b, hreadt, hb, rfl⟩ := Instant.parse?_of_denotes ht
  simp only [textOrder, hreads, hreadt]
  exact Instant.order_eq ha hb

theorem sortRank_of_denotes {s : String} {x : Int} (h : Instant.Denotes s x) :
    sortRank (.string s) = 3 := by
  obtain ⟨a, hread, -⟩ := Instant.parse?_of_denotes h
  simp [sortRank, hread]

/-- A filter and a sort both put two such texts in the order of their moments. -/
theorem timestamps_compare_chronologically {s t : String} {x y : Int}
    (hs : Instant.Denotes s x) (ht : Instant.Denotes t y) :
    (Json.string s).filterOrder? (.string t) = some (compare x y) ∧
      sortOrder (some (.string s)) (some (.string t)) = compare x y := by
  have horder := textOrder_of_denotes hs ht
  constructor
  · rw [filterOrder?, horder]
  · have hrank : compare (sortRank (.string s)) (sortRank (.string t)) = .eq := by
      rw [sortRank_of_denotes hs, sortRank_of_denotes ht]
      rfl
    simp [sortOrder, present?, rankOrder, hrank, horder]

open Instant in
/-- The last nanosecond of the half hour after a leap day comes before the end of that half hour,
which a clock one hour behind universal time still shows on the leap day. -/
theorem timestamps_compare_chronologically_leap_day :
    let d : Date := ⟨2024, 3, 1, by decide, by decide, by decide, by decide⟩
    let t : Clock := ⟨0, 29, 59, 999999999, by decide, by decide, by decide, by decide⟩
    let leap : Date := ⟨2024, 2, 29, by decide, by decide, by decide, by decide⟩
    let u : Clock := ⟨23, 30, 0, 0, by decide, by decide, by decide, by decide⟩
    let behind : Offset := ⟨false, 1, 0, by decide, by decide⟩
    let s := " 2024-03-01 00:29:59.999999999 "
    let r := "2024-02-29T23:30:00-01:00"
    Denotes s (moment d t) ∧ Denotes r (moment leap u - behind.seconds * 1000000000) ∧
      (Json.string s).filterOrder? (.string r) = some .lt ∧
      sortOrder (some (.string s)) (some (.string r)) = .lt := by
  intro d t leap u behind s r
  have hfraction : Fraction t.nano ('.' :: Numeral.padded 9 999999999) :=
    @Fraction.digits 9 999999999 (by decide) (by decide) (by decide)
  have hblank : ∀ c ∈ [' '], Text.isBlank c = true := by simp [Text.isBlank]
  have hs : Denotes s (moment d t) :=
    ⟨[' '], _, [' '], hblank, hblank, by decide, .civil d t (.inr rfl) hfraction⟩
  have hr : Denotes r (moment leap u - behind.seconds * 1000000000) :=
    ⟨[], _, [], by simp, by simp, by decide, .zoned leap u behind .whole⟩
  have hlt : compare (moment d t) (moment leap u - behind.seconds * 1000000000) = .lt := by
    decide +kernel
  have horder := timestamps_compare_chronologically hs hr
  rw [hlt] at horder
  exact ⟨hs, hr, horder⟩

end RecordQuery.Json
