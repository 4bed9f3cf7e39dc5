import RecordQuery.Schema.Registry
import RecordQuery.Store

/-!
# A sample domain

Heroes, the teams they belong to, and memberships with a key of two columns, together
with a store of six heroes in three teams. Hero 5 has no age, no team and no pets.
-/

namespace RecordQuery.Sample

def heroSchema : Schema :=
  Schema.empty "Hero" "hero"
    |>.primaryKey "id" .integer
    |>.column "parent_id" .integer
    |>.indexed "name" .text
    |>.column "secret_name" .text
    |>.column "age" .integer
    |>.column "is_deprecated" .boolean
    |>.column "intro" .text
    |>.column "pets" .json
    |>.column "address_info" .json
    |>.column "create_time" .timestamp
    |>.column "update_time" .timestamp
    |>.column "team_id" .integer
    |>.relation "team" ⟨"Team", "team", "team_id", "id", .one⟩

def teamSchema : Schema :=
  Schema.empty "Team" "team"
    |>.primaryKey "id" .integer
    |>.indexed "name" .text
    |>.column "headquarters" .text
    |>.relation "heroes" ⟨"Hero", "hero", "id", "team_id", .many⟩

def membershipSchema : Schema :=
  Schema.empty "Membership" "membership"
    |>.primaryKey "team_id" .integer
    |>.primaryKey "hero_id" .integer
    |>.column "role" .text

def hero : EntityType := ⟨"hero", "Hero", heroSchema⟩

def team : EntityType := ⟨"team", "Team", teamSchema⟩

def membership : EntityType := ⟨"membership", "Membership", membershipSchema⟩

def teamRow (id : Int) (name headquarters : String) : Record :=
  .ofColumns (KeyMap.ofEntries
    [("id", .int id), ("name", .string name), ("headquarters", .string headquarters)])

def heroRow (id : Nat) (name : String) (age team : Option Int) (pets : Json) (time : String) :
    Record :=
  let orNull (i : Option Int) : Json := (i.map Json.int).getD .null
  .ofColumns (KeyMap.ofEntries
    [("id", .int id), ("parent_id", .null), ("name", .string name),
      ("secret_name", .string s!"secret-{id}"), ("age", orNull age),
      ("is_deprecated", .bool (id == 6)), ("intro", .null), ("pets", pets),
      ("address_info", .ofMembers [("city", .string "Gotham")]),
      ("create_time", .string time), ("update_time", .string time),
      ("team_id", orNull team)])

def teams : List Record :=
  [teamRow 1 "Preventers" "Sharp Tower", teamRow 2 "Z-Force" "Sister Margaret's Bar",
    teamRow 3 "Idle" "Nowhere"]

def heroes : List Record :=
  [heroRow 1 "李浩然" (some 18) (some 1) (.strings ["cat"]) "2024-09-01T10:00:00",
    heroRow 2 "王浩" (some 25) (some 1) (.strings ["dog"]) "2024-09-02T10:00:00",
    heroRow 3 "n1" (some 3) (some 2) (.strings ["cat", "dog"]) "2024-09-03T10:00:00",
    heroRow 4 "n2" (some 4) (some 2) (.strings []) "2024-09-04T10:00:00",
    heroRow 5 "Deadpond" none none .null "2024-09-05T10:00:00",
    heroRow 6 "Rusty-Man" (some 48) (some 1) (.strings ["fish"]) "2024-09-06T10:00:00"]

def store : Store :=
  let withTeams := teams.foldl (·.insertRecord "team" ·) Store.empty
  heroes.foldl (·.insertRecord "hero" ·) withTeams

end RecordQuery.Sample
