import Mathlib

/-!
JSON documents as the database stores them, with the two readings the programs use: the
`->` operator of the database and the truth value of the decoded document.
-/

inductive JsonValue where
  | null
  | bool (b : Bool)
  | num (n : Int)
  | str (s : String)
  | arr (items : List JsonValue)
  | obj (fields : List (String × JsonValue))

namespace JsonValue

/-- `document -> name`: no value unless the document is an object with that field. -/
def get? : JsonValue → String → Option JsonValue
  | obj fields, name => (fields.find? fun entry => entry.1 = name).map Prod.snd
  | _, _ => none

def isObject : JsonValue → Bool
  | obj _ => true
  | _ => false

def isArray : JsonValue → Bool
  | arr _ => true
  | _ => false

def isNull : JsonValue → Bool
  | null => true
  | _ => false

def asString? : JsonValue → Option String
  | str s => some s
  | _ => none

def asInt? : JsonValue → Option Int
  | num n => some n
  | _ => none

def ofStrings (entries : List (String × String)) : JsonValue :=
  obj (entries.map fun entry => (entry.1, str entry.2))

/-- The document equals the object of the given strings, whatever the order of its fields. -/
def equalsStrings (document : JsonValue) (entries : List (String × String)) : Bool :=
  match document with
  | obj fields => fields.length = entries.length &&
      entries.all fun entry => (document.get? entry.1).bind asString? = some entry.2
  | _ => false

/-- `fields[name] = value`: a field that exists keeps its place. -/
def setField (fields : List (String × JsonValue)) (name : String) (value : JsonValue) :
    List (String × JsonValue) :=
  if fields.any fun entry => entry.1 = name then
    fields.map fun entry => if entry.1 = name then (name, value) else entry
  else fields ++ [(name, value)]

/-- `fields.update(entries)`. -/
def updateFields (fields entries : List (String × JsonValue)) : List (String × JsonValue) :=
  entries.foldl (fun acc entry => setField acc entry.1 entry.2) fields

def truthy : JsonValue → Bool
  | null => false
  | bool b => b
  | num n => n ≠ 0
  | str s => s ≠ ""
  | arr items => !items.isEmpty
  | obj fields => !fields.isEmpty

theorem get?_ofStrings {entries : List (String × String)} (hkeys : (entries.map Prod.fst).Nodup)
    {entry : String × String} (hmem : entry ∈ entries) :
    (ofStrings entries).get? entry.1 = some (str entry.2) := by
  induction entries with
  | nil => cases hmem
  | cons first rest ih =>
    rw [List.map_cons, List.nodup_cons] at hkeys
    rcases List.mem_cons.mp hmem with rfl | hrest
    · simp [ofStrings, get?]
    · have hne : first.1 ≠ entry.1 := fun he => hkeys.1 (he ▸ List.mem_map_of_mem hrest)
      simpa [ofStrings, get?, hne] using ih hkeys.2 hrest

theorem equalsStrings_ofStrings {entries : List (String × String)}
    (hkeys : (entries.map Prod.fst).Nodup) : (ofStrings entries).equalsStrings entries = true := by
  have hall : ∀ entry ∈ entries,
      ((ofStrings entries).get? entry.1).bind asString? = some entry.2 := by
    intro entry hmem
    rw [get?_ofStrings hkeys hmem]
    rfl
  unfold equalsStrings ofStrings
  rw [Bool.and_eq_true]
  refine ⟨by simp, ?_⟩
  rw [List.all_eq_true]
  intro entry hmem
  exact decide_eq_true (hall entry hmem)

end JsonValue
