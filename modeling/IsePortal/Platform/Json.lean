import IsePortal.Library.Dict
import IsePortal.Platform.Text

/-!
# JSON as Python sees it

The values `json.loads` gives, and what the portal does with a value before it has looked at its
type: `or`, `get`, `str()` and `[0]`. Where Python raises, so do these functions, with the class of
the exception. The parser and `str()` are those of the runtime.
-/

namespace IsePortal

/-- The exceptions a JSON value of an unexpected type leads to. -/
inductive PyError where
  | jsonDecodeError
  | valueError
  | recursionError
  | attributeError
  | keyError
  | typeError
  deriving DecidableEq

inductive Json where
  | null
  | bool (value : Bool)
  | num (value : Rat)
  /-- `NaN`, `Infinity` and `-Infinity`, which the parser takes too. -/
  | nonFinite (name : String)
  | str (text : String)
  | arr (items : List Json)
  | obj (fields : List (String × Json))

/-- `json.loads` and `str` of the runtime. Besides `JSONDecodeError`, the parser raises `ValueError`
on an integer of too many digits and `RecursionError` on a text that is nested too deep. -/
class PyJson where
  loads : String → Except PyError Json
  str : Json → String
  str_str : ∀ text, str (.str text) = text

/-- A runtime with this parser, and with `str` on texts only (for the examples). -/
@[reducible] def PyJson.ofLoads (loads : String → Except PyError Json) : PyJson where
  loads := loads
  str
    | .str text => text
    | _ => ""
  str_str _ := rfl

/-- The fields of a JSON object; no key occurs twice. -/
abbrev JsonObject := List (String × Json)

namespace Json

/-- `bool(value)` -/
def truthy : Json → Bool
  | .null => false
  | .bool value => value
  | .num value => value ≠ 0
  | .nonFinite _ => true
  | .str text => text ≠ ""
  | .arr items => !items.isEmpty
  | .obj fields => !fields.isEmpty

/-- `first or second` -/
def or (first second : Json) : Json := if first.truthy then first else second

/-- The number a value counts as: `True` is 1 and `False` is 0. -/
def number : Json → Option Rat
  | .num value => some value
  | .bool value => some (if value then 1 else 0)
  | _ => none

/-- `first < second` where both are numbers. -/
def lt : Json → Json → Bool
  | .nonFinite name, .nonFinite other => name = "-Infinity" && other = "Infinity"
  | .nonFinite name, second => name = "-Infinity" && second.number.isSome
  | first, .nonFinite name => name = "Infinity" && first.number.isSome
  | first, second =>
      match first.number, second.number with
      | some value, some other => decide (value < other)
      | _, _ => false

theorem lt_self (value : Json) : value.lt value = false := by
  cases value with
  | bool value => cases value <;> simp [lt, number]
  | num value => simp [lt, number]
  | nonFinite name =>
      by_cases hname : name = "-Infinity"
      · subst hname
        decide
      · simp [lt, hname]
  | _ => rfl

/-- `int(value)` -/
def toInt : Json → Except PyError Int
  | .num value => .ok (if 0 ≤ value then value.floor else value.ceil)
  | .bool value => .ok (if value then 1 else 0)
  | .nonFinite _ => .error .valueError
  | .str text =>
      match text.toInt? with
      | some value => .ok value
      | none => .error .valueError
  | _ => .error .typeError

/-- The objects among the items of a list. -/
def objects (items : List Json) : List JsonObject :=
  items.filterMap fun item =>
    match item with
    | .obj fields => some fields
    | _ => none

end Json

namespace JsonObject

/-- `d.get(key, default)` -/
def getD (d : JsonObject) (key : String) (default : Json) : Json := (d.lookup key).getD default

/-- `d.get(first, "") or d.get(second, "")` -/
def getOr (d : JsonObject) (first second : String) : Json :=
  (d.getD first (.str "")).or (d.getD second (.str ""))

/-- `d[key] = value` -/
def set (d : JsonObject) (key : String) (value : Json) : JsonObject :=
  if (d.lookup key).isSome then Library.Dict.replaceList key value d else d ++ [(key, value)]

theorem lookup_set (d : JsonObject) (key other : String) (value : Json) :
    (d.set key value).lookup other = if other = key then some value else d.lookup other := by
  unfold set
  cases hkey : d.lookup key with
  | some old =>
      rw [Option.isSome_some, if_pos rfl, Library.Dict.lookup_replaceList, hkey]
      rfl
  | none =>
      rw [Option.isSome_none, if_neg Bool.false_ne_true, List.lookup_append]
      by_cases hother : other = key
      · subst hother
        simp [hkey]
      · have hne : (other == key) = false := by simpa using hother
        simp [hother, List.lookup_cons, hne]

/-- `{**d, **changes}` -/
def merge (d changes : JsonObject) : JsonObject :=
  changes.foldl (fun merged field => merged.set field.1 field.2) d

/-- A key of the changes has one of their values, and every other key its old one. -/
theorem lookup_merge (changes d : JsonObject) (key : String) :
    (d.merge changes).lookup key = d.lookup key ∧ changes.lookup key = none ∨
      ∃ value, (key, value) ∈ changes ∧ (d.merge changes).lookup key = some value := by
  unfold merge
  induction changes generalizing d with
  | nil => exact Or.inl ⟨rfl, rfl⟩
  | cons field rest ih =>
      obtain ⟨name, stored⟩ := field
      rw [List.foldl_cons]
      obtain ⟨hkeep, hnone⟩ | ⟨value, hmem, hvalue⟩ := ih (d.set name stored)
      · rw [hkeep, lookup_set]
        by_cases hname : key = name
        · exact Or.inr ⟨stored, by simp [hname], by simp [hname]⟩
        · have hne : (key == name) = false := by simpa using hname
          exact Or.inl ⟨by simp [hname], by simpa [List.lookup_cons, hne] using hnone⟩
      · exact Or.inr ⟨value, List.mem_cons_of_mem _ hmem, hvalue⟩

/-- After a merge with changes of distinct keys, a key has its value in the changes where they have
one. -/
theorem lookup_merge_of_nodup {changes : JsonObject} (hnodup : (changes.map Prod.fst).Nodup)
    (d : JsonObject) (key : String) :
    (d.merge changes).lookup key = (changes.lookup key).or (d.lookup key) := by
  unfold merge
  induction changes generalizing d with
  | nil => rfl
  | cons field rest ih =>
      obtain ⟨name, stored⟩ := field
      obtain ⟨hnew, hrest⟩ := List.nodup_cons.mp hnodup
      rw [List.foldl_cons, ih hrest, lookup_set, List.lookup_cons]
      by_cases hname : key = name
      · subst hname
        have hnone : rest.lookup key = none := by
          rw [List.lookup_eq_none_iff]
          intro other hother
          simp only [bne_iff_ne, ne_eq]
          intro heq
          exact hnew (List.mem_map.mpr ⟨other, hother, heq.symm⟩)
        simp [hnone]
      · have hne : (key == name) = false := by simpa using hname
        simp [hname, hne]

/-- In an object of one value for each of the names. -/
theorem lookup_map_self (names : List String) (f : String → Json) (name : String) :
    (names.map fun other => (other, f other)).lookup name =
      if name ∈ names then some (f name) else none := by
  induction names with
  | nil => rfl
  | cons first rest ih =>
      rw [List.map_cons, List.lookup_cons]
      by_cases hname : name = first
      · subst hname
        simp
      · have hne : (name == first) = false := by simpa using hname
        simp [hne, ih, hname]

/-- `d.get(key) or … or default`, over the keys in order. -/
def firstOf (d : JsonObject) (default : Json) : List String → Json
  | [] => default
  | key :: rest => (d.getD key .null).or (d.firstOf default rest)

end JsonObject

end IsePortal
