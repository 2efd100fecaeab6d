import Prisma.ClientEngine.Errors
import Mathlib.Data.List.Perm.Basic

/-! `#convertCompactedRows`: a compacted batch runs one query for many `findUnique` requests, and the
merged rows are handed back to the requests by their key columns. -/

namespace Prisma.ClientEngine.CompactedRows
open Json Errors

/-- One slot of a batch response: `{ data: { [action]: value } }`, or an error in its place. -/
inductive BatchQueryEngineResult where
  | data (action : String) (value : JsValue)
  | error (err : Thrown)
  deriving DecidableEq

/-- The fields of a `CompactedBatchResponse`; the plan is what the interpreter runs. -/
structure CompactedBatchResponse (Plan : Type) where
  plan : Plan
  keys : List String
  arguments : List JsEntries
  nestedSelection : List String
  expectNonEmpty : Bool

/-- The error of a request whose record is missing. -/
def recordNotFound (config : EngineConfig) : Thrown :=
  .knownRequestError
    "An operation failed because it depends on one or more records that were required but not found"
    "P2025" .undefined config.clientVersion

section
variable (doKeysMatch : JsEntries → JsEntries → Bool) (deserializeJsonResponse : JsValue → JsValue)
variable {Plan : Type}

/-- The key columns of one row, deserialized, as the `reduce` over `response.keys` builds them. -/
def keysOf (keys : List String) (item : JsEntries) : JsEntries :=
  keys.foldl (fun acc key => acc.set key (deserializeJsonResponse ((item.find? key).getD .undefined))) .nil

/-- The columns of a row named in the selection. -/
def selectColumns (nestedSelection : List String) (row : JsEntries) : JsEntries :=
  fromEntries (row.toList.filter fun (k, _) => nestedSelection.contains k)

def convertCompactedRows (config : EngineConfig) (rows : List JsEntries)
    (response : CompactedBatchResponse Plan) (action : String) : List BatchQueryEngineResult :=
  let keysPerRow := rows.map (keysOf deserializeJsonResponse response.keys)
  response.arguments.map fun args =>
    match keysPerRow.findIdx? (fun rowKeys => doKeysMatch rowKeys args) with
    | none =>
      if response.expectNonEmpty then .error (recordNotFound config)
      else .data action .null
    | some rowIndex =>
      .data action (.object (selectColumns response.nestedSelection (rows[rowIndex]?.getD .nil)))

/-! ### Each argument gets its first matching row -/

theorem findIdx?_bind_getElem? {α : Type} (l : List α) (p : α → Bool) :
    (l.findIdx? p).bind (l[·]?) = l.find? p := by
  induction l with
  | nil => rfl
  | cons x rest ih =>
    by_cases hit : p x
    · simp [hit]
    · simpa [hit, List.findIdx?_cons, Option.bind_map] using ih

/-- Whether the key columns of `row` match `args`. -/
def Matches (keys : List String) (args row : JsEntries) : Bool :=
  doKeysMatch (keysOf deserializeJsonResponse keys row) args

/-- What a slot holds once its row is found, or not. -/
def compactedSlot (config : EngineConfig) (response : CompactedBatchResponse Plan) (action : String) :
    Option JsEntries → BatchQueryEngineResult
  | none => if response.expectNonEmpty then .error (recordNotFound config) else .data action .null
  | some row => .data action (.object (selectColumns response.nestedSelection row))

/-- Looking the row up by its index in `keysPerRow` finds the first matching row. -/
theorem convertCompactedRows_eq_map_find (config : EngineConfig) (rows : List JsEntries)
    (response : CompactedBatchResponse Plan) (action : String) :
    convertCompactedRows doKeysMatch deserializeJsonResponse config rows response action =
      response.arguments.map fun args =>
        compactedSlot config response action
          (rows.find? (Matches doKeysMatch deserializeJsonResponse response.keys args)) := by
  refine List.map_congr_left fun args _ => ?_
  have found := findIdx?_bind_getElem? rows (Matches doKeysMatch deserializeJsonResponse response.keys args)
  have composed : (fun rowKeys => doKeysMatch rowKeys args) ∘ keysOf deserializeJsonResponse response.keys =
      Matches doKeysMatch deserializeJsonResponse response.keys args := rfl
  simp only [List.findIdx?_map, composed, ← found]
  cases hit : rows.findIdx? (Matches doKeysMatch deserializeJsonResponse response.keys args) with
  | none => rfl
  | some rowIndex =>
    obtain ⟨bound, -, -⟩ := List.findIdx?_eq_some_iff_getElem.mp hit
    simp [compactedSlot, List.getElem?_eq_getElem bound]

theorem find?_of_first {α : Type} (l : List α) (p : α → Bool) (j : Nat) (hj : j < l.length)
    (hit : p l[j]) (prior : ∀ k (hk : k < j), p l[k] = false) : l.find? p = some l[j] := by
  have first : l.findIdx? p = some j :=
    List.findIdx?_eq_some_iff_getElem.mpr ⟨hj, hit, fun k hk => by simpa using prior k hk⟩
  rw [← findIdx?_bind_getElem?, first]
  simp [List.getElem?_eq_getElem hj]

/-- With at most one match, the first match does not depend on the order of the list. -/
theorem find?_perm_of_unique {α : Type} (l l' : List α) (p : α → Bool) (same : l'.Perm l)
    (unique : (l.filter p).length ≤ 1) : l'.find? p = l.find? p := by
  rw [← List.filter_head?, ← List.filter_head?]
  have perm := same.filter p
  match found : l.filter p, unique with
  | [], _ => rw [found, List.perm_nil] at perm; rw [perm]
  | [row], _ => rw [found, List.perm_singleton] at perm; rw [perm]

/-- Slot `i` holds, from the first row whose key columns match `arguments[i]`, the entries whose key
is in `nestedSelection`; with no such row, the P2025 error of the engine's version or `null`. With at
most one matching row per argument the order of the rows does not matter, and a slot never carries
a row that does not match its own argument. -/
theorem convertCompactedRows_by_first_match (config : EngineConfig) (rows : List JsEntries)
    (response : CompactedBatchResponse Plan) (action : String) :
    let results := convertCompactedRows doKeysMatch deserializeJsonResponse config rows response action
    let matching := Matches doKeysMatch deserializeJsonResponse response.keys
    results.length = response.arguments.length ∧
    (∀ i (hi : i < response.arguments.length) j (hj : j < rows.length),
      matching response.arguments[i] rows[j] → (∀ k (hk : k < j), matching response.arguments[i] rows[k] = false) →
      results[i]? = some (.data action
        (.object (fromEntries (rows[j].toList.filter fun (k, _) => response.nestedSelection.contains k))))) ∧
    (∀ i (hi : i < response.arguments.length), (∀ row ∈ rows, matching response.arguments[i] row = false) →
      results[i]? = some (if response.expectNonEmpty then
        .error (.knownRequestError
          "An operation failed because it depends on one or more records that were required but not found"
          "P2025" .undefined config.clientVersion)
        else .data action .null)) ∧
    (∀ rows' : List JsEntries, rows'.Perm rows →
      (∀ args ∈ response.arguments, (rows.filter (matching args)).length ≤ 1) →
      convertCompactedRows doKeysMatch deserializeJsonResponse config rows' response action = results) ∧
    (∀ (i : Nat) (value : JsEntries), results[i]? = some (BatchQueryEngineResult.data action (.object value)) →
      ∃ args ∈ response.arguments[i]?, ∃ row ∈ rows, matching args row ∧
        value = fromEntries (row.toList.filter fun (k, _) => response.nestedSelection.contains k)) := by
  intro results matching
  have refined := convertCompactedRows_eq_map_find doKeysMatch deserializeJsonResponse config rows response action
  refine ⟨by simp [results, refined], fun i hi j hj hit prior => ?_, fun i hi missing => ?_,
    fun rows' same unique => ?_, fun i value carried => ?_⟩
  · simp [results, refined, List.getElem?_eq_getElem hi, find?_of_first rows _ j hj hit prior, compactedSlot,
      selectColumns]
  · have none : rows.find? (matching response.arguments[i]) = none := by simpa using missing
    simp [results, refined, List.getElem?_eq_getElem hi, none, compactedSlot, recordNotFound]
  · rw [convertCompactedRows_eq_map_find, show results = _ from refined]
    exact List.map_congr_left fun args member => by
      rw [find?_perm_of_unique rows rows' _ same (unique args member)]
  · simp only [results, refined, List.getElem?_map, Option.map_eq_some'] at carried
    obtain ⟨args, member, slot⟩ := carried
    cases found : rows.find? (Matches doKeysMatch deserializeJsonResponse response.keys args) with
    | none =>
      rw [found] at slot
      simp only [compactedSlot] at slot
      split at slot <;> cases slot
    | some row =>
      rw [found] at slot
      cases slot
      exact ⟨args, member, row, List.mem_of_find?_eq_some found, List.find?_some found, rfl⟩

/-- The scenario of three `findUnique` requests by `id` where the second record is missing. -/
example :
    convertCompactedRows (fun rowKeys args => decide (rowKeys = args)) id ⟨"6.0.0", "postgresql"⟩
      [.cons "id" (.number "1") (.cons "name" (.string "a") .nil),
        .cons "id" (.number "3") (.cons "name" (.string "c") .nil)]
      ⟨(), ["id"], [.cons "id" (.number "1") .nil, .cons "id" (.number "2") .nil,
        .cons "id" (.number "3") .nil], ["id", "name"], false⟩ "findUnique" =
      [.data "findUnique" (.object (.cons "id" (.number "1") (.cons "name" (.string "a") .nil))),
        .data "findUnique" .null,
        .data "findUnique" (.object (.cons "id" (.number "3") (.cons "name" (.string "c") .nil)))] := by
  decide

end

end Prisma.ClientEngine.CompactedRows
