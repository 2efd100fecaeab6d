import Mathlib.Data.List.Basic

/-! `redactCommandArray` of the CLI's checkpoint module: before the command line is sent with the
telemetry check, the value of every sensitive option is replaced by a tag. The loop rewrites the
array in place while it reads it. -/

namespace Prisma.Cli.Checkpoint

def SENSITIVE_CLI_OPTIONS : List String :=
  ["--url", "--shadow-database-url", "--from-url", "--to-url",
    "--schema", "--config", "--file", "--from-schema-datamodel", "--to-schema-datamodel",
    "--from-schema-datasource", "--to-schema-datasource", "--from-migrations", "--to-migrations",
    "--hostname",
    "--name", "--applied", "--rolled-back",
    "--token"]

def REDACTED_TAG : String := "[redacted]"

/-- Where `search` first occurs in `text`, counting from `start`. -/
def indexOfFrom (search text : List Char) (start : Nat) : Option Nat :=
  if search.isPrefixOf text then some start
  else match text with
    | [] => none
    | _ :: rest => indexOfFrom search rest (start + 1)

/-- `text.indexOf(search)`, with `-1` when `search` does not occur. -/
def indexOf (text search : String) : Int :=
  match indexOfFrom search.toList text.toList 0 with
  | some position => position
  | none => -1

/-- `commandArray[k] = value`; the loop writes at most one place past the end, which appends. -/
def assignAt (commandArray : List String) (k : Nat) (value : String) : List String :=
  if k < commandArray.length then commandArray.set k value else commandArray ++ [value]

/-- The body of `SENSITIVE_CLI_OPTIONS.forEach` at index `i`, for the `arg` read before it. -/
def redactOption (i : Nat) (arg : String) (commandArray : List String) (option : String) : List String :=
  if arg = option then assignAt commandArray (i + 1) REDACTED_TAG
  else if indexOf arg option ≠ -1 then assignAt commandArray i (option ++ "=" ++ REDACTED_TAG)
  else commandArray

/-- One turn of the `for` loop. -/
def redactAt (commandArray : List String) (i : Nat) : List String :=
  let arg := commandArray[i]?.getD ""
  SENSITIVE_CLI_OPTIONS.foldl (redactOption i arg) commandArray

/-- `for (let i = start; i < commandArray.length; i++)`, the length read afresh at every turn. -/
def redactLoop : Nat → Nat → List String → List String
  | 0, _, commandArray => commandArray
  | fuel + 1, i, commandArray =>
    if i < commandArray.length then redactLoop fuel (i + 1) (redactAt commandArray i) else commandArray

/-- The loop makes at most one turn more than the array is long: the only growth is a tag
appended by the last element, and the tag matches no option. -/
def redactCommandArray (commandArray : List String) : List String :=
  redactLoop (commandArray.length + 1) 0 commandArray

/-! ### The loop as a scan from left to right

At index `i` the cells before `i` are final, the cells after `i` are the input, and the cell at
`i` holds the input unless the turn before read a sensitive option and overwrote it. -/

/-- What one option does to the cell that holds `arg` when `arg` contains it without being it. -/
def cellStep (arg cell option : String) : String :=
  if arg ≠ option ∧ indexOf arg option ≠ -1 then option ++ "=" ++ REDACTED_TAG else cell

/-- What the partial matches leave in the cell of `arg`. -/
def redactCell (arg : String) : String := SENSITIVE_CLI_OPTIONS.foldl (cellStep arg) arg

/-- The array from the current cell on, once a tag is pending for that cell. -/
def withPending (pending : Bool) (rest : List String) : List String :=
  if pending then REDACTED_TAG :: rest.tail else rest

/-- The command line as the loop leaves it, read left to right: `pending` when the element before
was read as a sensitive option, so that this cell was overwritten before it was read. -/
def scan : Bool → List String → List String
  | pending, [] => if pending then [REDACTED_TAG] else []
  | pending, x :: rest =>
    let arg := if pending then REDACTED_TAG else x
    redactCell arg :: scan (decide (arg ∈ SENSITIVE_CLI_OPTIONS)) rest

theorem assignAt_self (done rest : List String) (cell value : String) :
    assignAt (done ++ cell :: rest) done.length value = done ++ value :: rest := by
  simp [assignAt, List.set_append_right]

theorem assignAt_next (done rest : List String) (cell value : String) :
    assignAt (done ++ cell :: rest) (done.length + 1) value = done ++ cell :: value :: rest.tail := by
  cases rest <;> simp [assignAt, List.set_append_right]

theorem withPending_tag (pending : Bool) (rest : List String) :
    withPending pending (REDACTED_TAG :: rest.tail) = withPending true rest := by
  cases pending <;> rfl

theorem foldl_redactOption (arg : String) (done : List String) (options : List String) :
    ∀ (cell : String) (rest : List String),
    options.foldl (redactOption done.length arg) (done ++ cell :: rest) =
      done ++ options.foldl (cellStep arg) cell :: withPending (decide (arg ∈ options)) rest := by
  induction options with
  | nil => simp [withPending]
  | cons option options ih =>
    intro cell rest
    by_cases same : arg = option
    · subst same
      simp [redactOption, assignAt_next, cellStep, ih, withPending_tag]
    · have unchanged : decide (arg ∈ option :: options) = decide (arg ∈ options) := by simp [same]
      by_cases found : indexOf arg option = -1
      · simp [redactOption, same, found, cellStep, ih, unchanged]
      · simp [redactOption, same, found, cellStep, assignAt_self, ih, unchanged]

theorem redactAt_spec (done rest : List String) (arg : String) :
    redactAt (done ++ arg :: rest) done.length =
      done ++ redactCell arg :: withPending (decide (arg ∈ SENSITIVE_CLI_OPTIONS)) rest := by
  have read : (done ++ arg :: rest)[done.length]?.getD "" = arg := by
    rw [List.getElem?_append_right le_rfl, Nat.sub_self, List.getElem?_cons_zero]
    rfl
  simp only [redactAt, read, redactCell, foldl_redactOption]

theorem redactCell_tag : redactCell REDACTED_TAG = REDACTED_TAG := by decide

theorem tag_not_sensitive : REDACTED_TAG ∉ SENSITIVE_CLI_OPTIONS := by decide

/-- The loop, from a cell on, does what `scan` says, given one turn more than what is left. -/
theorem redactLoop_scan (rest : List String) : ∀ (done : List String) (pending : Bool) (fuel : Nat),
    rest.length + 1 ≤ fuel →
    redactLoop fuel done.length (done ++ withPending pending rest) = done ++ scan pending rest := by
  induction rest with
  | nil =>
    intro done pending fuel enough
    obtain ⟨fuel, rfl⟩ : ∃ more, fuel = more + 1 := ⟨fuel - 1, by simp at enough; omega⟩
    cases pending
    · simp [withPending, redactLoop, scan]
    · have turned := redactAt_spec done [] REDACTED_TAG
      simp only [redactCell_tag, tag_not_sensitive, decide_False, withPending] at turned
      cases fuel <;> simp [withPending, redactLoop, scan, turned]
  | cons x rest ih =>
    intro done pending fuel enough
    obtain ⟨fuel, rfl⟩ : ∃ more, fuel = more + 1 := ⟨fuel - 1, by simp at enough; omega⟩
    have current : withPending pending (x :: rest) = (if pending then REDACTED_TAG else x) :: rest := by
      cases pending <;> rfl
    have next := ih (done ++ [redactCell (if pending then REDACTED_TAG else x)])
      (decide ((if pending then REDACTED_TAG else x) ∈ SENSITIVE_CLI_OPTIONS)) fuel (by simpa using enough)
    simp only [List.length_append, List.length_singleton, List.append_assoc, List.singleton_append] at next
    simp [redactLoop, current, redactAt_spec, next, scan]

theorem redactCommandArray_eq_scan (commandArray : List String) :
    redactCommandArray commandArray = scan false commandArray := by
  simpa using redactLoop_scan commandArray [] false (commandArray.length + 1) le_rfl

/-! ### What reaches the telemetry server -/

theorem scan_true_head (rest : List String) : (scan true rest)[0]? = some REDACTED_TAG := by
  cases rest <;> simp [scan, redactCell_tag]

theorem scan_redacts_value (argv : List String) : ∀ (pending : Bool) (j : Nat) (hj : j < argv.length),
    argv[j] ∈ SENSITIVE_CLI_OPTIONS → (j = 0 → pending = false) →
    (∀ i (hi : i + 1 = j), argv[i] ∉ SENSITIVE_CLI_OPTIONS) →
    (scan pending argv)[j + 1]? = some REDACTED_TAG := by
  induction argv with
  | nil => intro _ j hj; simp at hj
  | cons x rest ih =>
    intro pending j hj sensitive first unflagged
    cases j with
    | zero =>
      have flagged : decide (x ∈ SENSITIVE_CLI_OPTIONS) = true := by simpa using sensitive
      simp [scan, first rfl, flagged, scan_true_head]
    | succ j =>
      have first' : j = 0 → decide ((if pending then REDACTED_TAG else x) ∈ SENSITIVE_CLI_OPTIONS) = false := by
        rintro rfl
        have plain : x ∉ SENSITIVE_CLI_OPTIONS := unflagged 0 rfl
        cases pending <;> simp [plain, tag_not_sensitive]
      simpa [scan] using ih _ j (by simpa using hj) (by simpa using sensitive) first'
        (fun i hi => by simpa using unflagged (i + 1) (by omega))

theorem foldl_cellStep_cases (arg : String) (options : List String) : ∀ cell,
    options.foldl (cellStep arg) cell = cell ∨
      ∃ option ∈ options, options.foldl (cellStep arg) cell = option ++ "=" ++ REDACTED_TAG := by
  induction options with
  | nil => simp
  | cons option options ih =>
    intro cell
    by_cases fires : arg ≠ option ∧ indexOf arg option ≠ -1
    · have step : cellStep arg cell option = option ++ "=" ++ REDACTED_TAG := if_pos fires
      rcases ih (option ++ "=" ++ REDACTED_TAG) with same | ⟨later, member, tagged⟩
      · exact .inr ⟨option, List.mem_cons_self _ _, by rw [List.foldl_cons, step, same]⟩
      · exact .inr ⟨later, List.mem_cons_of_mem _ member, by rw [List.foldl_cons, step, tagged]⟩
    · have step : cellStep arg cell option = cell := if_neg fires
      rw [List.foldl_cons, step]
      rcases ih cell with same | ⟨later, member, tagged⟩
      · exact .inl same
      · exact .inr ⟨later, List.mem_cons_of_mem _ member, tagged⟩

theorem foldl_cellStep_of_mem (arg option : String) (options : List String) (member : option ∈ options)
    (other : arg ≠ option) (found : indexOf arg option ≠ -1) : ∀ cell,
    ∃ tagged ∈ options, options.foldl (cellStep arg) cell = tagged ++ "=" ++ REDACTED_TAG := by
  induction options with
  | nil => simp at member
  | cons head options ih =>
    intro cell
    rcases List.mem_cons.mp member with rfl | later
    · rcases foldl_cellStep_cases arg options (cellStep arg cell option) with same | ⟨tagged, member, result⟩
      · exact ⟨option, List.mem_cons_self _ _, by simpa [cellStep, other, found] using same⟩
      · exact ⟨tagged, List.mem_cons_of_mem _ member, result⟩
    · obtain ⟨tagged, member, result⟩ := ih later (cellStep arg cell head)
      exact ⟨tagged, List.mem_cons_of_mem _ member, result⟩

theorem indexOf_prefix (option rest : String) : indexOf (option ++ rest) option = 0 := by
  have leading : option.data.isPrefixOf (option.data ++ rest.data) = true := by
    simp [List.isPrefixOf_iff_prefix]
  have first : indexOfFrom option.data (option.data ++ rest.data) 0 = some 0 := by
    unfold indexOfFrom
    rw [if_pos leading]
  simp [indexOf, String.toList, first]

theorem no_equals_in_options : ∀ option ∈ SENSITIVE_CLI_OPTIONS, '=' ∉ option.toList := by decide

/-- An `--option=value` argument that no tag has overwritten keeps only an option name and the tag. -/
theorem redactCell_assignment (option value : String) (sensitive : option ∈ SENSITIVE_CLI_OPTIONS) :
    ∃ tagged ∈ SENSITIVE_CLI_OPTIONS, redactCell (option ++ "=" ++ value) = tagged ++ "=" ++ REDACTED_TAG := by
  have notOption : option ++ "=" ++ value ≠ option := by
    intro same
    have equals : '=' ∈ (option ++ "=" ++ value).toList := by simp [String.toList]
    exact no_equals_in_options option sensitive (same ▸ equals)
  have found : indexOf (option ++ "=" ++ value) option ≠ -1 := by
    rw [String.append_assoc, indexOf_prefix]
    decide
  exact foldl_cellStep_of_mem _ option _ sensitive notOption found _

theorem scan_redacts_assignment (argv : List String) : ∀ (pending : Bool) (j : Nat) (hj : j < argv.length),
    ∀ option ∈ SENSITIVE_CLI_OPTIONS, ∀ value, argv[j] = option ++ "=" ++ value →
    (scan pending argv)[j]? = some REDACTED_TAG ∨
      ∃ tagged ∈ SENSITIVE_CLI_OPTIONS, (scan pending argv)[j]? = some (tagged ++ "=" ++ REDACTED_TAG) := by
  induction argv with
  | nil => intro _ j hj; simp at hj
  | cons x rest ih =>
    intro pending j hj option sensitive value assignment
    cases j with
    | zero =>
      cases pending
      · obtain ⟨tagged, member, cell⟩ := redactCell_assignment option value sensitive
        simp only [List.getElem_cons_zero] at assignment
        exact .inr ⟨tagged, member, by simp [scan, assignment, cell]⟩
      · exact .inl (by simp [scan, redactCell_tag])
    | succ j =>
      simpa [scan] using ih _ j (by simpa using hj) option sensitive value (by simpa using assignment)

/-- The value after a sensitive option is tagged unless that option was itself taken as the value
of the option before it, and an `--option=value` argument never keeps its value. -/
theorem redactCommandArray_hides_values (argv : List String) :
    (∀ j (hj : j < argv.length), argv[j] ∈ SENSITIVE_CLI_OPTIONS →
      (∀ i (hi : i + 1 = j), argv[i] ∉ SENSITIVE_CLI_OPTIONS) →
      (redactCommandArray argv)[j + 1]? = some REDACTED_TAG) ∧
    (∀ j (hj : j < argv.length), ∀ option ∈ SENSITIVE_CLI_OPTIONS, ∀ value, argv[j] = option ++ "=" ++ value →
      (redactCommandArray argv)[j]? = some REDACTED_TAG ∨
      ∃ tagged ∈ SENSITIVE_CLI_OPTIONS, (redactCommandArray argv)[j]? = some (tagged ++ "=" ++ REDACTED_TAG)) := by
  rw [redactCommandArray_eq_scan]
  exact ⟨fun j hj sensitive unflagged => scan_redacts_value argv false j hj sensitive (fun _ => rfl) unflagged,
    scan_redacts_assignment argv false⟩

/-! ### Where a value goes out as it is -/

/-- A cell whose text contains no sensitive option keeps its text. -/
theorem redactCell_of_unmarked (value : String)
    (unmarked : ∀ option ∈ SENSITIVE_CLI_OPTIONS, indexOf value option = -1) : redactCell value = value := by
  suffices kept : ∀ options : List String, (∀ option ∈ options, indexOf value option = -1) →
      ∀ cell, options.foldl (cellStep value) cell = cell from kept _ unmarked value
  intro options
  induction options with
  | nil => exact fun _ _ => rfl
  | cons option options ih =>
    intro absent cell
    have step : cellStep value cell option = cell :=
      if_neg fun fires => fires.2 (absent option (List.mem_cons_self _ _))
    rw [List.foldl_cons, step]
    exact ih (fun other mem => absent other (List.mem_cons_of_mem _ mem)) cell

/-- The turn of a sensitive option overwrites the next cell before the loop reads it, so the next
argument is taken for a value and tagged even when it is a sensitive option itself; the argument
after that then goes out as it is, unless it contains an option name. -/
theorem redactCommandArray_leaks_after_adjacent_options (before rest : List String) (first second value : String)
    (plain : ∀ x ∈ before, x ∉ SENSITIVE_CLI_OPTIONS) (flagged : first ∈ SENSITIVE_CLI_OPTIONS)
    (unmarked : ∀ option ∈ SENSITIVE_CLI_OPTIONS, indexOf value option = -1) :
    (redactCommandArray (before ++ first :: second :: value :: rest))[before.length + 1]? = some REDACTED_TAG ∧
    (redactCommandArray (before ++ first :: second :: value :: rest))[before.length + 2]? = some value := by
  rw [redactCommandArray_eq_scan]
  induction before with
  | nil =>
    simp [scan, flagged, tag_not_sensitive, redactCell_tag, redactCell_of_unmarked value unmarked]
  | cons x before ih =>
    have read : decide (x ∈ SENSITIVE_CLI_OPTIONS) = false := by simpa using plain x (List.mem_cons_self _ _)
    simpa [scan, read] using ih fun y mem => plain y (List.mem_cons_of_mem _ mem)

/-- `prisma migrate dev --name --url postgres://u:p@h/db`, with the migration name forgotten: the
connection string reaches the telemetry server. -/
theorem forgotten_name_leaks_url :
    (∀ x ∈ ["migrate", "dev"], x ∉ SENSITIVE_CLI_OPTIONS) ∧ "--name" ∈ SENSITIVE_CLI_OPTIONS ∧
    "--url" ∈ SENSITIVE_CLI_OPTIONS ∧
    (∀ option ∈ SENSITIVE_CLI_OPTIONS, indexOf "postgres://u:p@h/db" option = -1) ∧
    (redactCommandArray ["migrate", "dev", "--name", "--url", "postgres://u:p@h/db"])[3]? = some REDACTED_TAG ∧
    (redactCommandArray ["migrate", "dev", "--name", "--url", "postgres://u:p@h/db"])[4]? =
      some "postgres://u:p@h/db" :=
  have plain : ∀ x ∈ ["migrate", "dev"], x ∉ SENSITIVE_CLI_OPTIONS := by decide
  have flagged : "--name" ∈ SENSITIVE_CLI_OPTIONS := by decide
  have taken : "--url" ∈ SENSITIVE_CLI_OPTIONS := by decide
  have unmarked : ∀ option ∈ SENSITIVE_CLI_OPTIONS, indexOf "postgres://u:p@h/db" option = -1 := by decide
  ⟨plain, flagged, taken, unmarked, redactCommandArray_leaks_after_adjacent_options ["migrate", "dev"] []
    "--name" "--url" "postgres://u:p@h/db" plain flagged unmarked⟩

end Prisma.Cli.Checkpoint
