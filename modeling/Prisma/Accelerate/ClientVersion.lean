import Prisma.ClientEngine.Errors
import Mathlib.Data.List.Infix

/-! `getClientVersion` of `AccelerateEngine.ts`: the client version the engine sends to the Data
Proxy. An override wins; on an Accelerate host the configured version goes as it is, unless it is
`0.0.0` or `in-memory`; a release version `major.minor.patch` goes unchanged; for a prerelease,
`0.0.0` or `in-memory` the version is looked up on unpkg.com from the engine's own version; and any
other version is refused. -/

namespace Prisma.Accelerate.ClientVersion
open Prisma.ClientEngine.Json Prisma.ClientEngine.Errors

/-! ### Strings -/

/-- `String.prototype.split` with a one-character separator. -/
def split (sep : Char) : List Char → List (List Char)
  | [] => [[]]
  | c :: rest =>
    if c = sep then [] :: split sep rest
    else match split sep rest with
      | part :: parts => (c :: part) :: parts
      | [] => [[c]]

theorem split_of_not_mem (sep : Char) (cs : List Char) (absent : sep ∉ cs) : split sep cs = [cs] := by
  induction cs with
  | nil => rfl
  | cons c rest ih =>
    have other : c ≠ sep := fun same => absent (same ▸ List.mem_cons_self c rest)
    simp [split, other, ih fun mem => absent (List.mem_cons_of_mem c mem)]

theorem split_ne_nil (sep : Char) (cs : List Char) : split sep cs ≠ [] := by
  induction cs with
  | nil => simp [split]
  | cons c rest ih =>
    unfold split
    split
    · simp
    · split <;> simp

theorem split_append_sep (sep : Char) (first rest : List Char) (absent : sep ∉ first) :
    split sep (first ++ sep :: rest) = first :: split sep rest := by
  induction first with
  | nil => simp [split]
  | cons c first ih =>
    have other : c ≠ sep := fun same => absent (same ▸ List.mem_cons_self c first)
    simp [split, other, ih fun mem => absent (List.mem_cons_of_mem c mem)]

theorem split_of_mem (sep : Char) (cs : List Char) (present : sep ∈ cs) :
    ∃ first second rest, split sep cs = first :: second :: rest := by
  induction cs with
  | nil => cases present
  | cons c rest ih =>
    by_cases same : c = sep
    · obtain ⟨second, parts, split_rest⟩ := List.exists_cons_of_ne_nil (split_ne_nil sep rest)
      exact ⟨[], second, parts, by simp [split, same, split_rest]⟩
    · obtain ⟨first, second, parts, split_rest⟩ := ih ((List.mem_cons.mp present).resolve_left (Ne.symm same))
      exact ⟨c :: first, second, parts, by simp [split, same, split_rest]⟩

/-- `/^[1-9][0-9]*\.[0-9]+\.[0-9]+$/`: the strings it matches. -/
def SemverShape (cs : List Char) : Prop :=
  ∃ first major minor patch, cs = first :: (major ++ '.' :: (minor ++ '.' :: patch)) ∧ '1' ≤ first ∧ first ≤ '9' ∧
    (∀ d ∈ major, d.isDigit) ∧ minor ≠ [] ∧ (∀ d ∈ minor, d.isDigit) ∧ patch ≠ [] ∧ ∀ d ∈ patch, d.isDigit

/-- `[0-9]+` followed by what `rest` accepts. Nothing that may follow the digits in the expression
is a digit, so reading them as far as they go is the only match. -/
def digitsThen (rest : List Char → Bool) (cs : List Char) : Bool :=
  !(cs.takeWhile Char.isDigit).isEmpty && rest (cs.dropWhile Char.isDigit)

/-- `semverRegex.test`, read from left to right. -/
def semverRegexTest : List Char → Bool
  | first :: cs => ('1' ≤ first && first ≤ '9') &&
    match cs.dropWhile Char.isDigit with
    | '.' :: cs => digitsThen (fun | '.' :: cs => digitsThen List.isEmpty cs | _ => false) cs
    | _ => false
  | [] => false

theorem dropWhile_eq_cons_iff (p : Char → Bool) (l : List Char) (c : Char) (rest : List Char) :
    l.dropWhile p = c :: rest ↔ ∃ ds, l = ds ++ c :: rest ∧ (∀ d ∈ ds, p d) ∧ p c = false := by
  induction l with
  | nil => simp
  | cons x xs ih =>
    by_cases px : p x
    · rw [List.dropWhile_cons, if_pos px, ih]
      constructor
      · rintro ⟨ds, rfl, all, stop⟩
        exact ⟨x :: ds, rfl, by simpa [px] using all, stop⟩
      · rintro ⟨_ | ⟨d, ds⟩, same, all, stop⟩
        · obtain ⟨rfl, rfl⟩ : x = c ∧ xs = rest := by simpa using same
          simp [px] at stop
        · obtain ⟨rfl, rfl⟩ : x = d ∧ xs = ds ++ c :: rest := by simpa using same
          exact ⟨ds, rfl, fun d mem => all d (List.mem_cons_of_mem _ mem), stop⟩
    · rw [List.dropWhile_cons, if_neg px]
      constructor
      · intro same
        obtain ⟨rfl, rfl⟩ : x = c ∧ xs = rest := by simpa using same
        exact ⟨[], rfl, by simp, by simpa using px⟩
      · rintro ⟨_ | ⟨d, ds⟩, same, all, _⟩
        · simpa using same
        · obtain ⟨rfl, -⟩ : x = d ∧ xs = ds ++ c :: rest := by simpa using same
          exact absurd (all x (List.mem_cons_self _ _)) px

theorem takeWhile_ne_nil_iff (p : Char → Bool) (l : List Char) :
    (l.takeWhile p).isEmpty = false ↔ ∃ c cs, l = c :: cs ∧ p c := by
  cases l with
  | nil => simp
  | cons c cs => by_cases pc : p c <;> simp [List.takeWhile_cons, pc]

theorem digitsThen_iff (rest : List Char → Bool) (cs : List Char) :
    digitsThen rest cs = true ↔
      (∃ c cs', cs = c :: cs' ∧ c.isDigit) ∧ rest (cs.dropWhile Char.isDigit) = true := by
  simp only [digitsThen, Bool.and_eq_true, Bool.not_eq_true', takeWhile_ne_nil_iff]

/-- The expression matches a string exactly when the left-to-right reading accepts it. -/
theorem semverRegexTest_iff (cs : List Char) : semverRegexTest cs = true ↔ SemverShape cs := by
  constructor
  · intro accepted
    rcases cs with _ | ⟨first, cs⟩
    · cases accepted
    simp only [semverRegexTest, Bool.and_eq_true, decide_eq_true_eq] at accepted
    obtain ⟨⟨low, high⟩, afterMajor⟩ := accepted
    split at afterMajor
    · next r1 dropped =>
      obtain ⟨major, rfl, majorDigits, -⟩ := (dropWhile_eq_cons_iff _ _ _ _).mp dropped
      obtain ⟨⟨m, ms, rfl, mDigit⟩, afterMinor⟩ := (digitsThen_iff _ _).mp afterMajor
      split at afterMinor
      · next r2 dropped' =>
        obtain ⟨minor, minorEq, minorDigits, -⟩ := (dropWhile_eq_cons_iff _ _ _ _).mp dropped'
        obtain ⟨⟨q, qs, rfl, qDigit⟩, done⟩ := (digitsThen_iff _ _).mp afterMinor
        have patchDigits := List.dropWhile_eq_nil_iff.mp (List.isEmpty_iff.mp done)
        have minorNonempty : minor ≠ [] := by
          rintro rfl
          obtain ⟨rfl, -⟩ : m = '.' ∧ ms = q :: qs := by simpa using minorEq
          exact absurd mDigit (by decide)
        exact ⟨first, major, minor, q :: qs, by rw [minorEq], low, high, majorDigits, minorNonempty, minorDigits,
          List.cons_ne_nil _ _, patchDigits⟩
      · cases afterMinor
    · cases afterMajor
  · rintro ⟨first, major, minor, patch, rfl, low, high, majorDigits, minorNonempty, minorDigits, patchNonempty,
      patchDigits⟩
    have dot : Char.isDigit '.' = false := by decide
    obtain ⟨m, ms, rfl⟩ := List.exists_cons_of_ne_nil minorNonempty
    obtain ⟨q, qs, rfl⟩ := List.exists_cons_of_ne_nil patchNonempty
    have dropMajor := (dropWhile_eq_cons_iff Char.isDigit _ '.' (m :: ms ++ '.' :: q :: qs)).mpr
      ⟨major, rfl, majorDigits, dot⟩
    have dropMinor := (dropWhile_eq_cons_iff Char.isDigit _ '.' (q :: qs)).mpr ⟨m :: ms, rfl, minorDigits, dot⟩
    simp only [semverRegexTest, dropMajor, Bool.and_eq_true, decide_eq_true_eq]
    refine ⟨⟨low, high⟩, (digitsThen_iff _ _).mpr ⟨⟨m, _, rfl, minorDigits m (List.mem_cons_self _ _)⟩, ?_⟩⟩
    rw [dropMinor]
    exact (digitsThen_iff _ _).mpr ⟨⟨q, qs, rfl, patchDigits q (List.mem_cons_self _ _)⟩,
      List.isEmpty_iff.mpr (List.dropWhile_eq_nil_iff.mpr patchDigits)⟩

instance : DecidablePred SemverShape := fun cs => decidable_of_iff _ (semverRegexTest_iff cs)

/-! ### `encodeURI` -/

def hexDigit (n : Nat) : Char := if n < 10 then Char.ofNat (48 + n) else Char.ofNat (55 + n)

/-- Letters, digits and `;,/?:@&=+$-_.!~*'()#` stay; every other character becomes the
percent-escapes of its UTF-8 bytes. -/
def encodeURIChar (c : Char) : List Char :=
  if c.isAlphanum || ";,/?:@&=+$-_.!~*\x27()#".toList.contains c then [c]
  else (String.utf8EncodeChar c).flatMap fun b => ['%', hexDigit (b.toNat / 16), hexDigit (b.toNat % 16)]

def encodeURI (s : String) : String := String.mk (s.toList.flatMap encodeURIChar)

/-! ### The version the engine sends -/

/-- `process.env.PRISMA_CLIENT_DATA_PROXY_CLIENT_VERSION || globalThis.PRISMA_CLIENT_DATA_PROXY_CLIENT_VERSION`,
when it is truthy. -/
def override (env global : Option String) : Option String :=
  if truthy env then env else if truthy global then global else none

/-- `host.includes('accelerate') && clientVersion !== '0.0.0' && clientVersion !== 'in-memory'`. -/
def onAccelerate (host clientVersion : String) : Bool :=
  decide ("accelerate".toList <:+: host.toList) && clientVersion != "0.0.0" && clientVersion != "in-memory"

def prismaPkgURL (version : String) : String :=
  encodeURI ("https://unpkg.com/prisma@" ++ version ++ "/package.json")

/-- An element of a destructured `split`, in a template literal: `undefined` past the end. -/
def part (parts : List (List Char)) (i : Nat) : String := String.mk (parts[i]?.getD "undefined".toList)

/-- The URL of the lookup: the release part of the engine's version, as `<=major.minor.patch`. -/
def lookupURL (engineVersion : String) : String :=
  let parts := split '.' ((split '-' engineVersion.toList).headD [])
  prismaPkgURL ("<=" ++ part parts 0 ++ "." ++ part parts 1 ++ "." ++ part parts 2)

/-- An engine version `major.minor.patch`, alone or followed by a prerelease suffix after a `-`. -/
def ReleaseOf (engineVersion major minor patch : String) : Prop :=
  (engineVersion = major ++ "." ++ minor ++ "." ++ patch ∨ ∃ suffix, engineVersion = major ++ "." ++ minor ++ "." ++ patch ++ "-" ++ suffix) ∧
    ∀ part ∈ [major, minor, patch], '.' ∉ part.toList ∧ '-' ∉ part.toList

/-- The lookup asks unpkg.com for the release part of the engine's version as an upper bound. -/
theorem lookupURL_release (engineVersion major minor patch : String) (release : ReleaseOf engineVersion major minor patch) :
    lookupURL engineVersion =
      encodeURI ("https://unpkg.com/prisma@<=" ++ major ++ "." ++ minor ++ "." ++ patch ++ "/package.json") := by
  obtain ⟨shape, parts⟩ := release
  simp only [List.mem_cons, List.mem_singleton, List.not_mem_nil, or_false, forall_eq_or_imp, forall_eq] at parts
  obtain ⟨⟨majorDot, majorDash⟩, ⟨minorDot, minorDash⟩, patchDot, patchDash⟩ := parts
  have releaseDash : '-' ∉ (major ++ "." ++ minor ++ "." ++ patch).toList := by
    simp only [String.toList] at majorDash minorDash patchDash
    simp [String.toList, majorDash, minorDash, patchDash]
  have head : (split '-' engineVersion.toList).headD [] = (major ++ "." ++ minor ++ "." ++ patch).toList := by
    rcases shape with rfl | ⟨suffix, rfl⟩
    · rw [split_of_not_mem _ _ releaseDash]
      rfl
    · have joined : (major ++ "." ++ minor ++ "." ++ patch ++ "-" ++ suffix).toList =
          (major ++ "." ++ minor ++ "." ++ patch).toList ++ '-' :: suffix.toList := by simp [String.toList]
      rw [joined, split_append_sep _ _ _ releaseDash]
      rfl
  have dotted : (major ++ "." ++ minor ++ "." ++ patch).toList =
      major.toList ++ '.' :: (minor.toList ++ '.' :: patch.toList) := by simp [String.toList]
  simp only [lookupURL, head, dotted, split_append_sep _ _ _ majorDot, split_append_sep _ _ _ minorDot,
    split_of_not_mem _ _ patchDot, prismaPkgURL, part]
  exact congrArg encodeURI (String.ext (by simp))

/-- What `request(pkgURL, { clientVersion })` answers. -/
structure UnpkgResponse where
  ok : Bool
  status : String
  statusText : String
  body : String

/-- The end of the lookup, with `syntaxError` what `JSON.parse` throws on a body that is not JSON:
the `version` of the body, whatever it holds. -/
def lookup (response : UnpkgResponse) (syntaxError : Thrown) : Except Thrown JsValue :=
  if !response.ok then
    .error (.error "Error" ("Failed to fetch stable Prisma version, unpkg.com status " ++ response.status ++ " " ++
      response.statusText ++ ", response body: " ++ (if response.body = "" then "<empty body>" else response.body)) .nil)
  else match jsonParse response.body with
    | none => .error syntaxError
    | some body => match body.get? "version" with
      | some version => .ok version
      | none => .error (typeError "Cannot read properties of null (reading \x27version\x27)")

def notImplementedYet (clientVersion : String) : Thrown :=
  .error "NotImplementedYetError" "Only `major.minor.patch` versions are supported by Accelerate."
    (.cons "clientVersion" (.string clientVersion) .nil)

/-- `_getClientVersion(host, config)`: the URL it requests from unpkg.com, if it makes a request,
and the version it resolves with or what it throws. `engineVersion` is the package's
`@prisma/engines-version`, and `configured` is `config.clientVersion`. -/
def getClientVersion (engineVersion host : String) (configured env global : Option String)
    (response : UnpkgResponse) (syntaxError : Thrown) : Option String × Except Thrown JsValue :=
  let clientVersion := configured.getD "unknown"
  match override env global with
  | some version => (none, .ok (.string version))
  | none =>
    if onAccelerate host clientVersion then (none, .ok (.string clientVersion))
    else
      let parts := split '-' clientVersion.toList
      if parts[1]?.isNone && semverRegexTest (parts.headD []) then (none, .ok (.string (String.mk (parts.headD []))))
      else if parts[1]?.isSome || clientVersion = "0.0.0" || clientVersion = "in-memory" then
        (some (lookupURL engineVersion), lookup response syntaxError)
      else (none, .error (notImplementedYet clientVersion))

/-- `in-memory` has a prerelease suffix of its own, so the source's test for it before the lookup
is covered by the suffix test. -/
theorem getClientVersion_eq (engineVersion host : String) (configured env global : Option String)
    (response : UnpkgResponse) (syntaxError : Thrown) :
    getClientVersion engineVersion host configured env global response syntaxError =
      match override env global with
      | some version => (none, .ok (.string version))
      | none =>
        if onAccelerate host (configured.getD "unknown") then (none, .ok (.string (configured.getD "unknown")))
        else if '-' ∉ (configured.getD "unknown").toList ∧ SemverShape (configured.getD "unknown").toList then
          (none, .ok (.string (configured.getD "unknown")))
        else if '-' ∈ (configured.getD "unknown").toList ∨ configured.getD "unknown" = "0.0.0" then
          (some (lookupURL engineVersion), lookup response syntaxError)
        else (none, .error (notImplementedYet (configured.getD "unknown"))) := by
  unfold getClientVersion
  generalize configured.getD "unknown" = clientVersion
  cases override env global with
  | some version => rfl
  | none =>
    dsimp only
    split
    · rfl
    · by_cases hyphen : '-' ∈ clientVersion.toList
      · obtain ⟨first, second, rest, parts⟩ := split_of_mem '-' _ hyphen
        rw [parts]
        simp only [String.toList] at hyphen
        simp [hyphen]
      · have notMemory : clientVersion ≠ "in-memory" := by rintro rfl; exact hyphen (by decide)
        rw [split_of_not_mem '-' _ hyphen]
        simp only [String.toList] at hyphen
        simp [hyphen, notMemory, ← semverRegexTest_iff]

/-- The branches of `_getClientVersion`, with the URL of the lookup as `lookupURL` computes it. -/
theorem getClientVersion_branches (engineVersion host : String) (configured env global : Option String)
    (response : UnpkgResponse) (syntaxError : Thrown) :
    (∀ version, getClientVersion engineVersion host configured env global response syntaxError = (none, .ok version) →
      (∃ value, override env global = some value ∧ version = .string value) ∨
      (override env global = none ∧ version = .string (configured.getD "unknown") ∧
        (onAccelerate host (configured.getD "unknown") = true ∨ SemverShape (configured.getD "unknown").toList))) ∧
    (getClientVersion engineVersion host configured env global response syntaxError).1 =
      (if override env global = none ∧ onAccelerate host (configured.getD "unknown") = false ∧
          ('-' ∈ (configured.getD "unknown").toList ∨ configured.getD "unknown" = "0.0.0")
        then some (lookupURL engineVersion) else none) ∧
    (getClientVersion engineVersion host configured env global response syntaxError =
        (none, .error (notImplementedYet (configured.getD "unknown"))) ↔
      override env global = none ∧ onAccelerate host (configured.getD "unknown") = false ∧
        '-' ∉ (configured.getD "unknown").toList ∧ ¬SemverShape (configured.getD "unknown").toList ∧
        configured.getD "unknown" ≠ "0.0.0") := by
  rw [getClientVersion_eq]
  generalize configured.getD "unknown" = clientVersion
  simp only [String.toList]
  cases override env global with
  | some value => simp
  | none =>
    rcases eq_or_ne clientVersion "0.0.0" with rfl | zero
    · have : ¬SemverShape "0.0.0".data := by decide
      cases accelerate : onAccelerate host "0.0.0" <;> simp [accelerate, this]
    · cases accelerate : onAccelerate host clientVersion <;> by_cases hyphen : '-' ∈ clientVersion.data <;>
        by_cases shape : SemverShape clientVersion.data <;> simp [accelerate, hyphen, shape, zero]

/-- Whatever the host, the configured version and the overrides: a version resolved without a
request to unpkg.com is the override, or the configured version itself (`unknown` when none is
configured), which is a release version `major.minor.patch` unless the host is Accelerate; a request
is made exactly when there is no override, the Accelerate shortcut does not apply and the version
has a prerelease suffix or is `0.0.0`, and for an engine version `major.minor.patch`, with or
without a suffix, it asks for `<=major.minor.patch`; and the version is refused exactly when none of
this applies. -/
theorem getClientVersion_outcomes (engineVersion host : String) (configured env global : Option String)
    (response : UnpkgResponse) (syntaxError : Thrown) :
    (∀ version, getClientVersion engineVersion host configured env global response syntaxError = (none, .ok version) →
      (∃ value, override env global = some value ∧ version = .string value) ∨
      (override env global = none ∧ version = .string (configured.getD "unknown") ∧
        (onAccelerate host (configured.getD "unknown") = true ∨ SemverShape (configured.getD "unknown").toList))) ∧
    ((getClientVersion engineVersion host configured env global response syntaxError).1.isSome = true ↔
      override env global = none ∧ onAccelerate host (configured.getD "unknown") = false ∧
        ('-' ∈ (configured.getD "unknown").toList ∨ configured.getD "unknown" = "0.0.0")) ∧
    (∀ major minor patch url, ReleaseOf engineVersion major minor patch →
      (getClientVersion engineVersion host configured env global response syntaxError).1 = some url →
      url = encodeURI ("https://unpkg.com/prisma@<=" ++ major ++ "." ++ minor ++ "." ++ patch ++ "/package.json")) ∧
    (getClientVersion engineVersion host configured env global response syntaxError =
        (none, .error (notImplementedYet (configured.getD "unknown"))) ↔
      override env global = none ∧ onAccelerate host (configured.getD "unknown") = false ∧
        '-' ∉ (configured.getD "unknown").toList ∧ ¬SemverShape (configured.getD "unknown").toList ∧
        configured.getD "unknown" ≠ "0.0.0") := by
  obtain ⟨resolved, requested, refused⟩ :=
    getClientVersion_branches engineVersion host configured env global response syntaxError
  refine ⟨resolved, ?_, fun major minor patch url release asked => ?_, refused⟩
  · rw [requested]
    split <;> simp_all
  · rw [requested] at asked
    split at asked
    · cases asked
      exact lookupURL_release engineVersion major minor patch release
    · cases asked

example : getClientVersion "6.8.0-43.abc" "accelerate.prisma-data.net" (some "0.0.0") none none
    ⟨true, "200", "OK", "\x7b\"version\": \"6.7.0\"\x7d"⟩ (typeError "x") =
      (some "https://unpkg.com/prisma@%3C=6.8.0/package.json", .ok (.string "6.7.0")) := rfl

end Prisma.Accelerate.ClientVersion
