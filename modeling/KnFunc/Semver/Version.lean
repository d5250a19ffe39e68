import Mathlib.Data.Prod.Lex
import Mathlib.Data.String.Basic
import KnFunc.Core.Act

/-!
# Semantic versions, as `github.com/coreos/go-semver` reads and orders them

The migration engine compares a descriptor's `version` field against each
migration's threshold with `semver.New(..).LessThan(..)`. Both halves are the
library's, so both are modelled here: `parseVersion` is `Set` with the error
it returns, `newVersion` is `NewVersion`, `Version.compare` is `Compare`, and
`semverNew` is `New`, which PANICS on a string `NewVersion` rejects, with
`NewVersion`'s error: `1.0 is not in dotted-tri format`, or what
`strconv.ParseInt` returns (`strconv.ParseInt: parsing "v1": invalid syntax`).

`Set` splits metadata off at the first `+`, the pre-release at the first `-`,
cuts the rest at two dots, validates both identifiers and parses three decimal
numbers of at most 63 bits. `Compare` orders major, minor and patch
numerically, then puts a version without a pre-release above one with, then
weighs pre-release identifiers one by one: numeric ones (those `strconv.Atoi`
accepts) below alphanumeric ones, numerics by value, and then by text; a
shorter list of equal identifiers comes first. Metadata is never compared.

**What is proved**: the order is a strict weak order (`lessThan_irrefl`,
`lessThan_trans`, `lessThan_asymm`, `not_lessThan_trans`). Every comparison
is a `compareLex` of comparisons `Batteries` already knows to be transitive,
except the identifier-list one, whose `TransCmp` is proved here by induction.
-/

namespace KnFunc.Semver

open Batteries

/-- `semver.Version`. The three numbers are non-negative: `Set` has split every
`+` and `-` off before it parses them. -/
structure Version where
  major : Nat
  minor : Nat
  patch : Nat
  preRelease : List Char
  metadata : List Char
  deriving DecidableEq, Repr

/-! ## Parsing -/

/-- `splitOff`: the input before the first `delim`, and the text after it. With
no `delim` the input stays whole and the split-off text is empty. -/
def splitOff (delim : Char) : List Char → List Char × List Char
  | [] => ([], [])
  | c :: cs =>
    if c = delim then ([], cs)
    else ((splitOff delim cs).1.cons c, (splitOff delim cs).2)

/-- `strings.SplitN(s, sep, n)`: at most `n` parts, the last one holding the
rest of the input. -/
def splitN (sep : Char) : Nat → List Char → List (List Char)
  | 0, _ => []
  | 1, s => [s]
  | n + 2, s =>
    match s.span (· ≠ sep) with
    | (before, []) => [before]
    | (before, _ :: after) => before :: splitN sep (n + 1) after

/-- A non-empty run of decimal digits, and its value. -/
def parseDigits : List Char → Option Nat
  | [] => none
  | c :: cs => cs.foldl (fun acc d => acc.bind fun n =>
      if d.isDigit then some (10 * n + (d.toNat - '0'.toNat)) else none)
      (if c.isDigit then some (c.toNat - '0'.toNat) else none)

/-- `strconv.Quote`'s escape of one character: `"` and the backslash
backslashed, the ASCII control characters as `\a` to `\v` or `\x` with two
hex digits, every other character as it is. -/
def quoteChar (c : Char) : List Char :=
  if c = '"' ∨ c.toNat = 92 then [Char.ofNat 92, c]
  else match c.toNat with
    | 7 => [Char.ofNat 92, 'a']
    | 8 => [Char.ofNat 92, 'b']
    | 9 => [Char.ofNat 92, 't']
    | 10 => [Char.ofNat 92, 'n']
    | 11 => [Char.ofNat 92, 'v']
    | 12 => [Char.ofNat 92, 'f']
    | 13 => [Char.ofNat 92, 'r']
    | n => if n < 32 ∨ n = 127 then [Char.ofNat 92, 'x', Nat.digitChar (n / 16), Nat.digitChar (n % 16)] else [c]

/-- `strconv.Quote`, as `NumError.Error` prints the text it failed on. -/
def quote (s : List Char) : List Char := '"' :: (s.map quoteChar).flatten ++ ['"']

/-- How `strconv.ParseUint` stops: `ErrSyntax` (`invalid`) or `ErrRange`
(`outOfRange`). -/
inductive NumError where
  | invalid
  | outOfRange
  deriving DecidableEq, Repr

/-- `strconv.ParseUint(s, 10, 64)`'s loop: digit by digit, stopping at the
first character that is not a decimal digit, or at the first digit that takes
the value to 64 bits, whichever comes first. -/
def scanUint : Nat → List Char → Except NumError Nat
  | n, [] => .ok n
  | n, c :: cs =>
    if c.isDigit then
      if 10 * n + (c.toNat - '0'.toNat) < 2 ^ 64 then scanUint (10 * n + (c.toNat - '0'.toNat)) cs
      else .error .outOfRange
    else .error .invalid

/-- `strconv.ParseInt(s, 10, 64)` on text with no sign (`Set` has split every
`+` and `-` off), with the error it returns: an empty or non-decimal text is
invalid syntax, a value of 63 bits or more out of range. -/
def parseInt64 (s : List Char) : Except String Nat :=
  let fail (reason : String) : Except String Nat :=
    .error ("strconv.ParseInt: parsing " ++ String.mk (quote s) ++ ": " ++ reason)
  match s, scanUint 0 s with
  | [], _ => fail "invalid syntax"
  | _, .error .invalid => fail "invalid syntax"
  | _, .error .outOfRange => fail "value out of range"
  | _, .ok n => if n < 2 ^ 63 then .ok n else fail "value out of range"

/-- A character of `reIdentifier`'s class `[0-9A-Za-z-]`. -/
def isIdentifierChar (c : Char) : Bool := c.isAlphanum || c = '-'

/-- `validateIdentifier`: empty, or dot-separated non-empty runs of
identifier characters (`^[0-9A-Za-z-]+(\.[0-9A-Za-z-]+)*$`). -/
def validIdentifier (id : List Char) : Bool :=
  id.isEmpty || (id.splitOn '.').all fun part => !part.isEmpty && part.all isIdentifierChar

/-- `Version.Set`, with the error it returns: metadata split off at the first
`+`, the pre-release at the first `-`, the rest cut at two dots; then the
identifiers validated and the three numbers parsed, the first failure ending it. -/
def parseVersion (version : String) : Except String Version :=
  let (rest, metadata) := splitOff '+' version.data
  let (rest, preRelease) := splitOff '-' rest
  match splitN '.' 3 rest with
  | [major, minor, patch] =>
    if !validIdentifier preRelease then
      .error ("failed to validate pre-release: " ++ String.mk preRelease ++ " is not a valid semver identifier")
    else if !validIdentifier metadata then
      .error ("failed to validate metadata: " ++ String.mk metadata ++ " is not a valid semver identifier")
    else do
      let major ← parseInt64 major
      let minor ← parseInt64 minor
      let patch ← parseInt64 patch
      pure ⟨major, minor, patch, preRelease, metadata⟩
  | _ => .error (String.mk rest ++ " is not in dotted-tri format")

/-- `NewVersion`: the version `Set` parses; `none` where it returns an error. -/
def newVersion (version : String) : Option Version := (parseVersion version).toOption

/-- `semver.New`: `Must(NewVersion(version))`, which panics with the error
`NewVersion` returns. -/
def semverNew (version : String) : Except Fault Version := (parseVersion version).mapError .panic

/-! ## Ordering -/

/-- `strconv.Atoi`: an optional sign, then decimal digits, in 64-bit range. -/
def atoi (s : List Char) : Option Int :=
  let signed : Bool × List Char := match s with
    | '-' :: ds => (true, ds)
    | '+' :: ds => (false, ds)
    | ds => (false, ds)
  (parseDigits signed.2).bind fun n =>
    let i : Int := if signed.1 then -n else n
    if -((2 ^ 63 : Nat) : Int) ≤ i ∧ i < ((2 ^ 63 : Nat) : Int) then some i else none

instance transCmpIntCompare : TransCmp (compare : Int → Int → Ordering) :=
  TransCmp.compareOfLessAndEq_of_le Int.lt_irrefl Int.lt_trans Int.not_lt.mp Int.le_antisymm

/-- One pre-release identifier against another, as `recursivePreReleaseCompare`
weighs a pair: a numeric one below an alphanumeric one, two numerics by value,
and then (numerics of equal value too) the texts. -/
def compareIdentifier : List Char → List Char → Ordering :=
  compareLex (compareOn fun s => (atoi s).isNone) <|
    compareLex (compareOn fun s => (atoi s).getD 0) (compareOn String.mk)

/-- `recursivePreReleaseCompare`: identifier by identifier; when one list runs
out first, it is the smaller. -/
def compareIdentifiers : List (List Char) → List (List Char) → Ordering
  | [], [] => .eq
  | [], _ :: _ => .lt
  | _ :: _, [] => .gt
  | a :: as, b :: bs => (compareIdentifier a b).then (compareIdentifiers as bs)

/-- `preReleaseCompare`: a version without a pre-release is above one with;
otherwise the dot-separated identifiers decide. -/
def comparePreRelease : List Char → List Char → Ordering :=
  compareLex (compareOn List.isEmpty) (Ordering.byKey (List.splitOn '.') compareIdentifiers)

/-- `Version.Compare`: major, minor, patch, then the pre-release. -/
def Version.compare : Version → Version → Ordering :=
  compareLex (compareOn Version.major) <| compareLex (compareOn Version.minor) <|
    compareLex (compareOn Version.patch) (Ordering.byKey Version.preRelease comparePreRelease)

/-- `Version.LessThan`. -/
def Version.lessThan (v w : Version) : Bool := v.compare w = .lt

instance : TransCmp compareIdentifier := by unfold compareIdentifier; infer_instance

private theorem compareIdentifiers_swap :
    ∀ as bs, (compareIdentifiers as bs).swap = compareIdentifiers bs as
  | [], [] | [], _ :: _ | _ :: _, [] => rfl
  | a :: as, b :: bs => by
    simp only [compareIdentifiers, Ordering.swap_then, compareIdentifiers_swap as bs,
      OrientedCmp.symm a b]

private theorem compareIdentifiers_le_trans :
    ∀ {as bs cs}, compareIdentifiers as bs ≠ .gt → compareIdentifiers bs cs ≠ .gt →
      compareIdentifiers as cs ≠ .gt
  | [], _, [] | [], _, _ :: _ => by simp [compareIdentifiers]
  | _ :: _, [], _ => by simp [compareIdentifiers]
  | _ :: _, _ :: _, [] => by simp [compareIdentifiers]
  | a :: as, b :: bs, c :: cs => by
    simp only [compareIdentifiers, ne_eq, Ordering.then_eq_gt, not_or, not_and]
    intro hab hbc
    refine ⟨TransCmp.le_trans hab.1 hbc.1, fun hac => ?_⟩
    cases h : compareIdentifier a b with
    | gt => exact absurd h hab.1
    | eq =>
      have hbc' := hbc.2 (TransCmp.cmp_congr_left h ▸ hac)
      exact compareIdentifiers_le_trans (hab.2 h) hbc'
    | lt => exact absurd (OrientedCmp.cmp_eq_gt.2 (TransCmp.cmp_congr_left hac ▸ h)) hbc.1

instance : TransCmp compareIdentifiers where
  symm := compareIdentifiers_swap
  le_trans := compareIdentifiers_le_trans

instance : TransCmp comparePreRelease := by unfold comparePreRelease; infer_instance

instance : TransCmp Version.compare := by unfold Version.compare; infer_instance

theorem lessThan_iff {v w : Version} : v.lessThan w ↔ v.compare w = .lt := by
  simp [Version.lessThan]

theorem lessThan_irrefl (v : Version) : ¬ v.lessThan v := by
  simp [lessThan_iff, OrientedCmp.cmp_refl]

theorem lessThan_trans {u v w : Version} (huv : u.lessThan v) (hvw : v.lessThan w) :
    u.lessThan w := by
  rw [lessThan_iff] at *
  exact TransCmp.lt_trans huv hvw

theorem lessThan_asymm {v w : Version} (hvw : v.lessThan w) : ¬ w.lessThan v := by
  rw [lessThan_iff] at *
  exact TransCmp.lt_asymm hvw

/-- Not being below is transitive, the order being a strict weak order. -/
theorem not_lessThan_trans {u v w : Version} (hvu : ¬ v.lessThan u) (hwv : ¬ w.lessThan v) :
    ¬ w.lessThan u := by
  rw [lessThan_iff] at *
  exact TransCmp.ge_trans hwv hvu

example : (semverNew "1.0.0-alpha").map (·.lessThan ⟨1, 0, 0, [], []⟩) = .ok true := by decide

end KnFunc.Semver
