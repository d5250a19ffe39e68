import KnFunc.Core.Act

/-!
# YAML documents, and how `gopkg.in/yaml.v2` decodes them into Go fields

The project descriptor is a YAML file, and the migrations read it twice over:
`NewFunction` decodes it into the current `Function`, and two migrators
re-read the same bytes against private structs of older schemas
(`migrateToBuilderImages_previousFunction`, `migrateTo100_previousFunction`).
Which key a struct field reads, and what happens when the key is missing or
holds the wrong kind of node, is therefore part of the migration engine's
behaviour, and is modelled here once for every field type those structs use.

A document is a `Yaml` node. Decoding follows `yaml.v2` on the points the
migrations depend on: a missing key leaves the field at its zero value, a
scalar decodes into a `string` field by its text, a node of the wrong kind is
an unmarshal error, and keys the struct does not name are ignored.
-/

namespace KnFunc

/-- A YAML node: a scalar (text or integer), a sequence, or a mapping. -/
inductive Yaml where
  | str (value : String)
  | int (value : Int)
  | seq (items : List Yaml)
  | map (entries : List (String × Yaml))
  deriving Repr

namespace Yaml

mutual
/-- Equality of nodes, decided structurally. -/
def decEq : (a b : Yaml) → Decidable (a = b)
  | .str x, .str y => if h : x = y then isTrue (h ▸ rfl) else isFalse fun e => by cases e; exact h rfl
  | .int x, .int y => if h : x = y then isTrue (h ▸ rfl) else isFalse fun e => by cases e; exact h rfl
  | .seq xs, .seq ys =>
    match decEqItems xs ys with
    | isTrue h => isTrue (h ▸ rfl)
    | isFalse h => isFalse fun e => by cases e; exact h rfl
  | .map xs, .map ys =>
    match decEqEntries xs ys with
    | isTrue h => isTrue (h ▸ rfl)
    | isFalse h => isFalse fun e => by cases e; exact h rfl
  | .str _, .int _ | .str _, .seq _ | .str _, .map _ | .int _, .str _ | .int _, .seq _
  | .int _, .map _ | .seq _, .str _ | .seq _, .int _ | .seq _, .map _ | .map _, .str _
  | .map _, .int _ | .map _, .seq _ => isFalse fun e => by cases e
/-- Equality of sequences of nodes. -/
def decEqItems : (xs ys : List Yaml) → Decidable (xs = ys)
  | [], [] => isTrue rfl
  | [], _ :: _ | _ :: _, [] => isFalse fun e => by cases e
  | x :: xs, y :: ys =>
    match decEq x y, decEqItems xs ys with
    | isTrue h, isTrue h' => isTrue (h ▸ h' ▸ rfl)
    | isFalse h, _ => isFalse fun e => by cases e; exact h rfl
    | _, isFalse h => isFalse fun e => by cases e; exact h rfl
/-- Equality of mappings, key by key in order. -/
def decEqEntries : (xs ys : List (String × Yaml)) → Decidable (xs = ys)
  | [], [] => isTrue rfl
  | [], _ :: _ | _ :: _, [] => isFalse fun e => by cases e
  | (k, x) :: xs, (k', y) :: ys =>
    if hk : k = k' then
      match decEq x y, decEqEntries xs ys with
      | isTrue h, isTrue h' => isTrue (hk ▸ h ▸ h' ▸ rfl)
      | isFalse h, _ => isFalse fun e => by cases e; exact h rfl
      | _, isFalse h => isFalse fun e => by cases e; exact h rfl
    else isFalse fun e => by cases e; exact hk rfl
end

instance : DecidableEq Yaml := decEq

/-- The node a mapping holds under `key`; nothing for a missing key or for a
node that is not a mapping. -/
def field (key : String) : Yaml → Option Yaml
  | .map entries => entries.lookup key
  | _ => none

end Yaml

/-- The error `yaml.v2` reports for a node of the wrong kind for its field. -/
def unmarshalError (goType : String) : Fault :=
  .error s!"yaml: unmarshal errors: cannot unmarshal into {goType}"

/-! ## Field decoders -/

/-- A `string` field: empty when missing, a scalar's text, else an error. -/
def decodeString : Option Yaml → Except Fault String
  | none => .ok ""
  | some (.str s) => .ok s
  | some (.int i) => .ok (toString i)
  | some _ => .error (unmarshalError "string")

/-- A `*string` field: `nil` when missing. -/
def decodeOptString : Option Yaml → Except Fault (Option String)
  | none => .ok none
  | some y => some <$> decodeString (some y)

/-- A `time.Time` field, its instant held as an integer scalar; the zero time
(`0`) when missing. -/
def decodeTime : Option Yaml → Except Fault Int
  | none => .ok 0
  | some (.int t) => .ok t
  | some _ => .error (unmarshalError "time.Time")

/-- A `[]T` field: empty when missing, each item decoded, else an error. -/
def decodeList {α : Type} (item : Yaml → Except Fault α) : Option Yaml → Except Fault (List α)
  | none => .ok []
  | some (.seq items) => items.mapM item
  | some _ => .error (unmarshalError "slice")

/-- A `map[string]string` field: empty when missing. -/
def decodeStringMap : Option Yaml → Except Fault (List (String × String))
  | none => .ok []
  | some (.map entries) => entries.mapM fun (k, v) => (k, ·) <$> decodeString (some v)
  | some _ => .error (unmarshalError "map[string]string")

/-- A field of a type no modelled function looks inside (`Git`, `Options`,
`[]Label`, `HealthEndpoints`): kept as the node it was read from. -/
def decodeOpaque : Option Yaml → Except Fault (Option Yaml)
  | y => .ok y

@[simp] theorem decodeString_str (s : String) : decodeString (some (.str s)) = .ok s := rfl

@[simp] theorem decodeString_none : decodeString none = .ok "" := rfl

@[simp] theorem decodeTime_int (t : Int) : decodeTime (some (.int t)) = .ok t := rfl

end KnFunc
