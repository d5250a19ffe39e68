import KnFunc.Semver.Version
import KnFunc.FileSystem.Tree
import KnFunc.Function.Descriptor

/-!
# The migration engine: `Migrate`, `Migrated` and the registry

A translation of `migrate.go`. The registry holds three migrations, each a
threshold and a migrator; `Migrate` walks the registry in order and applies a
migration when the descriptor's CURRENT version is below its threshold —
re-read on every step, since each migrator stamps its own threshold. A
migrator that fails stops the walk. `Migrated` is the shortcut taken first:
a non-empty version not below the last threshold.

Two of the migrators re-read the descriptor FILE against private structs of
older schemas, so a migrator is a function of the file system too. Of the
`migration` it is handed, a migrator reads only the version: the model passes
that string (a Go `migration` holds its own migrator, which Lean's structures
cannot).

`semver.New` panics on a malformed version; the model returns `Fault.panic`
there, so "Migrate never panics" is a statement one can get wrong.
-/

namespace KnFunc

/-- `DefaultVersion`: the version an empty one is read as. -/
def DefaultVersion : String := "0.0.0"

/-- Modelled from the spec: `FunctionFile` (in `function.go`) is not among the
sources; the spec names one descriptor file at the project root. -/
def FunctionFile : String := "func.yaml"

/-- `migrator`: a migrated copy of the descriptor, from the file system (which
it may read the descriptor file from) and its migration's version. -/
abbrev Migrator := FileSystem → Function → String → Except Fault Function

/-- `migration`: a migration applies to descriptors whose version is below
`version`. -/
structure Migration where
  version : String
  migrate : Migrator

/-- `ioutil.ReadFile` of the descriptor file, then the `yaml.Unmarshal` step
that turns its bytes into a document. -/
def readDescriptorDoc (fs : FileSystem) : Except Fault Yaml := do
  match ← fs.readFile [FunctionFile] with
  | .yaml doc => pure doc
  | .text _ => throw (.error "yaml: unmarshal errors: not a YAML document")

/-! ## The previous schemas -/

/-- `migrateToBuilderImages_previousFunction`. -/
structure BuilderImagesPrevious where
  builder : String

/-- `yaml.Unmarshal` into `migrateToBuilderImages_previousFunction`. -/
def decodeBuilderImagesPrevious : Yaml → Except Fault BuilderImagesPrevious
  | y@(.map _) => (⟨·⟩) <$> decodeString (y.field "builder")
  | _ => .error (unmarshalError "migrateToBuilderImages_previousFunction")

/-- `migrateTo100_previousFunction`. -/
structure Previous100 where
  buildType : String
  git : Option Yaml
  builderImages : List (String × String)
  buildpacks : List String
  builder : String
  «namespace» : String
  volumes : List Volume
  buildEnvs : List Env
  envs : List Env
  annotations : List (String × String)
  options : Option Yaml
  labels : Option Yaml
  healthEndpoints : Option Yaml

/-- `yaml.Unmarshal` into `migrateTo100_previousFunction`, field by field as
its tags name them. -/
def decodePrevious100 : Yaml → Except Fault Previous100
  | y@(.map _) => do
    let buildType ← decodeString (y.field "build")
    let git ← decodeOpaque (y.field "git")
    let builderImages ← decodeStringMap (y.field "builderImages")
    let buildpacks ← decodeList (fun i => decodeString (some i)) (y.field "buildpacks")
    let builder ← decodeString (y.field "builder")
    let ns ← decodeString (y.field "namespace")
    let volumes ← decodeList decodeVolume (y.field "volumes")
    let buildEnvs ← decodeList decodeEnv (y.field "buildEnvs")
    let envs ← decodeList decodeEnv (y.field "envs")
    let annotations ← decodeStringMap (y.field "annotations")
    let options ← decodeOpaque (y.field "options")
    let labels ← decodeOpaque (y.field "labels")
    let healthEndpoints ← decodeOpaque (y.field "healthEndpoints")
    pure ⟨buildType, git, builderImages, buildpacks, builder, ns, volumes, buildEnvs, envs,
      annotations, options, labels, healthEndpoints⟩
  | _ => .error (unmarshalError "migrateTo100_previousFunction")

/-! ## The migrators -/

/-- `migrateToCreationStamp`: a descriptor with no creation stamp but a name
and a runtime predates versioning, and is stamped now; any other is left as it
is. Either way the migration is recorded. -/
def migrateToCreationStamp : Migrator := fun fs f version =>
  let f := if f.created = 0 ∧ f.name ≠ "" ∧ f.runtime ≠ "" then { f with created := fs.now } else f
  .ok { f with version := version }

/-- The default pack builder image at the time of `migrateToBuilderImages`. -/
def defaultPackBuilderImage : String := "gcr.io/paketo-buildpacks/builder:base"

/-- `migrateToBuilderImages`: a customised top-level `builder` of the old file
becomes the `pack` builder image. -/
def migrateToBuilderImages : Migrator := fun fs f1 version => do
  let f0 ← decodeBuilderImagesPrevious (← readDescriptorDoc fs)
  let f1 := if f0.builder ≠ "" ∧ f0.builder ≠ defaultPackBuilderImage then
      { f1 with build.builderImages := mapSet f1.build.builderImages "pack" f0.builder }
    else f1
  pure { f1 with version := version }

/-- `migrateTo100Structure`: the build and run sections, rebuilt from the old
file's top-level fields. -/
def migrateTo100Structure : Migrator := fun fs f1 version => do
  let f0 ← decodePrevious100 (← readDescriptorDoc fs)
  pure { f1 with
    build := ⟨f0.git, f0.buildType, f0.builderImages, f0.buildpacks, f0.buildEnvs⟩
    run := ⟨f0.namespace, f0.volumes, f0.envs, f0.annotations, f0.options, f0.labels,
      f0.healthEndpoints⟩
    version := version }

/-- `migrations`: the registry, in ascending order. -/
def migrations : List Migration :=
  [⟨"0.19.0", migrateToCreationStamp⟩, ⟨"0.23.0", migrateToBuilderImages⟩,
    ⟨"1.0.0", migrateTo100Structure⟩]

/-! ## `Migrated` and `Migrate` -/

namespace Function

/-- `Migrated`: whether the descriptor is at (or beyond) the last registered
migration. An empty version is never migrated. -/
def Migrated (f : Function) : Except Fault Bool :=
  if f.version = "" then .ok false
  else
    match migrations.getLast? with
    | none => .error (.panic "runtime error: index out of range [-1]")
    | some last => do
      let lastMigration ← Semver.semverNew last.version
      let v ← Semver.semverNew f.version
      pure !(v.lessThan lastMigration)

/-- The loop of `Migrate` over a registry: a migration is applied when the
version the descriptor has NOW is below its threshold; the first failure ends
the loop. -/
def migrateLoop (fs : FileSystem) : List Migration → Function → Except Fault Function
  | [], migrated => .ok migrated
  | m :: ms, migrated => do
    let current ← Semver.semverNew migrated.version
    let threshold ← Semver.semverNew m.version
    if !current.lessThan threshold then migrateLoop fs ms migrated
    else
      let migrated ← m.migrate fs migrated m.version
      migrateLoop fs ms migrated

/-- The descriptor with an empty version read as `DefaultVersion`. -/
def withDefaultVersion (f : Function) : Function :=
  if f.version = "" then { f with version := DefaultVersion } else f

/-- `Migrate`: a migrated copy of the descriptor, or the first failure. The
caller is to persist the result. -/
def Migrate (f : Function) (fs : FileSystem) : Except Fault Function := do
  if ← f.Migrated then return f
  migrateLoop fs migrations f.withDefaultVersion

end Function

end KnFunc
