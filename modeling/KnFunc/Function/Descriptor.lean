import KnFunc.Yaml.Node

/-!
# The function descriptor, and its current file schema

`Function` is the project descriptor the whole client passes around: what
`NewFunction` loads from the descriptor file, what the migrations rewrite,
and what `Write` persists. Its fields are the ones the modelled code reads or
writes: name, root, language runtime, template, image and digest, creation
stamp, version, and the build and run sections the 1.0.0 migration fills.

The sources reach the image as `f.Runtime.Image` in one file and the language
runtime as `f.Runtime` in another; the model keeps one field for each.
`Git`, `Options`, `[]Label` and `HealthEndpoints` are kept as the YAML nodes
they were read from: no modelled function looks inside them.

The Go type and its YAML tags are in `function.go`, which is not among the
sources: the current schema below (`encodeFunction`, `decodeFunction`) is
modelled from the spec's data model, with the build and run sections under the
spec's names `buildSpec` and `runSpec`. The one law it owes the rest of the
model is the round trip (`decodeFunction_encodeFunction`): what `Write` puts
on disk, `NewFunction` reads back, the root aside, which is not persisted.
-/

namespace KnFunc

/-- `Env`: an environment variable, by name and value (both `*string`). -/
structure Env where
  name : Option String
  value : Option String
  deriving DecidableEq, Repr

/-- `Volume`: a Secret or a ConfigMap, mounted at a path. -/
structure Volume where
  secret : Option String
  configMap : Option String
  path : Option String
  deriving DecidableEq, Repr

/-- The build section (`f.Build`). -/
structure BuildSpec where
  git : Option Yaml
  buildType : String
  builderImages : List (String × String)
  buildpacks : List String
  buildEnvs : List Env
  deriving DecidableEq

/-- The run section (`f.Run`). -/
structure RunSpec where
  «namespace» : String
  volumes : List Volume
  envs : List Env
  annotations : List (String × String)
  options : Option Yaml
  labels : Option Yaml
  healthEndpoints : Option Yaml
  deriving DecidableEq

/-- The zero build section. -/
def BuildSpec.zero : BuildSpec := ⟨none, "", [], [], []⟩

/-- The zero run section. -/
def RunSpec.zero : RunSpec := ⟨"", [], [], [], none, none, none⟩

/-- `Function`: the project descriptor. `created` is the creation instant in
nanoseconds, `0` standing for Go's zero `time.Time`. -/
structure Function where
  root : String
  name : String
  runtime : String
  template : String
  image : String
  imageDigest : String
  created : Int
  version : String
  build : BuildSpec
  run : RunSpec
  deriving DecidableEq

/-- The descriptor Go's zero value `Function{Root: root}` stands for. -/
def Function.zero (root : String) : Function :=
  ⟨root, "", "", "", "", "", 0, "", BuildSpec.zero, RunSpec.zero⟩

namespace Function

/-- Modelled from the spec: `Initialized` (in `function.go`) is not among the
sources. A descriptor is initialized iff it has both a non-empty runtime and a
non-empty name. -/
def Initialized (f : Function) : Bool := f.runtime != "" && f.name != ""

/-- Modelled from the spec: `HasImage` (in `function.go`) is not among the
sources. A descriptor carries an image once a build has produced one. -/
def HasImage (f : Function) : Bool := f.image != ""

end Function

/-- `map[key] = value` on a Go `map[string]string`. -/
def mapSet (m : List (String × String)) (key value : String) : List (String × String) :=
  (key, value) :: m.filter (·.1 ≠ key)

/-! ## The current schema -/

/-- A `*string` field: the key only when the pointer is set. -/
def encodeOpt (key : String) : Option String → List (String × Yaml)
  | none => []
  | some v => [(key, .str v)]

/-- A field of a type kept as its node: the key only when there is one. -/
def encodeNode (key : String) : Option Yaml → List (String × Yaml)
  | none => []
  | some y => [(key, y)]

def encodeEnv (e : Env) : Yaml := .map (encodeOpt "name" e.name ++ encodeOpt "value" e.value)

def encodeVolume (v : Volume) : Yaml :=
  .map (encodeOpt "secret" v.secret ++ encodeOpt "configMap" v.configMap ++ encodeOpt "path" v.path)

def encodeStringMap (m : List (String × String)) : Yaml := .map (m.map fun kv => (kv.1, .str kv.2))

def decodeEnv : Yaml → Except Fault Env
  | y@(.map _) => do
    let name ← decodeOptString (y.field "name")
    let value ← decodeOptString (y.field "value")
    pure ⟨name, value⟩
  | _ => .error (unmarshalError "Env")

def decodeVolume : Yaml → Except Fault Volume
  | y@(.map _) => do
    let secret ← decodeOptString (y.field "secret")
    let configMap ← decodeOptString (y.field "configMap")
    let path ← decodeOptString (y.field "path")
    pure ⟨secret, configMap, path⟩
  | _ => .error (unmarshalError "Volume")

def encodeBuildSpec (b : BuildSpec) : Yaml :=
  .map (encodeNode "git" b.git ++
    [("build", .str b.buildType), ("builderImages", encodeStringMap b.builderImages),
      ("buildpacks", .seq (b.buildpacks.map .str)), ("buildEnvs", .seq (b.buildEnvs.map encodeEnv))])

def encodeRunSpec (r : RunSpec) : Yaml :=
  .map ([("namespace", .str r.namespace), ("volumes", .seq (r.volumes.map encodeVolume)),
      ("envs", .seq (r.envs.map encodeEnv)), ("annotations", encodeStringMap r.annotations)] ++
    encodeNode "options" r.options ++ encodeNode "labels" r.labels ++
    encodeNode "healthEndpoints" r.healthEndpoints)

def decodeBuildSpec : Option Yaml → Except Fault BuildSpec
  | none => .ok BuildSpec.zero
  | some y@(.map _) => do
    let git ← decodeOpaque (y.field "git")
    let buildType ← decodeString (y.field "build")
    let builderImages ← decodeStringMap (y.field "builderImages")
    let buildpacks ← decodeList (fun i => decodeString (some i)) (y.field "buildpacks")
    let buildEnvs ← decodeList decodeEnv (y.field "buildEnvs")
    pure ⟨git, buildType, builderImages, buildpacks, buildEnvs⟩
  | some _ => .error (unmarshalError "BuildSpec")

def decodeRunSpec : Option Yaml → Except Fault RunSpec
  | none => .ok RunSpec.zero
  | some y@(.map _) => do
    let ns ← decodeString (y.field "namespace")
    let volumes ← decodeList decodeVolume (y.field "volumes")
    let envs ← decodeList decodeEnv (y.field "envs")
    let annotations ← decodeStringMap (y.field "annotations")
    let options ← decodeOpaque (y.field "options")
    let labels ← decodeOpaque (y.field "labels")
    let healthEndpoints ← decodeOpaque (y.field "healthEndpoints")
    pure ⟨ns, volumes, envs, annotations, options, labels, healthEndpoints⟩
  | some _ => .error (unmarshalError "RunSpec")

/-- Modelled from the spec: the YAML tags of `Function` are in `function.go`,
which is not among the sources. `yaml.Marshal` of a descriptor; the root is
not persisted. -/
def encodeFunction (f : Function) : Yaml :=
  .map [("name", .str f.name), ("runtime", .str f.runtime), ("template", .str f.template),
    ("image", .str f.image), ("imageDigest", .str f.imageDigest), ("created", .int f.created),
    ("version", .str f.version), ("buildSpec", encodeBuildSpec f.build),
    ("runSpec", encodeRunSpec f.run)]

/-- Modelled from the spec: `yaml.Unmarshal` of a descriptor file into
`Function`, whose root is the path it was loaded from. -/
def decodeFunction (root : String) : Yaml → Except Fault Function
  | y@(.map _) => do
    let name ← decodeString (y.field "name")
    let runtime ← decodeString (y.field "runtime")
    let template ← decodeString (y.field "template")
    let image ← decodeString (y.field "image")
    let imageDigest ← decodeString (y.field "imageDigest")
    let created ← decodeTime (y.field "created")
    let version ← decodeString (y.field "version")
    let build ← decodeBuildSpec (y.field "buildSpec")
    let run ← decodeRunSpec (y.field "runSpec")
    pure ⟨root, name, runtime, template, image, imageDigest, created, version, build, run⟩
  | _ => .error (unmarshalError "Function")

/-! ## The round trip -/

@[simp] theorem decodeEnv_encodeEnv (e : Env) : decodeEnv (encodeEnv e) = .ok e := by
  rcases e with ⟨_ | n, _ | v⟩ <;> rfl

@[simp] theorem decodeVolume_encodeVolume (v : Volume) : decodeVolume (encodeVolume v) = .ok v := by
  rcases v with ⟨_ | s, _ | c, _ | p⟩ <;> rfl

private theorem mapM_map_ok {α β : Type} (f : α → β) (g : β → Except Fault α)
    (hg : ∀ a, g (f a) = .ok a) : ∀ xs : List α, (xs.map f).mapM g = .ok xs
  | [] => rfl
  | x :: xs => by
    simp only [List.map_cons, List.mapM_cons, hg, mapM_map_ok f g hg xs]
    rfl

@[simp] theorem decodeList_map {α : Type} (f : α → Yaml) (g : Yaml → Except Fault α)
    (hg : ∀ a, g (f a) = .ok a) (xs : List α) : decodeList g (some (.seq (xs.map f))) = .ok xs :=
  mapM_map_ok f g hg xs

@[simp] theorem decodeStringMap_encode (m : List (String × String)) :
    decodeStringMap (some (encodeStringMap m)) = .ok m :=
  mapM_map_ok (fun kv : String × String => (kv.1, Yaml.str kv.2))
    (fun kv => (kv.1, ·) <$> decodeString (some kv.2))
    (fun _ => rfl) m

theorem decodeBuildSpec_encode (b : BuildSpec) :
    decodeBuildSpec (some (encodeBuildSpec b)) = .ok b := by
  rcases b with ⟨_ | git, buildType, builderImages, buildpacks, buildEnvs⟩ <;>
    simp only [decodeBuildSpec, encodeBuildSpec, encodeNode, List.nil_append, List.singleton_append,
      decodeOpaque, Yaml.field, List.lookup_cons, List.lookup_cons_self, List.lookup_nil, String.reduceBEq,
      decodeString_str, decodeStringMap_encode, implies_true, decodeList_map _ _ decodeEnv_encodeEnv,
      decodeList_map Yaml.str (fun i => decodeString (some i)), bind_pure_comp, except_map_ok, except_ok_bind]

theorem decodeRunSpec_encode (r : RunSpec) : decodeRunSpec (some (encodeRunSpec r)) = .ok r := by
  rcases r with ⟨ns, volumes, envs, annotations, _ | options, _ | labels, _ | health⟩ <;>
    simp only [decodeRunSpec, encodeRunSpec, encodeNode, List.nil_append, List.append_nil, List.cons_append,
      List.singleton_append, Yaml.field, List.lookup_cons, List.lookup_cons_self, List.lookup_nil,
      String.reduceBEq, decodeString_str, decodeStringMap_encode, decodeOpaque,
      decodeList_map _ _ decodeVolume_encodeVolume, decodeList_map _ _ decodeEnv_encodeEnv, bind_pure_comp,
      except_map_ok, except_ok_bind]

/-- What `Write` persists, `NewFunction` decodes back: every field but the
root, which comes from the path the file is loaded from. -/
theorem decodeFunction_encodeFunction (root : String) (f : Function) :
    decodeFunction root (encodeFunction f) = .ok { f with root := root } := by
  simp only [decodeFunction, encodeFunction, Yaml.field, List.lookup_cons, List.lookup_cons_self,
    String.reduceBEq, decodeString_str, decodeTime_int, decodeBuildSpec_encode, decodeRunSpec_encode,
    bind_pure_comp, except_map_ok, except_ok_bind]

/-- The root a descriptor is decoded under is all the path changes. -/
theorem decodeFunction_root (root : String) (doc : Yaml) :
    decodeFunction root doc = (fun f => { f with root := root }) <$> decodeFunction "" doc := by
  unfold decodeFunction
  split
  · simp only [map_bind, map_pure]
  · rfl

/-- A descriptor decoded under a root is one decoded under none, rooted there. -/
theorem decodeFunction_eq_ok {root : String} {doc : Yaml} {f : Function}
    (h : decodeFunction root doc = .ok f) :
    ∃ g, decodeFunction "" doc = .ok g ∧ f = { g with root := root } := by
  rw [decodeFunction_root] at h
  cases hg : decodeFunction "" doc with
  | error e => rw [hg] at h; cases h
  | ok g => rw [hg] at h; exact ⟨g, rfl, (Except.ok.inj h).symm⟩

end KnFunc
