import KnFunc.Client.Load
import KnFunc.Staleness.Fingerprint

/-!
# The client's lifecycle operations

A translation of the operations of `client.go` that touch the project
directory: `Create`, `Build` with `updateBuildStamp` and `ensureRuntimeDir`,
`Push`, `Deploy`, `Run`, `RunPipeline`, and the staleness query `Built`.
Each is an `Act` on the project directory: what it returns, and the directory
it leaves, also when it fails.

The collaborators are modelled by what they return: the builder, pusher,
deployer, runner and pipelines provider write nothing under the project root.
The template writer does: it writes the template's files, and may change the
descriptor. Progress reporting, the cancellation watcher and the build
heartbeat print and change nothing the operations read, and are left out.
The digest `fingerprint` uses is the parameter `sha256`.
-/

namespace KnFunc

/-- A `*Job` the runner returns, by the port it reports. -/
structure Job where
  port : String
  deriving DecidableEq

/-- A `Client`: the default registry, and its collaborators by what they
return. -/
structure Client where
  registry : String
  builder : Function → Except Fault Unit
  pusher : Function → Except Fault String
  deployer : Function → Except Fault Unit
  runner : Function → Except Fault Job
  pipelinesProvider : Function → Except Fault Unit
  templates : Function → Act FileSystem Function

/-- `fmt.Errorf(context + ": %w", err)`: an error with context before its text. -/
def Fault.wrap (context : String) : Fault → Fault
  | .error message => .error (context ++ message)
  | .panic message => .panic message

/-- `filepath.Abs(path)` from the working directory `cwd`. -/
def filepathAbs (cwd path : String) : String := String.mk (Path.abs cwd.data path.data)

/-- The error `Create` returns on a root that holds an initialized function. -/
def alreadyInitialized (root : String) : Fault := .error s!"Function at '{root}' already initialized"

/-- `ErrNotBuilt`. -/
def ErrNotBuilt : Fault := .error "not built"

/-- The `.gitignore` that `ensureRuntimeDir` writes. -/
def gitignore : String :=
  "\n# Functions use the .func directory for local runtime data which should\n" ++
  "# generally not be tracked in source control:\n/.func\n"

/-- `ensureRuntimeDir`: the run-data directory, and a `.gitignore` that keeps
it out of source control. -/
def ensureRuntimeDir : Act FileSystem Unit := do
  Act.update (·.mkdirAll [RunDataDir])
  Act.update (·.writeFile [".gitignore"] (.text gitignore))

namespace Client

variable (sha256 : List Char → String) (c : Client)

/-- `updateBuildStamp`: the fingerprint of the directory, written to the
build stamp in the run-data directory. -/
def updateBuildStamp (f : Function) : Act FileSystem Unit := do
  ensureRuntimeDir
  let hash ← Act.read (Staleness.fingerprint sha256 · f.root)
  Act.update (·.writeFile [RunDataDir, buildstamp] (.text hash))

/-- `Build`: load, derive the image, build, persist, and stamp. -/
def Build (path : String) : Act FileSystem Unit := do
  let f ← Act.read (newFunction · path)
  let image ← Act.read (derivedImage · path c.registry)
  let f := { f with image := image }
  Act.read fun _ => c.builder f
  f.Write
  updateBuildStamp sha256 f

/-- `Push`: push the built image and persist its digest. -/
def Push (path : String) : Act FileSystem Unit := do
  let f ← Act.read (newFunction · path)
  if !f.HasImage then Act.fail ErrNotBuilt
  let imageDigest ← Act.read fun _ => c.pusher f
  ({ f with imageDigest := imageDigest } : Function).Write

/-- `Deploy`: deploy the built image. -/
def Deploy (path : String) : Act FileSystem Unit := do
  let f ← Act.read (newFunction · path)
  if !f.HasImage then Act.fail ErrNotBuilt
  Act.read fun _ => c.deployer f

/-- `RunPipeline`: build and deploy through the pipelines provider, from the
given git source. -/
def RunPipeline (path : String) (git : Option Yaml) : Act FileSystem Unit := do
  let f ← Act.read fun fs => (newFunction fs path).mapError (Fault.wrap "failed to laod function: ")
  let f := { f with build.git := git }
  Act.read fun _ => (c.pipelinesProvider f).mapError (Fault.wrap "failed to run pipeline: ")

/-- `Run`: run an initialized function. -/
def Run (root : String) : Act FileSystem Job := do
  let f ← Act.read (newFunction · root)
  if !f.Initialized then
    Act.fail (.error s!"the given path '{root}' does not contain an initialized Function.  Please create one at this path in order to run")
  Act.read fun _ => c.runner f

/-- `Built`: a descriptor with an image, a build stamp, and the stamp equal to
the fingerprint of the directory now. Every failure reads as not built. -/
def Built (path : String) (fs : FileSystem) : Bool :=
  match newFunction fs path with
  | .error _ => false
  | .ok f =>
    if !f.HasImage then false else
    match fs.stat [RunDataDir, buildstamp] with
    | .error _ => false
    | .ok _ =>
      match Staleness.fingerprint sha256 fs f.root with
      | .error _ => false
      | .ok hash =>
        match fs.readFile [RunDataDir, buildstamp] with
        | .ok (.text b) => b == hash
        | _ => false

/-- The configuration `Create` scaffolds from: the root made absolute (the
working directory, should that be empty), and the name, when none is given,
taken from the root. -/
def createConfig (cwd : String) (cfg : Function) : Function :=
  let root := filepathAbs cwd cfg.root
  let cfg := { cfg with root := if root = "" then cwd else root }
  if cfg.name = "" then { cfg with name := nameFromPath cfg.root } else cfg

/-- `Create`, from the working directory `cwd` and the new function's
configuration: make the root, refuse an initialized project or contentious
files, make the run-data directory, write the template, stamp and persist. -/
def Create (cwd : String) (cfg : Function) : Act FileSystem Unit := do
  let root := filepathAbs cwd cfg.root
  Act.update (·.mkdirAll [])
  if ← Act.read (hasInitializedFunction · root) then
    Act.fail (alreadyInitialized root)
  let cfg := createConfig cwd cfg
  Act.read (assertEmptyRoot · cfg.root)
  let f := newFunctionWith cfg
  ensureRuntimeDir
  let f ← c.templates f
  let now ← Act.read fun fs => .ok fs.now
  ({ f with created := now } : Function).Write

end Client

end KnFunc
