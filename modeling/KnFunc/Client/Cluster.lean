import KnFunc.Client.Client

/-!
# The client's calls on the cluster, and `New`

`Route`, `Info`, `List` and `Remove` hand a descriptor, or a name, to the
collaborators that act on the cluster. `New` runs the whole lifecycle on a
new project: `Create`, load, `Build`, `Push`, `Deploy` and `Route`. Each
stage takes time, and the clock moves on between them: `New` takes how far
(`NewPauses`), since whether the function reads as built afterwards turns on
it.

`Client` holds the collaborators the lifecycle in the project directory calls;
those only these calls use are gathered in `Cluster`, each modelled by what
its call returns: a value, or an error by its text. What the calls print, the
progress listener and cancellation are left out. `Remove` runs its two
removals concurrently and waits for both; neither touches the directory, so
they are modelled one after the other.

**What is proved here.** `Route` only reads the directory
(`route_readOnly`); `Info`, `List` and `Remove` are reads by construction.
What `New` leaves in the directory is in `Lifecycle.Built`.

**What it does not establish.** Anything about the cluster itself: that a
route, a description or a removal corresponds to what was deployed is the
collaborators' contract.
-/

namespace KnFunc

/-- The collaborators the client calls on the cluster beyond those `Client`
holds: the DNS provider, the describer, the lister, the remover, and the
pipelines provider's removal. `Instance` and `ListItem` are what the
describer and the lister return. -/
structure Cluster (Instance ListItem : Type) where
  dnsProvider : Function → Except String Unit
  describer : String → Except String Instance
  lister : Except String (List ListItem)
  remover : String → Except String Unit
  pipelinesRemover : Function → Except String Unit

namespace Cluster

variable {Instance ListItem : Type} (cl : Cluster Instance ListItem)

/-- `Route`: provide DNS for the function at `path`. -/
def Route (path : String) : Act FileSystem Unit := do
  let f ← Act.read (newFunction · path)
  Act.read fun _ => (cl.dnsProvider f).mapError .error

/-- `Info`: describe the function named `name`, or, with no name, the
function at `root`, which must be initialized. -/
def Info (name root : String) : Act FileSystem Instance :=
  if name ≠ "" then Act.read fun _ => (cl.describer name).mapError .error
  else do
    let f ← Act.read (newFunction · root)
    if !f.Initialized then Act.fail (.error s!"{f.name} is not initialized")
    Act.read fun _ => (cl.describer f.name).mapError .error

/-- `List`: the functions deployed, as the lister reports them. -/
def List : Act FileSystem (List ListItem) :=
  Act.read fun _ => cl.lister.mapError .error

/-- What `Remove` returns from the service's removal and the resources':
both errors, the service's first, when both fail; else the one that failed. -/
def removeOutcome : Except String Unit → Except String Unit → Except String Unit
  | .error errService, .error errResources => .error s!"{errService}\n{errResources}"
  | _, .error errResources => .error errResources
  | errService, .ok () => errService

/-- The descriptor `Remove` removes when no name is given: the one at `root`,
which must be initialized. -/
def removableFunction (fs : FileSystem) (root : String) : Except Fault Function := do
  let f ← newFunction fs root
  if !f.Initialized then
    throw (.error s!"Function at {f.root} can not be removed unless initialized. Try removing by name")
  pure f

/-- `Remove`: remove the function named in `cfg`, or, with no name, the
initialized function at its root (whose name is then the one removed); with
`deleteAll`, also the resources the pipelines provider made for it. -/
def Remove (cfg : Function) (deleteAll : Bool) : Act FileSystem Unit :=
  (if cfg.name = "" then Act.read (removableFunction · cfg.root) else pure cfg) >>= fun cfg =>
    Act.read fun _ =>
      (removeOutcome (cl.remover cfg.name) (if deleteAll then cl.pipelinesRemover cfg else .ok ())).mapError .error

theorem route_readOnly (path : String) : Act.ReadOnly (cl.Route path) :=
  (Act.readOnly_read _).bind fun _ => Act.readOnly_read _

end Cluster

namespace Client

/-- How far the clock moves on after each stage of `New`, before the next
one starts: the time `Create`, `Build`, `Push` and `Deploy` take. -/
structure NewPauses where
  afterCreate : Nat
  afterBuild : Nat
  afterPush : Nat
  afterDeploy : Nat

/-- The clock moving on by `dt` while the directory stays as it is. -/
def elapse (dt : Nat) : Act FileSystem Unit :=
  Act.update fun fs => .ok (fs.advance dt)

theorem elapse_eq_ok {dt : Nat} {fs fs' : FileSystem} {u : Unit} (h : elapse dt fs = (.ok u, fs')) :
    fs' = fs.advance dt :=
  (Except.ok.inj (Act.update_eq_ok.mp h)).symm

/-- `New`: create the function from `cfg`, load it from the root `cfg` names
(as given, not made absolute), then build, push, deploy and route it, the
clock moving on by `pauses` between the stages. -/
def New (sha256 : List Char → String) (c : Client) {Instance ListItem : Type}
    (cl : Cluster Instance ListItem) (pauses : NewPauses) (cwd : String) (cfg : Function) :
    Act FileSystem Unit := do
  c.Create cwd cfg
  elapse pauses.afterCreate
  let f ← Act.read (newFunction · cfg.root)
  c.Build sha256 f.root
  elapse pauses.afterBuild
  c.Push f.root
  elapse pauses.afterPush
  c.Deploy f.root
  elapse pauses.afterDeploy
  cl.Route f.root

/-- **What a successful `New` did**: created the function, loaded it once the
clock had moved on, then built, pushed, deployed and routed it at the root it
loaded, the clock moving on after each stage but the last. -/
theorem new_eq_ok {sha256 : List Char → String} {c : Client} {Instance ListItem : Type}
    {cl : Cluster Instance ListItem} {pauses : NewPauses} {cwd : String} {cfg : Function} {fs fs' : FileSystem}
    {u : Unit} (h : c.New sha256 cl pauses cwd cfg fs = (.ok u, fs')) :
    ∃ fs1 f fs2 fs3 fs4, c.Create cwd cfg fs = (.ok (), fs1) ∧
      newFunction (fs1.advance pauses.afterCreate) cfg.root = .ok f ∧
      c.Build sha256 f.root (fs1.advance pauses.afterCreate) = (.ok (), fs2) ∧
      c.Push f.root (fs2.advance pauses.afterBuild) = (.ok (), fs3) ∧
      c.Deploy f.root (fs3.advance pauses.afterPush) = (.ok (), fs4) ∧
      cl.Route f.root (fs4.advance pauses.afterDeploy) = (.ok u, fs') := by
  obtain ⟨_, fs1, hcreate, h⟩ := Act.bind_eq_ok.mp h
  obtain ⟨_, _, hp1, h⟩ := Act.bind_eq_ok.mp h
  obtain ⟨f, hf, h⟩ := Act.read_bind_eq_ok.mp h
  obtain ⟨_, fs2, hbuild, h⟩ := Act.bind_eq_ok.mp h
  obtain ⟨_, _, hp2, h⟩ := Act.bind_eq_ok.mp h
  obtain ⟨_, fs3, hpush, h⟩ := Act.bind_eq_ok.mp h
  obtain ⟨_, _, hp3, h⟩ := Act.bind_eq_ok.mp h
  obtain ⟨_, fs4, hdeploy, h⟩ := Act.bind_eq_ok.mp h
  obtain ⟨_, _, hp4, hroute⟩ := Act.bind_eq_ok.mp h
  obtain rfl := elapse_eq_ok hp1
  obtain rfl := elapse_eq_ok hp2
  obtain rfl := elapse_eq_ok hp3
  obtain rfl := elapse_eq_ok hp4
  exact ⟨fs1, f, fs2, fs3, fs4, hcreate, hf, hbuild, hpush, hdeploy, hroute⟩

end Client

end KnFunc
