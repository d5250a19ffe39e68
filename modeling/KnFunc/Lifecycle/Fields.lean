import KnFunc.Lifecycle.Footprint

/-!
# What the lifecycle operations change in the descriptor

Every operation that persists the descriptor writes back what it loaded with
the fields of its own changed: `Build` the image, `Push` the digest, the run
command the environment (and the image, when it may build), the volume
commands the volumes. `Create` writes one only where there is none, and
`Deploy`, `Run`, `RunPipeline` and waiting write nothing.

**The law** (`descriptor_keeps_unowned_fields`): from a directory whose
descriptor file holds a migrated descriptor `f`, over any run of operations,
`create` included, each served by a client of its own, with time passing
between them and whatever each of them returns, every directory the run
passes through loads, at any root, a descriptor that agrees with `f` outside
the fields `Op.owns` gives the run's operations. So the name, runtime, template, creation stamp, version, build
section and the rest of the run section are never changed, a build keeps the
digest the last push recorded, and the descriptor never stops loading.

`DescriptorKept F f fs` is the invariant, read off the file rather than off
what loads: a migrated descriptor is loaded as it is, while an unmigrated one
may load differently at a later time (`migrateToCreationStamp` stamps it with
the clock). `KeepsFieldsAt` is `Act.Within` for the relation that carries it,
so it is closed under sequencing, reads and branches.

**What it does not establish.** What is written in the owned fields: that is
`config_volumes_add_appends_one_volume` for the volumes, and the build and
push lemmas for the image and digest. A directory whose descriptor file holds
an unmigrated descriptor, which the first write replaces by its migration, and
edits by hand.
-/

namespace KnFunc

/-- A field of the descriptor that a lifecycle operation writes back changed. -/
inductive DescriptorField where
  | image
  | imageDigest
  | envs
  | volumes
  deriving DecidableEq, Repr

/-- The descriptor with the fields `owned` cleared, and its root, which is not
persisted. -/
def Function.outside (owned : List DescriptorField) (f : Function) : Function :=
  { f with
    root := ""
    image := if .image ∈ owned then "" else f.image
    imageDigest := if .imageDigest ∈ owned then "" else f.imageDigest
    run.envs := if .envs ∈ owned then [] else f.run.envs
    run.volumes := if .volumes ∈ owned then [] else f.run.volumes }

/-- `f` with the field taken from `g`: how each operation changes what it
loaded before writing it back. -/
def DescriptorField.take : DescriptorField → Function → Function → Function
  | .image, f, g => { f with image := g.image }
  | .imageDigest, f, g => { f with imageDigest := g.imageDigest }
  | .envs, f, g => { f with run.envs := g.run.envs }
  | .volumes, f, g => { f with run.volumes := g.run.volumes }

/-- Taking a field of `F` from another descriptor leaves what lies outside `F`
as it was. -/
theorem outside_take {F : List DescriptorField} {field : DescriptorField} (h : field ∈ F) (f g : Function) :
    (field.take f g).outside F = f.outside F := by
  cases field <;> simp [DescriptorField.take, Function.outside, h]

/-- The descriptor fields an operation may write back changed. `create` owns
none: it refuses a directory that holds a descriptor file. -/
def Op.owns : Op → List DescriptorField
  | .create _ _ => []
  | .build _ => [.image]
  | .push _ => [.imageDigest]
  | .deploy _ => []
  | .run _ => []
  | .runPipeline _ _ => []
  | .runCommand config => if config.mayBuild then [.envs, .image] else [.envs]
  | .volumesAdd _ _ => [.volumes]
  | .volumesRemove _ _ => [.volumes]
  | .wait _ => []

/-- The descriptor file holds a migrated descriptor that agrees with `f`
outside the fields `F`. -/
def DescriptorKept (F : List DescriptorField) (f : Function) (fs : FileSystem) : Prop :=
  ∃ t g, fs.lookup [FunctionFile] = some (.file t (.yaml (encodeFunction g))) ∧ g.Migrated = .ok true ∧
    g.outside F = f.outside F

section KeepsFields

variable {α : Type} {F : List DescriptorField} {f : Function}

/-- Running `a` from `fs` keeps the descriptor file holding a migrated
descriptor that agrees with `f` outside `F`. -/
abbrev KeepsFieldsAt (F : List DescriptorField) (f : Function) (fs : FileSystem) (a : Act FileSystem α) :
    Prop :=
  Act.Within (Act.Keeps (DescriptorKept F f)) fs a

theorem keepsFieldsAt_of_frame {a : Act FileSystem α} (h : DescriptorFrame a) (fs : FileSystem) :
    KeepsFieldsAt F f fs a := fun ⟨t, g, hfile, hg, hagree⟩ => ⟨t, g, (h fs).trans hfile, hg, hagree⟩

/-- **Writing back what was loaded, changed only in fields of `F`, keeps the
descriptor**: what loaded is what the file holds, so what is written agrees
with it outside `F` and carries its version. -/
theorem keepsFieldsAt_write {fs : FileSystem} {root : String} {f' g' : Function}
    (hf' : newFunction fs root = .ok f') (hagree : g'.outside F = f'.outside F) :
    KeepsFieldsAt F f fs g'.Write := by
  rintro ⟨t, g, hfile, hg, hkept⟩
  obtain rfl : f' = { g with root := root } := Except.ok.inj (hf'.symm.trans (newFunction_of_file root hfile hg))
  rcases hw : g'.Write fs with ⟨_ | u, fs'⟩
  · show DescriptorKept F f fs'
    rw [(Act.update_eq_error.mp hw).2]
    exact ⟨t, g, hfile, hg, hkept⟩
  · exact ⟨_, g', (FileSystem.writeFile_frame (Act.update_eq_ok.mp hw)).2.1,
      (migrated_congr (congrArg Function.version hagree)).trans hg, hagree.trans hkept⟩

end KeepsFields

/-! ## The operations -/

section Operations

variable {F : List DescriptorField} {f : Function} (sha256 : List Char → String) (c : Client)

theorem keepsFieldsAt_build (path : String) (h : .image ∈ F) (fs : FileSystem) :
    KeepsFieldsAt F f fs (c.Build sha256 path) :=
  Act.within_read_bind fun f' hf' => Act.within_read_bind fun image _ => Act.within_read_bind fun _ _ =>
    (keepsFieldsAt_write hf' (outside_take h f' { f' with image := image })).bind fun _ s _ =>
      keepsFieldsAt_of_frame (Client.updateBuildStamp_frame sha256 _) s

theorem keepsFieldsAt_push (path : String) (h : .imageDigest ∈ F) (fs : FileSystem) :
    KeepsFieldsAt F f fs (c.Push path) := by
  refine Act.within_read_bind fun f' hf' => ?_
  dsimp only
  exact .ite Act.within_fail_bind (Act.within_read_bind fun _ _ => Act.within_read_bind fun d _ =>
    keepsFieldsAt_write hf' (outside_take h f' { f' with imageDigest := d }))

/-- `Create` refuses a directory that holds a descriptor file: the
contentious-files check fails on it, after only the root was made. -/
theorem keepsFieldsAt_create (cwd : String) (cfg : Function) (fs : FileSystem) :
    KeepsFieldsAt F f fs (c.Create cwd cfg) := by
  refine (keepsFieldsAt_of_frame (descriptorFrame_mkdirAll (by decide)) fs).bind fun _ _ _ =>
    Act.within_read_bind fun _ _ => ?_
  dsimp only
  refine .ite Act.within_fail_bind (Act.within_read_bind fun _ _ => Act.within_read_bind fun _ hempty => ?_)
  rintro ⟨t, g, hfile, -⟩
  rw [lookup_contentious hempty (show FunctionFile ∈ contentiousFiles by decide)] at hfile
  cases hfile

theorem keepsFieldsAt_buildIfRequested (config : RunConfig) (root : String)
    (h : config.mayBuild = true → .image ∈ F) (fs : FileSystem) :
    KeepsFieldsAt F f fs (buildIfRequested sha256 c config root) := by
  unfold buildIfRequested
  by_cases hauto : config.build = "auto"
  · rw [if_pos hauto]
    exact Act.within_read_bind fun _ _ =>
      .ite (keepsFieldsAt_build sha256 c _ (h (by simp [RunConfig.mayBuild, hauto])) fs)
        (Act.within_of_readOnly (Act.readOnly_pure _))
  · rw [if_neg hauto]
    cases hparse : parseBool config.build with
    | none => exact Act.within_of_readOnly (Act.readOnly_fail _)
    | some b =>
      cases b
      · exact Act.within_of_readOnly (Act.readOnly_pure _)
      · exact keepsFieldsAt_build sha256 c _ (h (by simp [RunConfig.mayBuild, hparse])) fs

theorem keepsFieldsAt_runRun (config : RunConfig) (henvs : .envs ∈ F)
    (himage : config.mayBuild = true → .image ∈ F) (fs : FileSystem) :
    KeepsFieldsAt F f fs (runRun sha256 c config) := by
  refine Act.within_read_bind fun f' hf' => ?_
  dsimp only
  have hrest : ∀ s, KeepsFieldsAt F f s
      (buildIfRequested sha256 { c with registry := config.registry } config f'.root >>= fun _ =>
        Client.Run { c with registry := config.registry } config.path) := fun s =>
    (keepsFieldsAt_buildIfRequested sha256 _ config f'.root himage s).bind fun _ _ _ =>
      Act.within_of_readOnly (Client.run_readOnly _ _)
  refine .ite ((keepsFieldsAt_write hf' (outside_take henvs f'
    { f' with run.envs := (mergeEnvs f'.run.envs config.envToUpdate config.envToRemove).1 })).bind
      fun _ s _ => ?_) ?_ <;>
    exact .ite Act.within_fail_bind (hrest _)

theorem keepsFieldsAt_configVolumesAdd (path : String) (input : AddVolumeInput) (h : .volumes ∈ F)
    (fs : FileSystem) : KeepsFieldsAt F f fs (configVolumesAdd path input) := by
  refine Act.within_read_bind fun f' hf' => ?_
  unfold runAddVolumesPrompt
  split
  · exact Act.within_of_readOnly (Act.readOnly_fail _)
  · exact Act.within_of_readOnly (Act.readOnly_pure _)
  · rename_i v _
    exact keepsFieldsAt_write (newFunction_of_initConfigCommand hf')
      (outside_take h f' { f' with run.volumes := f'.run.volumes ++ [v] })

theorem keepsFieldsAt_configVolumesRemove (volumeString : Volume → String) (path : String)
    (selection : Except Fault (Option String)) (h : .volumes ∈ F) (fs : FileSystem) :
    KeepsFieldsAt F f fs (configVolumesRemove volumeString path selection) := by
  refine Act.within_read_bind fun f' hf' => ?_
  unfold runRemoveVolumesPrompt
  split
  · exact Act.within_of_readOnly (Act.readOnly_pure _)
  split
  · exact Act.within_of_readOnly (Act.readOnly_fail _)
  · exact Act.within_of_readOnly (Act.readOnly_pure _)
  split
  · rename_i i _
    exact keepsFieldsAt_write (newFunction_of_initConfigCommand hf')
      (outside_take h f' { f' with run.volumes := f'.run.volumes.eraseIdx i })
  · exact Act.within_of_readOnly (Act.readOnly_pure _)

/-- **An operation keeps the descriptor outside the fields it owns.** -/
theorem Op.exec_descriptorKept (volumeString : Volume → String) :
    ∀ (op : Op), op.owns ⊆ F → ∀ fs, DescriptorKept F f fs →
      DescriptorKept F f (op.exec sha256 c volumeString fs)
  | .create cwd cfg, _, fs => keepsFieldsAt_create c cwd cfg fs
  | .build p, h, fs => keepsFieldsAt_build sha256 c p (h (.head _)) fs
  | .push p, h, fs => keepsFieldsAt_push c p (h (.head _)) fs
  | .deploy p, _, fs => (Act.within_of_readOnly (Client.deploy_readOnly c p) : KeepsFieldsAt F f fs _)
  | .run root, _, fs => (Act.within_of_readOnly (Client.run_readOnly c root) : KeepsFieldsAt F f fs _)
  | .runPipeline p git, _, fs =>
    (Act.within_of_readOnly (Client.runPipeline_readOnly c p git) : KeepsFieldsAt F f fs _)
  | .runCommand config, h, fs =>
    keepsFieldsAt_runRun sha256 c config (h (by simp only [Op.owns]; split <;> simp))
      (fun hmay => h (by simp [Op.owns, hmay])) fs
  | .volumesAdd p input, h, fs => keepsFieldsAt_configVolumesAdd p input (h (.head _)) fs
  | .volumesRemove p selection, h, fs =>
    keepsFieldsAt_configVolumesRemove volumeString p selection (h (.head _)) fs
  | .wait _, _, _ => id

end Operations

/-! ## A run of operations -/

theorem descriptor_keeps_unowned_fields (sha256 : List Char → String) (volumeString : Volume → String)
    (calls : List Call) {fs : FileSystem} {t : Int} {f : Function}
    (hfile : fs.lookup [FunctionFile] = some (.file t (.yaml (encodeFunction f))))
    (hf : f.Migrated = .ok true) (root : String) :
    ∀ fs' ∈ Call.trace sha256 volumeString calls fs, ∃ g, newFunction fs' root = .ok g ∧
      g.outside (calls.flatMap (·.op.owns)) = f.outside (calls.flatMap (·.op.owns)) := fun fs' hfs' => by
  obtain ⟨_, g, hfile', hg, hkept⟩ := Call.trace_invariant sha256 volumeString
    (P := fun op => op.owns ⊆ calls.flatMap (·.op.owns)) (I := DescriptorKept (calls.flatMap (·.op.owns)) f)
    (Op.exec_descriptorKept sha256 · volumeString) calls fs
    (fun _ hcall _ hx => List.mem_flatMap_of_mem hcall hx) ⟨t, f, hfile, hf, rfl⟩ fs' hfs'
  exact ⟨_, newFunction_of_file root hfile' hg, hkept⟩

/-- A build, a push, a ConfigMap mounted, a wait and a deploy of
`demoProject`, the build by a client whose builder fails: what loads agrees
with `demoFunction` outside the image, the digest and the volumes all along. -/
theorem demo_keeps_unowned_fields :
    Client.demoProject.lookup [FunctionFile] = some (.file 1 (.yaml (encodeFunction Client.demoFunction))) ∧
      Client.demoFunction.Migrated = .ok true ∧
      ∀ fs' ∈ Call.trace String.mk (fun _ => "")
          [Call.mk { Client.demoClient with builder := fun _ => .error (.error "build failed") } (.build "/srv/demo"),
            ⟨Client.demoClient, .push "/srv/demo"⟩, ⟨Client.demoClient, .volumesAdd "/srv/demo" configMapInput⟩,
            ⟨Client.demoClient, .wait 1⟩, ⟨Client.demoClient, .deploy "/srv/demo"⟩] Client.demoProject,
        ∃ g, newFunction fs' "/srv/demo" = .ok g ∧
          g.outside [.image, .imageDigest, .volumes] = Client.demoFunction.outside [.image, .imageDigest, .volumes] :=
  have hfile : Client.demoProject.lookup [FunctionFile] =
      some (.file 1 (.yaml (encodeFunction Client.demoFunction))) := rfl
  have hf : Client.demoFunction.Migrated = .ok true := by decide
  ⟨hfile, hf, descriptor_keeps_unowned_fields String.mk (fun _ => "") _ hfile hf "/srv/demo"⟩

end KnFunc
