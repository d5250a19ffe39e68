import KnFunc.Lifecycle.Footprint
import KnFunc.Client.Cluster

/-!
# Staying built

`Built` holds while the build stamp is the fingerprint of the directory now,
and the fingerprint reads each entry's path and modification time. Every
operation that persists the descriptor stamps its file with the clock. So once
the descriptor file carries the clock's time, writing it again changes nothing
the fingerprint reads, and the function stays built until the clock moves.

**The laws.**
- `built_persists_while_clock_stands`: from a directory where the function
  reads as built at `path` and its descriptor file carries the clock's time,
  every directory a run of operations on `path`, each served by a client of
  its own, passes through reads as built, so long as no time passes and
  nothing is created. Builds, pushes, deploys,
  the volume commands and the run command may all be in the run, and each may
  fail at any step.
- `run_leaves_function_built`: when the run command may build (`--build` is
  `auto` or true) and starts its job, the function reads as built in the
  directory it leaves: on `auto` because it already did, or because it was
  built. A build loads the descriptor, and what it writes back always names an
  image (`derivedImage_ne_empty`).
- `rebuild_changes_nothing`: right after a successful build of a migrated
  descriptor, with no time passed, building again succeeds and leaves the
  directory exactly as it is: the descriptor, `.gitignore` and the stamp are
  each rewritten with what they hold, at the time they carry.
- `new_built_exactly_when_no_pause_before_push`: when `New` succeeds, the
  function reads as built at the root its configuration names if no time
  passed between the build and the push, and as stale if some did (given a
  hash without collisions and a root the walk does not skip). The push
  rewrites the descriptor at the clock's time; deploying and routing only
  read, and the clock moving on changes nothing `Built` reads while the
  descriptor on disk is migrated (`built_advance`).

`KeepsBuiltAt fs a` says that running `a` from `fs` keeps the function built
with its descriptor at the clock's time: `Act.Within` for the relation
`Act.Keeps BuiltNow`, so it is closed under sequencing, reads and branches.
`Build` is taken as a whole: rewriting `.gitignore` changes what the walk
reads, and the stamp written after it makes the function built again.

**What it does not establish.** Time passing within a run of operations,
beyond `New`: after a wait, the next write of the descriptor stamps it later
and the function reads as stale (`Client.built_false_of_later_descriptor`).
Edits by hand, and `Create`, which runs the template writer.
-/

namespace KnFunc

open Staleness

variable (sha256 : List Char → String) (path : String)

/-- The function reads as built at `path`, and its descriptor file carries the
clock's time. -/
def BuiltNow (fs : FileSystem) : Prop :=
  Client.Built sha256 path fs = true ∧ (fs.lookup [FunctionFile]).map Entry.modTime = some fs.now

variable {sha256 path}

/-- Where the function reads as built, what loads has an image and is migrated. -/
theorem BuiltNow.loaded {fs : FileSystem} {f : Function} (hb : BuiltNow sha256 path fs)
    (hf : newFunction fs path = .ok f) : f.HasImage = true ∧ f.Migrated = .ok true := by
  obtain ⟨g, -, -, hg, himage, -, -⟩ := Client.built_eq_true_iff.mp hb.1
  rw [hf] at hg
  cases hg
  exact ⟨himage, migrated_of_newFunction hf himage⟩

/-- The clock moving on changes nothing `Built` reads, while the descriptor
file holds a migrated descriptor: loading one that is not would stamp it
with the clock. -/
theorem built_advance {fs : FileSystem} {t : Int} {g : Function}
    (hfile : fs.lookup [FunctionFile] = some (.file t (.yaml (encodeFunction g))))
    (hg : g.Migrated = .ok true) (dt : Nat) :
    Client.Built sha256 path (fs.advance dt) = Client.Built sha256 path fs := by
  unfold Client.Built
  rw [@newFunction_of_file (fs.advance dt) _ _ path hfile hg, newFunction_of_file path hfile hg]
  rfl

/-- **Writing a migrated descriptor with an image keeps the function built**:
the write stamps the descriptor file with the time it already carries. -/
theorem BuiltNow.write {fs : FileSystem} {g : Function} (hb : BuiltNow sha256 path fs)
    (hg : g.Migrated = .ok true) (himage : g.HasImage = true) : BuiltNow sha256 path (g.Write fs).2 := by
  rcases hw : g.Write fs with ⟨_ | u, fs'⟩
  · show BuiltNow sha256 path fs'
    rw [(Act.update_eq_error.mp hw).2]
    exact hb
  show BuiltNow sha256 path fs'
  obtain ⟨_, hash, t, hload, -, hfp, hstamp⟩ := Client.built_eq_true_iff.mp hb.1
  obtain ⟨e, he, het⟩ := Option.map_eq_some'.mp hb.2
  obtain ⟨t0, c0, rfl, rfl⟩ := FileSystem.writeFile_of_lookup he (Act.update_eq_ok.mp hw)
  cases het
  refine ⟨Client.built_eq_true_iff.mpr ⟨{ g with root := path }, hash, t,
    newFunction_write path (root_of_newFunction hload) hg hw, himage, ?_, ?_⟩, ?_⟩
  · exact (fingerprint_congr_records (records_walk_rewriteAt _ he path)).trans hfp
  · rw [FileSystem.rewriteAt, FileSystem.lookup_map, hstamp]
    simp [FunctionFile, RunDataDir]
  · simp [FileSystem.rewriteAt, he, Entry.rewrite, Entry.modTime]

/-- **Restamping keeps the function built**: from a directory where it reads
as built and the descriptor file holds `f`, `updateBuildStamp f` either fails
at `.gitignore`, having changed nothing, or writes the stamp the directory now
has. -/
theorem BuiltNow.updateBuildStamp {fs : FileSystem} {f : Function} {t : Int}
    (hb : BuiltNow sha256 path fs)
    (hfile : fs.lookup [FunctionFile] = some (.file t (.yaml (encodeFunction f))))
    (hf : f.Migrated = .ok true) (himage : f.HasImage = true) (hroot : f.root = path) :
    BuiltNow sha256 path (Client.updateBuildStamp sha256 f fs).2 := by
  obtain ⟨-, hash, ts, -, -, -, hstamp⟩ := Client.built_eq_true_iff.mp hb.1
  obtain ⟨t0, hroot0⟩ := FileSystem.root_isDir hstamp (List.cons_ne_nil _ _)
  obtain ⟨t1, hrun⟩ := FileSystem.parent_eq_dir hstamp (List.cons_ne_nil _ _)
  have hmk : Act.update (·.mkdirAll [RunDataDir]) fs = (.ok (), fs) :=
    Act.update_of_ok (FileSystem.mkdirAll_singleton_of_dir hroot0 hrun)
  cases hg : fs.writeFile [".gitignore"] (.text gitignore) with
  | error e =>
    have hens : ensureRuntimeDir fs = (.error e, fs) := by
      rw [ensureRuntimeDir, Act.bind_of_ok hmk, Act.update_of_error hg]
    rw [Client.updateBuildStamp, Act.bind_of_error hens]
    exact hb
  | ok fs2 =>
    obtain ⟨hnow2, -, hframe2⟩ := FileSystem.writeFile_frame hg
    have hstamp2 : fs2.lookup [RunDataDir, buildstamp] = some (.file ts (.text hash)) := by
      simpa [hstamp] using hframe2 [RunDataDir, buildstamp] (by decide)
    obtain ⟨t2, hroot2⟩ := FileSystem.root_isDir hstamp2 (List.cons_ne_nil _ _)
    obtain ⟨hash2, hfp2⟩ : ∃ h, fingerprint sha256 fs2 f.root = .ok h :=
      ⟨_, by simp only [fingerprint, walk_of_lookup hroot2]; rfl⟩
    have hw3 := FileSystem.writeFile_of_file hstamp2 (.text hash2)
    have hens : ensureRuntimeDir fs = (.ok (), fs2) := by
      rw [ensureRuntimeDir, Act.bind_of_ok hmk, Act.update_of_ok hg]
    -- the stamp is written, and the descriptor file is as it was
    have hdesc := Client.updateBuildStamp_frame sha256 f fs
    rw [Client.updateBuildStamp, Act.bind_of_ok hens, Act.bind_of_ok (by rw [Act.read_apply, hfp2]),
      Act.update_of_ok hw3] at hdesc ⊢
    refine ⟨(Client.built_after_stamp hw3).mpr
      ⟨⟨{ f with root := path }, newFunction_of_file path (hdesc.trans hfile) hf, himage⟩, hroot ▸ hfp2⟩, ?_⟩
    rw [hdesc, (FileSystem.writeFile_frame hw3).1, hnow2]
    exact hb.2

/-! ## Operations that keep the function built -/

section KeepsBuilt

variable {α : Type}

/-- Running `a` from `fs` keeps the function built, with its descriptor file
at the clock's time. -/
abbrev KeepsBuiltAt (sha256 : List Char → String) (path : String) (fs : FileSystem) (a : Act FileSystem α) :
    Prop :=
  Act.Within (Act.Keeps (BuiltNow sha256 path)) fs a

/-- Writing back what was loaded at `path`, with a field of the operation's
own changed, keeps the function built. -/
theorem keepsBuiltAt_write {fs : FileSystem} {f g : Function} (hf : newFunction fs path = .ok f)
    (hversion : g.version = f.version) (himage : g.image = f.image) :
    KeepsBuiltAt sha256 path fs g.Write := fun hb =>
  have hloaded := hb.loaded hf
  hb.write ((migrated_congr hversion).trans hloaded.2) (by simpa [Function.HasImage, himage] using hloaded.1)

end KeepsBuilt

/-! ## The operations -/

theorem keepsBuiltAt_build (c : Client) (fs : FileSystem) :
    KeepsBuiltAt sha256 path fs (c.Build sha256 path) := by
  intro hb
  obtain ⟨f, hf, himage, hmig⟩ : ∃ f, newFunction fs path = .ok f ∧ f.HasImage = true ∧ f.Migrated = .ok true := by
    obtain ⟨g, -, -, hg, -, -, -⟩ := Client.built_eq_true_iff.mp hb.1
    exact ⟨g, hg, hb.loaded hg⟩
  -- the image derived is the one the descriptor names, so `f` is written back as it is
  have heta : ({ f with image := f.image } : Function) = f := rfl
  simp only [Client.Build, Act.bind_apply, Act.read_apply, hf, derivedImage_of_image hf himage, heta]
  cases hbuilder : c.builder f with
  | error e => exact hb
  | ok u =>
    dsimp only
    rcases hw : f.Write fs with ⟨_ | u', fs1⟩
    · rw [(Act.update_eq_error.mp hw).2]
      exact hb
    · have hb1 : BuiltNow sha256 path fs1 := by simpa [hw] using hb.write hmig himage
      exact hb1.updateBuildStamp (FileSystem.writeFile_frame (Act.update_eq_ok.mp hw)).2.1 hmig himage
        (newFunction_root hf)

theorem keepsBuiltAt_push (c : Client) (fs : FileSystem) :
    KeepsBuiltAt sha256 path fs (c.Push path) := by
  refine Act.within_read_bind fun f hf => ?_
  dsimp only
  exact .ite Act.within_fail_bind (Act.within_read_bind fun _ _ => Act.within_read_bind fun d _ =>
    keepsBuiltAt_write (g := { f with imageDigest := d }) hf rfl rfl)

theorem keepsBuiltAt_buildIfRequested (c : Client) (config : RunConfig) (hpath : config.path = path)
    (root : String) (fs : FileSystem) :
    KeepsBuiltAt sha256 path fs (buildIfRequested sha256 c config root) := by
  unfold buildIfRequested
  rw [hpath]
  split
  · exact Act.within_read_bind fun _ _ =>
      .ite (keepsBuiltAt_build c fs) (Act.within_of_readOnly (Act.readOnly_pure _))
  · split
    · exact Act.within_of_readOnly (Act.readOnly_fail _)
    · exact keepsBuiltAt_build c fs
    · exact Act.within_of_readOnly (Act.readOnly_pure _)

theorem keepsBuiltAt_runRun (c : Client) (config : RunConfig) (hpath : config.path = path)
    (fs : FileSystem) : KeepsBuiltAt sha256 path fs (runRun sha256 c config) := by
  refine Act.within_read_bind fun f hf => ?_
  rw [hpath] at hf
  dsimp only
  have hrest : ∀ s, KeepsBuiltAt sha256 path s
      (buildIfRequested sha256 { c with registry := config.registry } config f.root >>= fun _ =>
        Client.Run { c with registry := config.registry } config.path) := fun s =>
    (keepsBuiltAt_buildIfRequested _ config hpath f.root s).bind fun _ s' _ =>
      Act.within_of_readOnly (Client.run_readOnly _ _)
  refine .ite ((keepsBuiltAt_write (g := { f with run.envs :=
    (mergeEnvs f.run.envs config.envToUpdate config.envToRemove).1 }) hf rfl rfl).bind fun _ s _ => ?_) ?_ <;>
    exact .ite Act.within_fail_bind (hrest _)

theorem keepsBuiltAt_configVolumesAdd (input : AddVolumeInput) (fs : FileSystem) :
    KeepsBuiltAt sha256 path fs (configVolumesAdd path input) := by
  refine Act.within_read_bind fun f hf => ?_
  unfold runAddVolumesPrompt
  split
  · exact Act.within_of_readOnly (Act.readOnly_fail _)
  · exact Act.within_of_readOnly (Act.readOnly_pure _)
  · rename_i v _
    exact keepsBuiltAt_write (g := { f with run.volumes := f.run.volumes ++ [v] })
      (newFunction_of_initConfigCommand hf) rfl rfl

theorem keepsBuiltAt_configVolumesRemove (volumeString : Volume → String)
    (selection : Except Fault (Option String)) (fs : FileSystem) :
    KeepsBuiltAt sha256 path fs (configVolumesRemove volumeString path selection) := by
  refine Act.within_read_bind fun f hf => ?_
  unfold runRemoveVolumesPrompt
  split
  · exact Act.within_of_readOnly (Act.readOnly_pure _)
  split
  · exact Act.within_of_readOnly (Act.readOnly_fail _)
  · exact Act.within_of_readOnly (Act.readOnly_pure _)
  split
  · rename_i i _
    exact keepsBuiltAt_write (g := { f with run.volumes := f.run.volumes.eraseIdx i })
      (newFunction_of_initConfigCommand hf) rfl rfl
  · exact Act.within_of_readOnly (Act.readOnly_pure _)

/-! ## A run of operations -/

/-- An operation on the project at `path` that lets no time pass and creates
nothing: builds, pushes and the volume commands name `path`, and the run
command runs at `path`. -/
def Op.Steady (path : String) : Op → Bool
  | .create _ _ => false
  | .build p => p == path
  | .push p => p == path
  | .deploy _ => true
  | .run _ => true
  | .runPipeline _ _ => true
  | .runCommand config => config.path == path
  | .volumesAdd p _ => p == path
  | .volumesRemove p _ => p == path
  | .wait _ => false

/-- **A steady operation keeps the function built.** -/
theorem Op.exec_builtNow (c : Client) (volumeString : Volume → String) :
    ∀ (op : Op), op.Steady path = true → ∀ fs, BuiltNow sha256 path fs →
      BuiltNow sha256 path (op.exec sha256 c volumeString fs)
  | .build p, h, fs => by rw [beq_iff_eq.mp h]; exact keepsBuiltAt_build c fs
  | .push p, h, fs => by rw [beq_iff_eq.mp h]; exact keepsBuiltAt_push c fs
  | .deploy p, _, fs => (Act.within_of_readOnly (Client.deploy_readOnly c p) : KeepsBuiltAt sha256 path fs _)
  | .run root, _, fs => (Act.within_of_readOnly (Client.run_readOnly c root) : KeepsBuiltAt sha256 path fs _)
  | .runPipeline p git, _, fs =>
    (Act.within_of_readOnly (Client.runPipeline_readOnly c p git) : KeepsBuiltAt sha256 path fs _)
  | .runCommand config, h, fs => keepsBuiltAt_runRun c config (beq_iff_eq.mp h) fs
  | .volumesAdd p input, h, fs => by rw [beq_iff_eq.mp h]; exact keepsBuiltAt_configVolumesAdd input fs
  | .volumesRemove p selection, h, fs => by
    rw [beq_iff_eq.mp h]; exact keepsBuiltAt_configVolumesRemove volumeString selection fs

theorem built_persists_while_clock_stands (sha256 : List Char → String) (volumeString : Volume → String)
    (path : String) (calls : List Call) (fs : FileSystem) (hops : ∀ call ∈ calls, call.op.Steady path = true)
    (hbuilt : Client.Built sha256 path fs = true)
    (hnow : (fs.lookup [FunctionFile]).map Entry.modTime = some fs.now) :
    ∀ fs' ∈ Call.trace sha256 volumeString calls fs, Client.Built sha256 path fs' = true := fun fs' hfs' =>
  (Call.trace_invariant sha256 volumeString (I := BuiltNow sha256 path) (fun c => Op.exec_builtNow c volumeString)
    calls fs hops ⟨hbuilt, hnow⟩ fs' hfs').1

/-- After the build of `demoProject`, a push, a removal of a volume that is
not there, a deploy by a client whose deployer fails, and another build: the
function reads as built all along. -/
theorem demo_stays_built_while_clock_stands :
    (∀ call ∈ [Call.mk Client.demoClient (.push "/srv/demo"), ⟨Client.demoClient, .volumesRemove "/srv/demo" (.ok none)⟩,
        ⟨{ Client.demoClient with deployer := fun _ => .error (.error "quota exceeded") }, .deploy "/srv/demo"⟩,
        ⟨Client.demoClient, .build "/srv/demo"⟩], call.op.Steady "/srv/demo" = true) ∧
      Client.Built String.mk "/srv/demo" Client.builtProject = true ∧
      (Client.builtProject.lookup [FunctionFile]).map Entry.modTime = some Client.builtProject.now ∧
      ∀ fs' ∈ Call.trace String.mk (fun _ => "") [Call.mk Client.demoClient (.push "/srv/demo"),
          ⟨Client.demoClient, .volumesRemove "/srv/demo" (.ok none)⟩,
          ⟨{ Client.demoClient with deployer := fun _ => .error (.error "quota exceeded") }, .deploy "/srv/demo"⟩,
          ⟨Client.demoClient, .build "/srv/demo"⟩] Client.builtProject,
        Client.Built String.mk "/srv/demo" fs' = true :=
  have hops : ∀ call ∈ [Call.mk Client.demoClient (.push "/srv/demo"),
      ⟨Client.demoClient, .volumesRemove "/srv/demo" (.ok none)⟩,
      ⟨{ Client.demoClient with deployer := fun _ => .error (.error "quota exceeded") }, .deploy "/srv/demo"⟩,
      ⟨Client.demoClient, .build "/srv/demo"⟩], call.op.Steady "/srv/demo" = true := by
    simp [Op.Steady]
  have hbuilt : Client.Built String.mk "/srv/demo" Client.builtProject = true := by decide
  have hnow : (Client.builtProject.lookup [FunctionFile]).map Entry.modTime = some Client.builtProject.now := by
    decide
  ⟨hops, hbuilt, hnow,
    built_persists_while_clock_stands String.mk (fun _ => "") "/srv/demo" _ _ hops hbuilt hnow⟩

/-! ## Building again -/

theorem rebuild_changes_nothing (sha256 : List Char → String) (c : Client) (path : String)
    {fs fs' : FileSystem} (hbuild : c.Build sha256 path fs = (.ok (), fs'))
    (hmig : ∀ f, newFunction fs path = .ok f → f.Migrated = .ok true) :
    c.Build sha256 path fs' = (.ok (), fs') := by
  obtain ⟨f, image, hash, hf, hi, hbuilder, -, hfile, hignore, hstamp, hfp⟩ := Client.build_leaves hbuild
  have hroot : f.root = path := newFunction_root hf
  obtain ⟨t0, h0⟩ := FileSystem.root_isDir hfile (List.cons_ne_nil _ _)
  obtain ⟨t1, h1⟩ := FileSystem.parent_eq_dir hstamp (List.cons_ne_nil _ _)
  -- the second build loads what the first wrote, derives the same image, and
  -- writes each of its files with what it holds, at the time it carries
  have hload : newFunction fs' path = .ok { f with image := image } := by
    rw [newFunction_of_file path hfile ((migrated_congr rfl).trans (hmig f hf)), ← hroot]
  have himage : ({ f with image := image } : Function).HasImage = true := by
    simpa [Function.HasImage] using derivedImage_ne_empty hi
  have hwrite : ({ f with image := image } : Function).Write fs' = (.ok (), fs') :=
    Act.update_of_ok (FileSystem.writeFile_self hfile)
  have hens : ensureRuntimeDir fs' = (.ok (), fs') := by
    rw [ensureRuntimeDir, Act.bind_of_ok (Act.update_of_ok (FileSystem.mkdirAll_singleton_of_dir h0 h1)),
      Act.update_of_ok (FileSystem.writeFile_self hignore)]
  rw [Client.Build, Act.bind_of_ok (by rw [Act.read_apply, hload]),
    Act.bind_of_ok (by rw [Act.read_apply, derivedImage_of_image hload himage]),
    Act.bind_of_ok (by rw [Act.read_apply, hbuilder]), Act.bind_of_ok hwrite,
    Client.updateBuildStamp, Act.bind_of_ok hens, Act.bind_of_ok (by rw [Act.read_apply, hfp]),
    Act.update_of_ok (FileSystem.writeFile_self hstamp)]

/-- Building `demoProject` a second time leaves it as the first build did. -/
theorem demo_rebuild_changes_nothing :
    Client.demoClient.Build String.mk "/srv/demo" Client.demoProject = (.ok (), Client.builtProject) ∧
      (∀ f, newFunction Client.demoProject "/srv/demo" = .ok f → f.Migrated = .ok true) ∧
      Client.demoClient.Build String.mk "/srv/demo" Client.builtProject = (.ok (), Client.builtProject) :=
  have hbuild : Client.demoClient.Build String.mk "/srv/demo" Client.demoProject = (.ok (), Client.builtProject) :=
    Prod.ext (by decide) rfl
  have hload : newFunction Client.demoProject "/srv/demo" = .ok { Client.demoFunction with root := "/srv/demo" } := by
    decide
  have hmig : ∀ f, newFunction Client.demoProject "/srv/demo" = .ok f → f.Migrated = .ok true := fun f hf => by
    rw [hload] at hf
    cases hf
    decide
  ⟨hbuild, hmig, rebuild_changes_nothing String.mk Client.demoClient "/srv/demo" hbuild hmig⟩

/-! ## The run command -/

/-- **A successful build leaves the function built, its descriptor at the
clock's time**, when what it loaded was migrated: it wrote the descriptor back
with an image, which is never empty, and stamped the fingerprint of the
directory it left. -/
theorem BuiltNow.of_build {c : Client} {fs fs' : FileSystem}
    (hbuild : c.Build sha256 path fs = (.ok (), fs'))
    (hmig : ∀ f, newFunction fs path = .ok f → f.Migrated = .ok true) : BuiltNow sha256 path fs' := by
  obtain ⟨f, image, hash, hf, hi, -, -, hfile, -, hstamp, hfp⟩ := Client.build_leaves hbuild
  have hroot : f.root = path := newFunction_root hf
  refine ⟨Client.built_eq_true_iff.mpr ⟨_, hash, _, newFunction_of_file path hfile
    ((migrated_congr rfl).trans (hmig f hf)), ?_, hroot ▸ hfp, hstamp⟩, by rw [hfile]; rfl⟩
  simpa [Function.HasImage] using derivedImage_ne_empty hi

/-- When the run command may build, what `buildIfRequested` leaves reads as
built: on `auto` it builds only what does not read as built already. -/
theorem built_of_buildIfRequested {c : Client} {config : RunConfig} {fs fs' : FileSystem}
    (hmay : config.mayBuild = true) (hmig : ∀ f, newFunction fs config.path = .ok f → f.Migrated = .ok true)
    (h : buildIfRequested sha256 c config config.path fs = (.ok (), fs')) :
    Client.Built sha256 config.path fs' = true := by
  unfold buildIfRequested at h
  by_cases hauto : config.build = "auto"
  · rw [if_pos hauto] at h
    obtain ⟨b, hb, h⟩ := Act.read_bind_eq_ok.mp h
    cases b
    · exact (BuiltNow.of_build h hmig).1
    · cases h
      exact Except.ok.inj hb
  · have hparse : parseBool config.build = some true := by
      simpa [RunConfig.mayBuild, hauto] using hmay
    rw [if_neg hauto, hparse] at h
    exact (BuiltNow.of_build h hmig).1

theorem run_leaves_function_built (sha256 : List Char → String) (c : Client) (config : RunConfig)
    {fs fs' : FileSystem} {job : Job} (hmay : config.mayBuild = true)
    (hrun : runRun sha256 c config fs = (.ok job, fs')) : Client.Built sha256 config.path fs' = true := by
  obtain ⟨f, fsw, fsb, hf, hinit, hw, hb, hjob⟩ := runRun_eq_ok hrun
  have hmig : f.Migrated = .ok true := migrated_of_initialized hf hinit
  -- what the build loads is `f`, or `f` as the merge wrote it back: migrated either way
  have hload : ∀ g, newFunction fsw config.path = .ok g → g.Migrated = .ok true := by
    intro g hg
    rcases hw with rfl | hw
    · rw [hf] at hg
      cases hg
      exact hmig
    · have hmerged : ({ f with run.envs := (mergeEnvs f.run.envs config.envToUpdate config.envToRemove).1 } :
          Function).Migrated = .ok true := (migrated_congr rfl).trans hmig
      rw [newFunction_write config.path (root_of_newFunction hf) hmerged hw] at hg
      cases hg
      exact (migrated_congr rfl).trans hmig
  rw [newFunction_root hf] at hb
  have hfs' : fs' = fsb := by
    simpa only [hjob] using Client.run_readOnly { c with registry := config.registry } config.path fsb
  exact hfs' ▸ built_of_buildIfRequested hmay hload hb

/-- `run` with the default `--build=auto` on `demoProject`. -/
def autoConfig : RunConfig := ⟨"/srv/demo", [], [], "auto", "quay.io/myuser", by decide⟩

/-- On `auto`, the run builds `demoProject`, which did not read as built, and
starts its job; the directory it leaves reads as built. -/
theorem auto_run_builds_demo :
    Client.Built String.mk "/srv/demo" Client.demoProject = false ∧ autoConfig.mayBuild = true ∧
      runRun String.mk Client.demoClient autoConfig Client.demoProject =
        (.ok ⟨"8080"⟩, (runRun String.mk Client.demoClient autoConfig Client.demoProject).2) ∧
      Client.Built String.mk autoConfig.path (runRun String.mk Client.demoClient autoConfig Client.demoProject).2 =
        true :=
  have hmay : autoConfig.mayBuild = true := by decide
  have hrun : runRun String.mk Client.demoClient autoConfig Client.demoProject =
      (.ok ⟨"8080"⟩, (runRun String.mk Client.demoClient autoConfig Client.demoProject).2) :=
    Prod.ext (by decide) rfl
  ⟨by decide, hmay, hrun, run_leaves_function_built String.mk Client.demoClient autoConfig hmay hrun⟩

/-! ## `New` -/

/-- **`New` leaves the function built exactly when the push follows the
build at once.** With no time between them, the push rewrites the descriptor
at the time it carries. Once the clock has moved, it stamps the descriptor
later than the build saw it, and the function reads as stale, given a hash
without collisions and a root that the walk does not skip. Deploying and
routing only read, and the clock moving on after the push changes nothing
`Built` reads. -/
theorem new_built_exactly_when_no_pause_before_push (sha256 : List Char → String) (c : Client)
    {Instance ListItem : Type} (cl : Cluster Instance ListItem) (pauses : Client.NewPauses) (cwd : String)
    (cfg : Function) {fs fs' : FileSystem} (h : c.New sha256 cl pauses cwd cfg fs = (.ok (), fs')) :
    (pauses.afterBuild = 0 → Client.Built sha256 cfg.root fs' = true) ∧
      (0 < pauses.afterBuild → Function.Injective sha256 → Path.clean cfg.root.data ≠ ['.'] →
        Path.baseName cfg.root.data ∉ [RunDataDir.data, ".git".data] →
        Client.Built sha256 cfg.root fs' = false) := by
  obtain ⟨fs1, f, fs2, fs3, fs4, hcreate, hf, hbuild, hpush, hdeploy, hroute⟩ := Client.new_eq_ok h
  rw [newFunction_root hf] at hbuild hpush hdeploy hroute
  -- `Create` wrote the descriptor file last, so what loads from it is migrated
  obtain ⟨_, _, _, _, _, -, -, -, hw⟩ := Client.create_eq_ok hcreate
  have hfile : ((fs1.advance pauses.afterCreate).lookup [FunctionFile]).isSome := by
    rw [FileSystem.lookup_advance, (FileSystem.writeFile_frame (Act.update_eq_ok.mp hw)).2.1]
    rfl
  have hmig1 : ∀ g, newFunction (fs1.advance pauses.afterCreate) cfg.root = .ok g → g.Migrated = .ok true :=
    fun g hg => migrated_of_descriptorFile hg hfile
  have hb2 := BuiltNow.of_build hbuild hmig1
  obtain ⟨f2, image, -, hf2, -, -, -, hfile2, -⟩ := Client.build_leaves hbuild
  have hmig2 : ({ f2 with image := image } : Function).Migrated = .ok true :=
    (migrated_congr rfl).trans (hmig1 f2 hf2)
  -- the push writes the descriptor back at the clock's time, and the stamp is left alone
  obtain ⟨g, d, hg, himage, -, hw3⟩ := Client.push_eq_ok hpush
  obtain ⟨-, hfile3, hframe3⟩ := FileSystem.writeFile_frame (Act.update_eq_ok.mp hw3)
  have hmig3 : ({ g with imageDigest := d } : Function).Migrated = .ok true :=
    (migrated_congr (g := g) rfl).trans (migrated_of_newFunction hg himage)
  have htail : Client.Built sha256 cfg.root fs' = Client.Built sha256 cfg.root fs3 := by
    have h4 : fs4 = fs3.advance pauses.afterPush := by
      simpa only [hdeploy] using Client.deploy_readOnly c cfg.root (fs3.advance pauses.afterPush)
    have h5 : fs' = fs4.advance pauses.afterDeploy := by
      simpa only [hroute] using cl.route_readOnly cfg.root (fs4.advance pauses.afterDeploy)
    rw [h5, h4, @built_advance sha256 cfg.root (fs3.advance pauses.afterPush) _ _ hfile3 hmig3,
      built_advance hfile3 hmig3]
  refine ⟨fun h0 => ?_, fun hpos hinj hclean hname => ?_⟩
  · -- no time passes before the push, which keeps the function built
    rw [h0, FileSystem.advance_zero] at hpush
    have hb3 : BuiltNow sha256 cfg.root fs3 := by simpa only [hpush] using keepsBuiltAt_push c fs2 hb2
    exact htail.trans hb3.1
  · -- the push stamps the descriptor later than the build saw it
    have hlater : ((fs2.advance pauses.afterBuild).lookup [FunctionFile]).map Entry.modTime ≠
        some (fs2.advance pauses.afterBuild).now := by
      rw [FileSystem.lookup_advance, hb2.2, FileSystem.now_advance, ne_eq, Option.some.injEq]
      omega
    rw [htail]
    exact Client.built_false_of_later_descriptor hinj hclean hname
      ((built_advance hfile2 hmig2 _).trans hb2.1) hlater hfile3
      (by rw [hframe3 _ (by decide)]; simp [FunctionFile, RunDataDir])

/-- A cluster whose collaborators all succeed. -/
def quietCluster : Cluster Unit Unit :=
  ⟨fun _ => .ok (), fun _ => .ok (), .ok [], fun _ => .ok (), fun _ => .ok ()⟩

/-- A Go function rooted at `/srv/fn`. -/
def fnConfig : Function := { Client.goConfig with root := "/srv/fn" }

/-- `New` of a Go function at `/srv/fn`, from an empty directory: pushed at
once after its build, it reads as built; pushed a moment later, as stale. -/
theorem new_fn_built_only_without_pause :
    Client.demoClient.New String.mk quietCluster ⟨1, 0, 1, 1⟩ "/srv" fnConfig Client.emptyDirectory =
        (.ok (), (Client.demoClient.New String.mk quietCluster ⟨1, 0, 1, 1⟩ "/srv" fnConfig
          Client.emptyDirectory).2) ∧
      Client.Built String.mk fnConfig.root
        (Client.demoClient.New String.mk quietCluster ⟨1, 0, 1, 1⟩ "/srv" fnConfig Client.emptyDirectory).2 =
          true ∧
      Client.demoClient.New String.mk quietCluster ⟨0, 1, 0, 0⟩ "/srv" fnConfig Client.emptyDirectory =
        (.ok (), (Client.demoClient.New String.mk quietCluster ⟨0, 1, 0, 0⟩ "/srv" fnConfig
          Client.emptyDirectory).2) ∧
      Client.Built String.mk fnConfig.root
        (Client.demoClient.New String.mk quietCluster ⟨0, 1, 0, 0⟩ "/srv" fnConfig Client.emptyDirectory).2 =
          false :=
  have hnow : Client.demoClient.New String.mk quietCluster ⟨1, 0, 1, 1⟩ "/srv" fnConfig Client.emptyDirectory =
      (.ok (), (Client.demoClient.New String.mk quietCluster ⟨1, 0, 1, 1⟩ "/srv" fnConfig
        Client.emptyDirectory).2) :=
    Prod.ext (by decide) rfl
  have hlater : Client.demoClient.New String.mk quietCluster ⟨0, 1, 0, 0⟩ "/srv" fnConfig Client.emptyDirectory =
      (.ok (), (Client.demoClient.New String.mk quietCluster ⟨0, 1, 0, 0⟩ "/srv" fnConfig
        Client.emptyDirectory).2) :=
    Prod.ext (by decide) rfl
  ⟨hnow, (new_built_exactly_when_no_pause_before_push String.mk Client.demoClient quietCluster _ "/srv" fnConfig
      hnow).1 rfl,
    hlater, (new_built_exactly_when_no_pause_before_push String.mk Client.demoClient quietCluster _ "/srv" fnConfig
      hlater).2 (by decide) (fun _ _ h => String.ext_iff.mp h) (by decide) (by decide)⟩

end KnFunc
