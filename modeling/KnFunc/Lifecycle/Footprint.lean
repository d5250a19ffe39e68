import KnFunc.Lifecycle.Persisted

/-!
# What the lifecycle operations write

The client keeps its own files in the project directory: the descriptor file,
the `.gitignore` that `ensureRuntimeDir` writes, and the run-data directory
with the build stamp in it. Everything else there is the function's source,
which only `Create`'s template writer writes.

**The law** (`lifecycle_writes_only_its_own_files`): over any run of
operations without `create`, each served by a client of its own, an entry at
a path outside every operation's
`Op.footprint` keeps its kind, modification time and content in every
directory the run passes through. `Deploy`, `Run`, `RunPipeline` and waiting
write nothing; `Push`, the volume commands and a run command that cannot build
write the descriptor file (and stamp the root when they create it); a build,
and a run command that may build, write in addition `.gitignore`, the
run-data directory and the build stamp. So no such run touches the source, and
only a build touches the stamp.

`WritesWithin P a` says that `a` leaves every path outside `P` as it found it,
whatever its outcome: `Act.Within` for the preorder `Footprint P`, so it is
closed under sequencing, reads and branches, and each operation's footprint
is read off its definition with it.

**What it does not establish.** What is written at the client's own paths.
Runs with a `create` are left out: its template writer writes the template.
-/

namespace KnFunc

/-- `fs'` differs from `fs` at most at the paths `P`. -/
def Footprint (P : List RelPath) (fs fs' : FileSystem) : Prop :=
  ∀ p, p ∉ P → fs'.lookup p = fs.lookup p

namespace Footprint

variable {P Q : List RelPath} {fs fs' fs'' : FileSystem}

theorem refl (P : List RelPath) (fs : FileSystem) : Footprint P fs fs := fun _ _ => rfl

theorem trans (h : Footprint P fs fs') (h' : Footprint P fs' fs'') : Footprint P fs fs'' :=
  fun p hp => (h' p hp).trans (h p hp)

theorem mono (hPQ : P ⊆ Q) (h : Footprint P fs fs') : Footprint Q fs fs' :=
  fun p hp => h p fun hP => hp (hPQ hP)

instance (P : List RelPath) : IsPreorder FileSystem (Footprint P) where
  refl := refl P
  trans _ _ _ := trans

end Footprint

/-! ## Calls that write within a set of paths -/

section WritesWithin

variable {α β : Type} {P Q : List RelPath}

/-- Every run of `a`, whatever its outcome, changes nothing outside `P`. -/
def WritesWithin (P : List RelPath) (a : Act FileSystem α) : Prop :=
  ∀ fs, Act.Within (Footprint P) fs a

theorem writesWithin_of_readOnly {a : Act FileSystem α} (h : Act.ReadOnly a) : WritesWithin P a :=
  fun _ => Act.within_of_readOnly h

theorem WritesWithin.mono {a : Act FileSystem α} (hPQ : P ⊆ Q) (h : WritesWithin P a) :
    WritesWithin Q a :=
  fun fs => Footprint.mono hPQ (h fs)

theorem WritesWithin.bind {x : Act FileSystem α} {k : α → Act FileSystem β} (hx : WritesWithin P x)
    (hk : ∀ v, WritesWithin P (k v)) : WritesWithin P (x >>= k) :=
  fun fs => (hx fs).bind fun v s' _ => hk v s'

theorem WritesWithin.ite {c : Prop} [Decidable c] {a b : Act FileSystem α} (ha : WritesWithin P a)
    (hb : WritesWithin P b) : WritesWithin P (if c then a else b) :=
  fun fs => (ha fs).ite (hb fs)

theorem writesWithin_read (g : FileSystem → Except Fault α) : WritesWithin P (Act.read g) :=
  writesWithin_of_readOnly (Act.readOnly_read g)

theorem writesWithin_pure (a : α) : WritesWithin P (pure a : Act FileSystem α) :=
  writesWithin_of_readOnly (Act.readOnly_pure a)

theorem writesWithin_fail (e : Fault) : WritesWithin P (Act.fail e : Act FileSystem α) :=
  writesWithin_of_readOnly (Act.readOnly_fail e)

/-- `os.WriteFile` writes the file and, when it creates it, the directory it
is created in. -/
theorem writesWithin_writeFile {p : RelPath} (c : Content) (hp : p ∈ P) (hparent : p.dropLast ∈ P) :
    WritesWithin P (Act.update (·.writeFile p c)) := by
  intro fs q hq
  cases hw : fs.writeFile p c with
  | error e => rw [Act.update_of_error hw]
  | ok fs' =>
    have hqd : q ≠ p.dropLast := fun h => hq (h ▸ hparent)
    rw [Act.update_of_ok hw, (FileSystem.writeFile_frame hw).2.2 q fun h => hq (h ▸ hp)]
    simp [hqd]

/-- `os.MkdirAll` writes the directories on the way to the one it makes. -/
theorem writesWithin_mkdirAll {p : RelPath} (hp : ∀ q, q <+: p → q ∈ P) :
    WritesWithin P (Act.update (·.mkdirAll p)) := by
  intro fs q hq
  cases hm : fs.mkdirAll p with
  | error e => rw [Act.update_of_error hm]
  | ok fs' => rw [Act.update_of_ok hm, (FileSystem.mkdirAll_frame hm).2.2 q fun h => hq (hp q h)]

end WritesWithin

/-! ## The client's own paths -/

/-- What persisting the descriptor writes: the descriptor file, and the root,
stamped when the file is created in it. -/
def descriptorPaths : List RelPath := [[], [FunctionFile]]

/-- What a build writes: the descriptor's paths, `.gitignore`, the run-data
directory and the build stamp. -/
def buildPaths : List RelPath :=
  [[], [FunctionFile], [".gitignore"], [RunDataDir], [RunDataDir, buildstamp]]

theorem descriptorPaths_subset : descriptorPaths ⊆ buildPaths := by
  simp [descriptorPaths, buildPaths]

theorem write_writesWithin (g : Function) : WritesWithin descriptorPaths g.Write :=
  writesWithin_writeFile _ (by simp [descriptorPaths]) (by simp [descriptorPaths])

namespace Client

variable (sha256 : List Char → String) (c : Client)

theorem ensureRuntimeDir_writesWithin : WritesWithin buildPaths ensureRuntimeDir :=
  (writesWithin_mkdirAll fun q hq => by
      rcases List.prefix_cons_iff.mp hq with rfl | ⟨t, rfl, ht⟩ <;> simp_all [buildPaths]).bind
    fun _ => writesWithin_writeFile _ (by simp [buildPaths]) (by simp [buildPaths])

theorem updateBuildStamp_writesWithin (f : Function) :
    WritesWithin buildPaths (updateBuildStamp sha256 f) :=
  (ensureRuntimeDir_writesWithin).bind fun _ => (writesWithin_read _).bind fun _ =>
    writesWithin_writeFile _ (by simp [buildPaths]) (by simp [buildPaths])

theorem build_writesWithin (path : String) : WritesWithin buildPaths (c.Build sha256 path) :=
  (writesWithin_read _).bind fun _ => (writesWithin_read _).bind fun _ =>
    (writesWithin_read _).bind fun _ => ((write_writesWithin _).mono descriptorPaths_subset).bind
      fun _ => updateBuildStamp_writesWithin sha256 _

theorem push_writesWithin (path : String) : WritesWithin descriptorPaths (c.Push path) := by
  refine (writesWithin_read _).bind fun f => ?_
  dsimp only
  have hrest : WritesWithin descriptorPaths (Act.read (fun _ => c.pusher f) >>= fun d =>
      ({ f with imageDigest := d } : Function).Write) :=
    (writesWithin_read _).bind fun _ => write_writesWithin _
  exact .ite ((writesWithin_fail _).bind fun _ => hrest) hrest

end Client

/-- Whether the run command's `--build` may build: `auto`, or a value
`ParseBool` reads as true. -/
def RunConfig.mayBuild (config : RunConfig) : Bool :=
  config.build == "auto" || parseBool config.build == some true

theorem buildIfRequested_writesWithin (sha256 : List Char → String) (client : Client)
    (config : RunConfig) (root : String) :
    WritesWithin (if config.mayBuild then buildPaths else []) (buildIfRequested sha256 client config root) := by
  unfold buildIfRequested
  by_cases hauto : config.build = "auto"
  · have hmay : config.mayBuild = true := by simp [RunConfig.mayBuild, hauto]
    rw [if_pos hauto, if_pos hmay]
    exact (writesWithin_read _).bind fun _ =>
      .ite (Client.build_writesWithin sha256 client _) (writesWithin_pure _)
  · rw [if_neg hauto]
    cases hparse : parseBool config.build with
    | none => exact writesWithin_fail _
    | some b =>
      cases b
      · exact writesWithin_pure _
      · have hmay : config.mayBuild = true := by simp [RunConfig.mayBuild, hparse]
        rw [if_pos hmay]
        exact Client.build_writesWithin sha256 client _

theorem runRun_writesWithin (sha256 : List Char → String) (c : Client) (config : RunConfig) :
    WritesWithin (if config.mayBuild then buildPaths else descriptorPaths) (runRun sha256 c config) := by
  have hsub : descriptorPaths ⊆ if config.mayBuild then buildPaths else descriptorPaths := by
    split
    · exact descriptorPaths_subset
    · exact List.Subset.refl _
  have hbuild : (if config.mayBuild then buildPaths else []) ⊆
      if config.mayBuild then buildPaths else descriptorPaths := by
    split
    · exact List.Subset.refl _
    · exact List.nil_subset _
  refine (writesWithin_read _).bind fun f => ?_
  dsimp only
  have hrest : WritesWithin (if config.mayBuild then buildPaths else descriptorPaths)
      (buildIfRequested sha256 { c with registry := config.registry } config f.root >>= fun _ =>
        Client.Run { c with registry := config.registry } config.path) :=
    ((buildIfRequested_writesWithin sha256 _ config f.root).mono hbuild).bind fun _ =>
      writesWithin_of_readOnly (Client.run_readOnly _ _)
  -- the descriptor written when the merge changed it, then the initialized check
  refine .ite (((write_writesWithin _).mono hsub).bind fun _ => ?_) ?_ <;>
    exact .ite ((writesWithin_fail _).bind fun _ => hrest) hrest

theorem configVolumesAdd_writesWithin (path : String) (input : AddVolumeInput) :
    WritesWithin descriptorPaths (configVolumesAdd path input) := by
  refine (writesWithin_read _).bind fun f => ?_
  unfold runAddVolumesPrompt
  split
  · exact writesWithin_fail _
  · exact writesWithin_pure _
  · exact write_writesWithin _

theorem configVolumesRemove_writesWithin (volumeString : Volume → String) (path : String)
    (selection : Except Fault (Option String)) :
    WritesWithin descriptorPaths (configVolumesRemove volumeString path selection) := by
  refine (writesWithin_read _).bind fun f => ?_
  unfold runRemoveVolumesPrompt
  split
  · exact writesWithin_pure _
  split
  · exact writesWithin_fail _
  · exact writesWithin_pure _
  split
  · exact write_writesWithin _
  · exact writesWithin_pure _

/-! ## A run of operations -/

/-- Whether the operation is `create`. -/
def Op.isCreate : Op → Bool
  | .create _ _ => true
  | _ => false

/-- The paths an operation may write. For `create`, only what `Create` writes
itself: its template writer writes the template's files besides. -/
def Op.footprint : Op → List RelPath
  | .create _ _ => buildPaths
  | .build _ => buildPaths
  | .push _ => descriptorPaths
  | .deploy _ => []
  | .run _ => []
  | .runPipeline _ _ => []
  | .runCommand config => if config.mayBuild then buildPaths else descriptorPaths
  | .volumesAdd _ _ => descriptorPaths
  | .volumesRemove _ _ => descriptorPaths
  | .wait _ => []

/-- **Each operation but `create` writes within its footprint.** -/
theorem Op.exec_footprint (sha256 : List Char → String) (c : Client) (volumeString : Volume → String) :
    ∀ (op : Op), op.isCreate = false → ∀ fs, Footprint op.footprint fs (op.exec sha256 c volumeString fs)
  | .build path, _, fs => Client.build_writesWithin sha256 c path fs
  | .push path, _, fs => Client.push_writesWithin c path fs
  | .deploy path, _, fs => writesWithin_of_readOnly (Client.deploy_readOnly c path) fs
  | .run root, _, fs => writesWithin_of_readOnly (Client.run_readOnly c root) fs
  | .runPipeline path git, _, fs => writesWithin_of_readOnly (Client.runPipeline_readOnly c path git) fs
  | .runCommand config, _, fs => runRun_writesWithin sha256 c config fs
  | .volumesAdd path input, _, fs => configVolumesAdd_writesWithin path input fs
  | .volumesRemove path selection, _, fs => configVolumesRemove_writesWithin volumeString path selection fs
  | .wait _, _, fs => .refl _ fs

theorem lifecycle_writes_only_its_own_files (sha256 : List Char → String) (volumeString : Volume → String)
    (calls : List Call) (fs : FileSystem) (hcreate : ∀ call ∈ calls, call.op.isCreate = false)
    {p : RelPath} (hp : ∀ call ∈ calls, p ∉ call.op.footprint) :
    ∀ fs' ∈ Call.trace sha256 volumeString calls fs, fs'.lookup p = fs.lookup p :=
  Call.trace_invariant sha256 volumeString (P := fun op => op.isCreate = false ∧ p ∉ op.footprint)
    (I := fun fs' => fs'.lookup p = fs.lookup p)
    (fun c op hop fs' h => (Op.exec_footprint sha256 c volumeString op hop.1 fs' p hop.2).trans h)
    calls fs (fun call hcall => ⟨hcreate call hcall, hp call hcall⟩) rfl

/-- A build, a push, a wait and a deploy of `demoProject`, the push by a
client whose pusher fails: `main.go` is as it was all along. -/
theorem demo_lifecycle_keeps_source :
    (∀ call ∈ [Call.mk Client.demoClient (.build "/srv/demo"),
        ⟨{ Client.demoClient with pusher := fun _ => .error (.error "unauthorized") }, .push "/srv/demo"⟩,
        ⟨Client.demoClient, .wait 1⟩, ⟨Client.demoClient, .deploy "/srv/demo"⟩], call.op.isCreate = false) ∧
      (∀ call ∈ [Call.mk Client.demoClient (.build "/srv/demo"),
        ⟨{ Client.demoClient with pusher := fun _ => .error (.error "unauthorized") }, .push "/srv/demo"⟩,
        ⟨Client.demoClient, .wait 1⟩, ⟨Client.demoClient, .deploy "/srv/demo"⟩], ["main.go"] ∉ call.op.footprint) ∧
      ∀ fs' ∈ Call.trace String.mk (fun _ => "") [Call.mk Client.demoClient (.build "/srv/demo"),
          ⟨{ Client.demoClient with pusher := fun _ => .error (.error "unauthorized") }, .push "/srv/demo"⟩,
          ⟨Client.demoClient, .wait 1⟩, ⟨Client.demoClient, .deploy "/srv/demo"⟩] Client.demoProject,
        fs'.lookup ["main.go"] = Client.demoProject.lookup ["main.go"] :=
  have hcreate : ∀ call ∈ [Call.mk Client.demoClient (.build "/srv/demo"),
      ⟨{ Client.demoClient with pusher := fun _ => .error (.error "unauthorized") }, .push "/srv/demo"⟩,
      ⟨Client.demoClient, .wait 1⟩, ⟨Client.demoClient, .deploy "/srv/demo"⟩], call.op.isCreate = false := by
    simp [Op.isCreate]
  have hp : ∀ call ∈ [Call.mk Client.demoClient (.build "/srv/demo"),
      ⟨{ Client.demoClient with pusher := fun _ => .error (.error "unauthorized") }, .push "/srv/demo"⟩,
      ⟨Client.demoClient, .wait 1⟩, ⟨Client.demoClient, .deploy "/srv/demo"⟩], ["main.go"] ∉ call.op.footprint := by
    simp [Op.footprint, buildPaths, descriptorPaths, FunctionFile, RunDataDir]
  ⟨hcreate, hp, lifecycle_writes_only_its_own_files String.mk (fun _ => "") _ _ hcreate hp⟩

end KnFunc
