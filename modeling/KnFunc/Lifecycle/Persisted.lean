import KnFunc.Client.Staleness
import KnFunc.Cmd.Run
import KnFunc.Cmd.Volumes

/-!
# The persisted descriptor over a project's lifetime

Every lifecycle operation that persists the descriptor loads it first,
through the migrating loader, and writes back what it loaded with one field
of its own changed: the image (`Build`), the digest (`Push`), the
environment (`run --env`), the volumes (`config volumes add` and `remove`).
`Create` writes one only where there is none. So the version on disk only
moves up, and a creation stamp on disk stays.

**The law** (`persisted_descriptor_only_advances`): over any sequence of
`Create`, `Build`, `Push`, `Deploy`, `Run`, `RunPipeline`, the run command
and the volume commands, each served by a client of its own, with time
passing between them, whatever each of them returns, an earlier descriptor on disk and a later one are related by
`Advances`: once there is a descriptor there always is one, its version is
not below the earlier one in semantic-version order (an empty version read
as `0.0.0`), and a non-zero creation stamp is kept.

The proof is a small calculus over `Act`: `ForwardAt fs a` says that running
`a` from `fs` advances what is on disk. It is closed under sequencing, reads
and branches; a write is forward when it writes what was loaded from the
same directory (`advances_of_newFunction`), and writes elsewhere leave the
descriptor file alone (`DescriptorFrame`).

**What it does not establish.** Only the version and the creation stamp are
followed, and only the operations above act on the directory: an edit by hand
may put anything there. A descriptor file that does not decode reads as no
descriptor, and after none any descriptor may follow.
-/

namespace KnFunc

open Semver

/-! ## What may follow what on disk -/

/-- A version as `semver.New` reads it, an empty one as `0.0.0`. -/
def readVersion (v : String) : Option Version :=
  newVersion (if v = "" then DefaultVersion else v)

/-- The version `w` is not below `v`: the same string, or both read and `w`
not below `v`. -/
def VersionNotBelow (v w : String) : Prop :=
  v = w ∨ ∃ a b, readVersion v = some a ∧ readVersion w = some b ∧ ¬ b.lessThan a

/-- The version and creation stamp of the descriptor on disk, when there is
one that decodes. -/
def persisted (fs : FileSystem) : Option (String × Int) :=
  match fs.lookup [FunctionFile] with
  | some (.file _ (.yaml doc)) =>
    match decodeFunction "" doc with
    | .ok f => some (f.version, f.created)
    | .error _ => none
  | _ => none

/-- What may follow what on disk: anything after no descriptor; after a
descriptor, one whose version is not below it and which keeps its non-zero
creation stamp. -/
def Advances : Option (String × Int) → Option (String × Int) → Prop
  | none, _ => True
  | some _, none => False
  | some (v, t), some (v', t') => VersionNotBelow v v' ∧ (t ≠ 0 → t' = t)

theorem VersionNotBelow.refl (v : String) : VersionNotBelow v v := .inl rfl

theorem VersionNotBelow.trans {u v w : String} (huv : VersionNotBelow u v)
    (hvw : VersionNotBelow v w) : VersionNotBelow u w := by
  rcases huv with rfl | ⟨a, b, ha, hb, hba⟩
  · exact hvw
  rcases hvw with rfl | ⟨b', c, hb', hc, hcb⟩
  · exact .inr ⟨a, b, ha, hb, hba⟩
  rw [hb] at hb'
  cases hb'
  exact .inr ⟨a, c, ha, hc, not_lessThan_trans hba hcb⟩

theorem Advances.refl : ∀ p, Advances p p
  | none => trivial
  | some (v, _) => ⟨.refl v, fun _ => rfl⟩

theorem Advances.trans : ∀ {p q r}, Advances p q → Advances q r → Advances p r
  | none, _, _, _, _ => trivial
  | some _, none, _, h, _ => h.elim
  | some _, some _, none, _, h => h.elim
  | some _, some _, some _, ⟨hv, ht⟩, ⟨hv', ht'⟩ =>
    ⟨hv.trans hv', fun h0 => (ht' (by rw [ht h0]; exact h0)).trans (ht h0)⟩

/-! ## Loading and writing -/

theorem lookup_of_readDescriptorDoc {fs : FileSystem} {doc : Yaml} (h : readDescriptorDoc fs = .ok doc) :
    ∃ t, fs.lookup [FunctionFile] = some (.file t (.yaml doc)) := by
  unfold readDescriptorDoc FileSystem.readFile at h
  rcases hl : fs.lookup [FunctionFile] with _ | ⟨t, _ | doc'⟩ | t <;> simp [hl] at h
  cases h
  exact ⟨t, rfl⟩

theorem readVersion_of_semverNew {v : String} {a : Version} (hne : v ≠ "") (h : semverNew v = .ok a) :
    readVersion v = some a := by
  rw [readVersion, if_neg hne]
  exact semverNew_eq_ok.mp h

/-- **A load advances what is on disk**: what `NewFunction` returns has a
version not below the one on disk, and keeps its creation stamp. -/
theorem advances_of_newFunction {fs : FileSystem} {root : String} {f : Function}
    (h : newFunction fs root = .ok f) : Advances (persisted fs) (some (f.version, f.created)) := by
  rcases (newFunction_eq_ok h).2 with ⟨hnone, -⟩ | ⟨doc, f0, hdoc, hf0, hmigrate⟩
  · simp [persisted, hnone, Advances]
  obtain ⟨t, hfile⟩ := lookup_of_readDescriptorDoc hdoc
  obtain ⟨g, hg, rfl⟩ := decodeFunction_eq_ok hf0
  have hpersisted : persisted fs = some (g.version, g.created) := by simp [persisted, hfile, hg]
  rw [hpersisted]
  obtain ⟨v0, hv0⟩ := migrate_ok_parses hmigrate
  obtain ⟨w, hw, hnot⟩ := migrate_not_below hv0 hmigrate
  have hfne : f.version ≠ "" := fun he => by rw [he] at hw; cases hw
  refine ⟨.inr ⟨v0, w, ?_, readVersion_of_semverNew hfne hw, hnot⟩, (migrate_keeps hmigrate).created⟩
  rw [readVersion, ← semverNew_eq_ok, ← hv0, Function.withDefaultVersion]
  split_ifs <;> rfl

theorem persisted_write {g : Function} {fs fs' : FileSystem} {u : Unit} (h : g.Write fs = (.ok u, fs')) :
    persisted fs' = some (g.version, g.created) := by
  simp [persisted, (FileSystem.writeFile_frame (Act.update_eq_ok.mp h)).2.1,
    decodeFunction_encodeFunction]

/-! ## Forward calls -/

section Forward

variable {α β : Type}

/-- Running `a` from `fs` advances what is on disk, whatever its outcome. -/
def ForwardAt (fs : FileSystem) (a : Act FileSystem α) : Prop :=
  Advances (persisted fs) (persisted (a fs).2)

/-- Running `a` advances what is on disk, from every directory. -/
def Forward (a : Act FileSystem α) : Prop := ∀ fs, ForwardAt fs a

theorem forwardAt_of_none {fs : FileSystem} {a : Act FileSystem α} (h : persisted fs = none) :
    ForwardAt fs a := by
  unfold ForwardAt
  rw [h]
  trivial

theorem forwardAt_of_persisted {fs : FileSystem} {a : Act FileSystem α}
    (h : persisted (a fs).2 = persisted fs) : ForwardAt fs a := by
  unfold ForwardAt
  rw [h]
  exact Advances.refl _

theorem forward_of_readOnly {a : Act FileSystem α} (h : Act.ReadOnly a) : Forward a :=
  fun fs => forwardAt_of_persisted (by rw [h fs])

theorem ForwardAt.bind {fs : FileSystem} {x : Act FileSystem α} {k : α → Act FileSystem β}
    (hx : ForwardAt fs x) (hk : ∀ v s', x fs = (.ok v, s') → ForwardAt s' (k v)) :
    ForwardAt fs (x >>= k) := by
  unfold ForwardAt at *
  rw [Act.bind_apply]
  rcases h : x fs with ⟨_ | v, s'⟩ <;> rw [h] at hx
  · exact hx
  · exact hx.trans (hk v s' h)

theorem Forward.bind {x : Act FileSystem α} {k : α → Act FileSystem β} (hx : Forward x)
    (hk : ∀ v, Forward (k v)) : Forward (x >>= k) :=
  fun fs => (hx fs).bind fun v s' _ => hk v s'

theorem forwardAt_read_bind {fs : FileSystem} {g : FileSystem → Except Fault α} {k : α → Act FileSystem β}
    (hk : ∀ v, g fs = .ok v → ForwardAt fs (k v)) : ForwardAt fs (Act.read g >>= k) :=
  (forward_of_readOnly (Act.readOnly_read g) fs).bind fun v _ h => by
    obtain ⟨hg, rfl⟩ := Act.read_eq h
    exact hk v hg

theorem forwardAt_fail_bind {fs : FileSystem} {e : Fault} {k : α → Act FileSystem β} :
    ForwardAt fs (Act.fail e >>= k) :=
  forwardAt_of_persisted rfl

theorem ForwardAt.ite {fs : FileSystem} {c : Prop} [Decidable c] {a b : Act FileSystem α}
    (ha : ForwardAt fs a) (hb : ForwardAt fs b) : ForwardAt fs (if c then a else b) := by
  split <;> assumption

/-- **Writing what was loaded is forward**, when it carries the loaded
version and creation stamp. -/
theorem forwardAt_write {fs : FileSystem} {g : Function}
    (h : Advances (persisted fs) (some (g.version, g.created))) : ForwardAt fs g.Write := by
  unfold ForwardAt
  rcases hw : g.Write fs with ⟨_ | u, fs'⟩
  · rw [(Act.update_eq_error.mp hw).2]
    exact Advances.refl _
  · rw [persisted_write hw]
    exact h

/-- A call that leaves the descriptor file alone. -/
def DescriptorFrame (a : Act FileSystem α) : Prop :=
  ∀ fs, (a fs).2.lookup [FunctionFile] = fs.lookup [FunctionFile]

theorem DescriptorFrame.forward {a : Act FileSystem α} (h : DescriptorFrame a) : Forward a :=
  fun fs => forwardAt_of_persisted (by unfold persisted; rw [h fs])

theorem DescriptorFrame.bind {x : Act FileSystem α} {k : α → Act FileSystem β}
    (hx : DescriptorFrame x) (hk : ∀ v, DescriptorFrame (k v)) : DescriptorFrame (x >>= k) := by
  intro fs
  rw [Act.bind_apply]
  rcases h : x fs with ⟨_ | v, s'⟩ <;> have hx := hx fs <;> rw [h] at hx
  · exact hx
  · exact (hk v s').trans hx

theorem descriptorFrame_read (g : FileSystem → Except Fault α) : DescriptorFrame (Act.read g) :=
  fun _ => rfl

theorem descriptorFrame_writeFile {p : RelPath} (c : Content) (hp : p ≠ [FunctionFile])
    (hparent : p.dropLast ≠ [FunctionFile]) : DescriptorFrame (Act.update (·.writeFile p c)) := by
  intro fs
  cases hw : fs.writeFile p c with
  | error e => rw [Act.update_of_error hw]
  | ok fs' =>
    rw [Act.update_of_ok hw, (FileSystem.writeFile_frame hw).2.2 _ hp.symm]
    simp [hparent.symm]

theorem descriptorFrame_mkdirAll {p : RelPath} (hp : ¬ [FunctionFile] <+: p) :
    DescriptorFrame (Act.update (·.mkdirAll p)) := by
  intro fs
  cases hm : fs.mkdirAll p with
  | error e => rw [Act.update_of_error hm]
  | ok fs' => rw [Act.update_of_ok hm, (FileSystem.mkdirAll_frame hm).2.2 _ hp]

end Forward

/-! ## The operations -/

namespace Client

variable (sha256 : List Char → String) (c : Client)

theorem ensureRuntimeDir_frame : DescriptorFrame ensureRuntimeDir :=
  (descriptorFrame_mkdirAll (by decide)).bind fun _ =>
    descriptorFrame_writeFile _ (by decide) (by decide)

theorem updateBuildStamp_frame (f : Function) : DescriptorFrame (updateBuildStamp sha256 f) :=
  ensureRuntimeDir_frame.bind fun _ => (descriptorFrame_read _).bind fun _ =>
    descriptorFrame_writeFile _ (by decide) (by decide)

theorem forward_build (path : String) : Forward (c.Build sha256 path) := by
  intro fs
  refine forwardAt_read_bind fun f hf => forwardAt_read_bind fun image _ =>
    forwardAt_read_bind fun _ _ => ?_
  exact (forwardAt_write (g := { f with image := image }) (advances_of_newFunction (f := f) hf)).bind
    fun _ _ _ => DescriptorFrame.forward (updateBuildStamp_frame sha256 _) _

theorem forward_push (path : String) : Forward (c.Push path) := by
  intro fs
  refine forwardAt_read_bind fun f hf => ?_
  dsimp only
  refine ForwardAt.ite forwardAt_fail_bind
    (forwardAt_read_bind fun _ _ => forwardAt_read_bind fun d _ => ?_)
  exact forwardAt_write (g := { f with imageDigest := d }) (advances_of_newFunction (f := f) hf)

theorem forward_create (cwd : String) (cfg : Function) : Forward (c.Create cwd cfg) := by
  intro fs
  refine (DescriptorFrame.forward (descriptorFrame_mkdirAll (by decide)) fs).bind fun _ _ _ =>
    forwardAt_read_bind fun _ _ => ?_
  dsimp only
  refine ForwardAt.ite forwardAt_fail_bind
    (forwardAt_read_bind fun _ _ => forwardAt_read_bind fun _ hempty => forwardAt_of_none ?_)
  simp [persisted, lookup_contentious hempty (show FunctionFile ∈ contentiousFiles by decide)]

end Client

theorem forward_buildIfRequested (sha256 : List Char → String) (client : Client) (config : RunConfig)
    (root : String) : Forward (buildIfRequested sha256 client config root) := by
  intro fs
  unfold buildIfRequested
  split
  · exact forwardAt_read_bind fun _ _ =>
      ForwardAt.ite (Client.forward_build sha256 client _ fs) (forward_of_readOnly (Act.readOnly_pure _) fs)
  · split
    · exact forwardAt_of_persisted rfl
    · exact Client.forward_build sha256 client _ fs
    · exact forward_of_readOnly (Act.readOnly_pure _) fs

theorem forward_runRun (sha256 : List Char → String) (c : Client) (config : RunConfig) :
    Forward (runRun sha256 c config) := by
  intro fs
  refine forwardAt_read_bind fun f hf => ?_
  dsimp only
  have hrest : ∀ s, ForwardAt s (buildIfRequested sha256 { c with registry := config.registry } config
      f.root >>= fun _ => Client.Run { c with registry := config.registry } config.path) := fun s =>
    ((forward_buildIfRequested sha256 _ config f.root).bind fun _ =>
      forward_of_readOnly (Client.run_readOnly _ _)) s
  -- the one write of the descriptor: what was loaded, with the merged environment
  refine ForwardAt.ite ((forwardAt_write (g := { f with run.envs :=
    (mergeEnvs f.run.envs config.envToUpdate config.envToRemove).1 })
      (advances_of_newFunction (f := f) hf)).bind fun _ s _ => ?_) ?_
  · exact ForwardAt.ite forwardAt_fail_bind (hrest s)
  · exact ForwardAt.ite forwardAt_fail_bind (hrest fs)

theorem forward_configVolumesAdd (path : String) (input : AddVolumeInput) :
    Forward (configVolumesAdd path input) := by
  intro fs
  refine forwardAt_read_bind fun f hf => ?_
  have hload := advances_of_newFunction (f := f) (newFunction_of_initConfigCommand hf)
  unfold runAddVolumesPrompt
  split
  · exact forwardAt_of_persisted rfl
  · exact forwardAt_of_persisted rfl
  · rename_i v _
    exact forwardAt_write (g := { f with run.volumes := f.run.volumes ++ [v] }) hload

theorem forward_configVolumesRemove (volumeString : Volume → String) (path : String)
    (selection : Except Fault (Option String)) :
    Forward (configVolumesRemove volumeString path selection) := by
  intro fs
  refine forwardAt_read_bind fun f hf => ?_
  have hload := advances_of_newFunction (f := f) (newFunction_of_initConfigCommand hf)
  unfold runRemoveVolumesPrompt
  split
  · exact forwardAt_of_persisted rfl
  split
  · exact forwardAt_of_persisted rfl
  · exact forwardAt_of_persisted rfl
  split
  · rename_i i _
    exact forwardAt_write (g := { f with run.volumes := f.run.volumes.eraseIdx i }) hload
  · exact forwardAt_of_persisted rfl

/-! ## A project's lifetime -/

/-- A lifecycle operation, with its arguments; `wait` lets time pass. -/
inductive Op where
  | create (cwd : String) (cfg : Function)
  | build (path : String)
  | push (path : String)
  | deploy (path : String)
  | run (root : String)
  | runPipeline (path : String) (git : Option Yaml)
  | runCommand (config : RunConfig)
  | volumesAdd (path : String) (input : AddVolumeInput)
  | volumesRemove (path : String) (selection : Except Fault (Option String))
  | wait (dt : Nat)

/-- The directory an operation leaves, whatever it returns. -/
def Op.exec (sha256 : List Char → String) (c : Client) (volumeString : Volume → String) :
    Op → FileSystem → FileSystem
  | .create cwd cfg, fs => (c.Create cwd cfg fs).2
  | .build path, fs => (c.Build sha256 path fs).2
  | .push path, fs => (c.Push path fs).2
  | .deploy path, fs => (c.Deploy path fs).2
  | .run root, fs => (c.Run root fs).2
  | .runPipeline path git, fs => (c.RunPipeline path git fs).2
  | .runCommand config, fs => (runRun sha256 c config fs).2
  | .volumesAdd path input, fs => (configVolumesAdd path input fs).2
  | .volumesRemove path selection, fs => (configVolumesRemove volumeString path selection fs).2
  | .wait dt, fs => fs.advance dt

/-- An operation, and the client whose collaborators serve it: from one call
to the next the builder, pusher, deployer, runner and template writer may
answer differently. -/
structure Call where
  client : Client
  op : Op

/-- The directories a sequence of calls passes through, the first one
included. -/
def Call.trace (sha256 : List Char → String) (volumeString : Volume → String) (calls : List Call)
    (fs : FileSystem) : List FileSystem :=
  calls.scanl (fun fs call => call.op.exec sha256 call.client volumeString fs) fs

/-- **What every allowed step keeps holds along a run**: if each operation
that `P` allows keeps `I`, with any client, every directory a run of such
calls passes through satisfies `I`, when the first one does. -/
theorem Call.trace_invariant (sha256 : List Char → String) (volumeString : Volume → String)
    {P : Op → Prop} {I : FileSystem → Prop}
    (hstep : ∀ c op, P op → ∀ fs, I fs → I (op.exec sha256 c volumeString fs)) :
    ∀ (calls : List Call) (fs : FileSystem), (∀ call ∈ calls, P call.op) → I fs →
      ∀ fs' ∈ Call.trace sha256 volumeString calls fs, I fs'
  | [], fs, _, hfs, fs', h => by
    simp only [Call.trace, List.scanl_nil, List.mem_singleton] at h
    exact h ▸ hfs
  | call :: calls, fs, hcalls, hfs, fs', h => by
    simp only [Call.trace, List.scanl_cons, List.singleton_append, List.mem_cons] at h
    rcases h with rfl | h
    · exact hfs
    · exact Call.trace_invariant sha256 volumeString hstep calls _ (fun o ho => hcalls o (.tail _ ho))
        (hstep call.client call.op (hcalls call (.head _)) fs hfs) fs' h

/-- **One operation advances what is on disk.** -/
theorem advances_exec (sha256 : List Char → String) (c : Client) (volumeString : Volume → String)
    (op : Op) (fs : FileSystem) :
    Advances (persisted fs) (persisted (op.exec sha256 c volumeString fs)) := by
  cases op with
  | create cwd cfg => exact Client.forward_create c cwd cfg fs
  | build path => exact Client.forward_build sha256 c path fs
  | push path => exact Client.forward_push c path fs
  | deploy path => exact forward_of_readOnly (Client.deploy_readOnly c path) fs
  | run root => exact forward_of_readOnly (Client.run_readOnly c root) fs
  | runPipeline path git => exact forward_of_readOnly (Client.runPipeline_readOnly c path git) fs
  | runCommand config => exact forward_runRun sha256 c config fs
  | volumesAdd path input => exact forward_configVolumesAdd path input fs
  | volumesRemove path selection => exact forward_configVolumesRemove volumeString path selection fs
  | wait dt => exact forwardAt_of_persisted (a := (pure () : Act FileSystem Unit)) rfl

theorem persisted_descriptor_only_advances (sha256 : List Char → String) (volumeString : Volume → String)
    (calls : List Call) (fs : FileSystem) :
    ((Call.trace sha256 volumeString calls fs).map persisted).Pairwise Advances := by
  induction calls generalizing fs with
  | nil => simp [Call.trace]
  | cons call calls ih =>
    rw [Call.trace, List.scanl_cons, List.singleton_append, List.map_cons, List.pairwise_cons]
    refine ⟨?_, ih _⟩
    -- every later directory is ahead of this one, one step at a time
    intro p hp
    obtain ⟨fs', hfs', rfl⟩ := List.mem_map.mp hp
    exact Call.trace_invariant sha256 volumeString (P := fun _ => True)
      (I := fun s => Advances (persisted fs) (persisted s))
      (fun c op _ s hs => hs.trans (advances_exec sha256 c volumeString op s)) calls _ (fun _ _ => trivial)
      (advances_exec sha256 call.client volumeString call.op fs) fs' hfs'

end KnFunc
