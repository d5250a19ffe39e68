import KnFunc.Client.Client

/-!
# What a failed `Create` leaves behind

`Create` writes in two phases. It first makes the root and checks it: no
initialized function there (`hasInitializedFunction`), no contentious or
visible files (`assertEmptyRoot`). Then it scaffolds: `ensureRuntimeDir`
makes the run-data directory and writes `.gitignore`, the template writer
writes the template's files, and the descriptor is written.

**The law** (`create_fails_cleanly_until_scaffolding`): an initialized
project is never modified, `Create` fails on it with the directory as it was.
Each failure is paired with the check it came from and what it leaves:
making the root fails having changed nothing; a failed load, an initialized
function, a failed `assertEmptyRoot` and a failed `ensureRuntimeDir` leave
the directory with only the root made, `ensureRuntimeDir` failing only before
it has written anything, since the checks made sure that `.gitignore` is new.
A failure after `ensureRuntimeDir`, from the template writer or the
descriptor write, leaves what the template writer left on top of the
run-data directory and `.gitignore`; and, when the template writer keeps
`.gitignore`, a retried `Create` fails there and changes nothing.

A directory that holds a descriptor file is refused, and left as it was
(`create_refuses_existing_descriptor`), each kind of descriptor with its own
error: one that does not load with the load's error, an initialized one as
already initialized, and any other as a contentious file. So a `Create` that
succeeded is never followed by another that overwrites what it wrote.

**What it does not establish.** Nothing is rolled back: when the template
writer fails, the run-data directory and `.gitignore` stay, and a retried
`Create` fails on the contentious `.gitignore` (`failed_create_blocks_retry`).
-/

namespace KnFunc.Client

/-- Once `assertEmptyRoot` has passed, `ensureRuntimeDir` fails only at its
first step, having changed nothing. -/
theorem ensureRuntimeDir_error {fs fs' : FileSystem} {root : String} {e : Fault}
    (hempty : assertEmptyRoot fs root = .ok ()) (h : ensureRuntimeDir fs = (.error e, fs')) :
    fs' = fs := by
  rcases Act.bind_eq_error.mp h with h | ⟨_, fsd, hd, h⟩
  · exact (Act.update_eq_error.mp h).2
  obtain ⟨-, ⟨t, hrun⟩, hframe⟩ := FileSystem.mkdirAll_frame (Act.update_eq_ok.mp hd)
  have hfresh : fsd.lookup [".gitignore"] = none := by
    rw [hframe _ (by decide)]
    exact lookup_contentious hempty (by decide)
  have hroot := FileSystem.parent_isDir hrun (List.cons_ne_nil _ _)
  obtain ⟨_, hw⟩ := FileSystem.writeFile_new (.text gitignore) hfresh (by decide) (by simp) hroot
  rw [Act.update_of_ok hw] at h
  cases h

/-- The root `Create` scaffolds is `filepathAbs cwd cfg.root`: that is empty
only when the working directory is, so the fallback to it changes nothing. -/
@[simp] theorem createConfig_root (cwd : String) (cfg : Function) :
    (createConfig cwd cfg).root = filepathAbs cwd cfg.root := by
  have hroot : (if filepathAbs cwd cfg.root = "" then cwd else filepathAbs cwd cfg.root) =
      filepathAbs cwd cfg.root := by
    split_ifs with h
    · rw [h]
      exact String.ext_iff.mpr (Path.abs_eq_nil (congrArg String.data h))
    · rfl
  unfold createConfig
  dsimp only
  split <;> exact hroot

/-- **`Create`'s checks on an existing root**: a failed load, an initialized
function and a failed `assertEmptyRoot` each refuse the root with their own
error, changing nothing. -/
theorem create_refuses {c : Client} {cwd : String} {cfg : Function} {fs : FileSystem} {t : Int}
    (hroot : fs.lookup [] = some (.dir t)) :
    (∀ e, hasInitializedFunction fs (filepathAbs cwd cfg.root) = .error e →
      c.Create cwd cfg fs = (.error e, fs)) ∧
    (hasInitializedFunction fs (filepathAbs cwd cfg.root) = .ok true →
      c.Create cwd cfg fs = (.error (alreadyInitialized (filepathAbs cwd cfg.root)), fs)) ∧
    (hasInitializedFunction fs (filepathAbs cwd cfg.root) = .ok false → ∀ e,
      assertEmptyRoot fs (filepathAbs cwd cfg.root) = .error e → c.Create cwd cfg fs = (.error e, fs)) := by
  have hmk : Act.update (·.mkdirAll []) fs = (.ok (), fs) := Act.update_of_ok (FileSystem.mkdirAll_nil_of_dir hroot)
  refine ⟨fun e hinit => ?_, fun hinit => ?_, fun hinit e hempty => ?_⟩ <;> rw [Create, Act.bind_of_ok hmk]
  · rw [Act.bind_apply, Act.read_apply, hinit]
  · rw [Act.bind_of_ok (by rw [Act.read_apply, hinit])]
    rfl
  · rw [Act.bind_of_ok (by rw [Act.read_apply, hinit]), if_neg Bool.false_ne_true, pure_bind]
    exact Act.read_bind_eq_error.mpr (.inl ⟨by rwa [createConfig_root], rfl⟩)

/-- On a root holding an initialized function, `Create` fails at once and
changes nothing. -/
theorem create_of_initialized {c : Client} {cwd : String} {cfg : Function} {fs : FileSystem}
    (hinit : hasInitializedFunction fs (filepathAbs cwd cfg.root) = .ok true) :
    c.Create cwd cfg fs = (.error (alreadyInitialized (filepathAbs cwd cfg.root)), fs) := by
  obtain ⟨f, hf, -⟩ := hasInitializedFunction_eq_ok.mp hinit
  obtain ⟨t, hroot⟩ := root_of_newFunction hf
  exact (create_refuses hroot).2.1 hinit

/-- The template writer leaves `.gitignore` where it finds one. -/
def KeepsGitignore (c : Client) : Prop :=
  ∀ f fs, (fs.lookup [".gitignore"]).isSome → ((c.templates f fs).2.lookup [".gitignore"]).isSome

/-- A root holding a contentious file is refused, changing nothing: at the
load, as initialized, or at `assertEmptyRoot`. -/
theorem create_of_contentious {c : Client} {cwd : String} {cfg : Function} {fs : FileSystem} {n : String}
    (hn : n ∈ contentiousFiles) (hfile : (fs.lookup [n]).isSome) : ∃ e, c.Create cwd cfg fs = (.error e, fs) := by
  obtain ⟨e0, he0⟩ := Option.isSome_iff_exists.mp hfile
  obtain ⟨t, hroot⟩ := FileSystem.root_isDir he0 (List.cons_ne_nil _ _)
  obtain ⟨hload, hinit, hempty⟩ := @create_refuses c cwd cfg _ _ hroot
  rcases hb : hasInitializedFunction fs (filepathAbs cwd cfg.root) with e | _ | _
  · exact ⟨e, hload e hb⟩
  · exact ⟨_, hempty hb _ (assertEmptyRoot_of_contentious hn hfile _).2⟩
  · exact ⟨_, hinit hb⟩

theorem create_fails_cleanly_until_scaffolding (c : Client) (cwd : String) (cfg : Function)
    (fs : FileSystem) :
    (hasInitializedFunction fs (filepathAbs cwd cfg.root) = .ok true →
      c.Create cwd cfg fs = (.error (alreadyInitialized (filepathAbs cwd cfg.root)), fs)) ∧
    ∀ e fs', c.Create cwd cfg fs = (.error e, fs') →
      (fs.mkdirAll [] = .error e ∧ fs' = fs) ∨
      ∃ fs1, fs.mkdirAll [] = .ok fs1 ∧
        ((hasInitializedFunction fs1 (filepathAbs cwd cfg.root) = .error e ∧ fs' = fs1) ∨
        (hasInitializedFunction fs1 (filepathAbs cwd cfg.root) = .ok true ∧
          e = alreadyInitialized (filepathAbs cwd cfg.root) ∧ fs' = fs1) ∨
        (hasInitializedFunction fs1 (filepathAbs cwd cfg.root) = .ok false ∧
          assertEmptyRoot fs1 (filepathAbs cwd cfg.root) = .error e ∧ fs' = fs1) ∨
        (assertEmptyRoot fs1 (filepathAbs cwd cfg.root) = .ok () ∧ ensureRuntimeDir fs1 = (.error e, fs1) ∧
          fs' = fs1) ∨
        ∃ f fs2, assertEmptyRoot fs1 (filepathAbs cwd cfg.root) = .ok () ∧ ensureRuntimeDir fs1 = (.ok (), fs2) ∧
          fs' = (c.templates f fs2).2 ∧ (c.KeepsGitignore → ∃ e', c.Create cwd cfg fs' = (.error e', fs'))) := by
  refine ⟨create_of_initialized, fun e fs' hfail => ?_⟩
  rcases Act.bind_eq_error.mp hfail with h | ⟨_, fs1, h1, h⟩
  · exact .inl (Act.update_eq_error.mp h)
  refine .inr ⟨fs1, Act.update_eq_ok.mp h1, ?_⟩
  rcases Act.read_bind_eq_error.mp h with ⟨hload, rfl⟩ | ⟨b, hinit, h⟩
  · exact .inl ⟨hload, rfl⟩
  dsimp only at h
  cases b
  case true =>
    -- the root holds an initialized function
    obtain ⟨he, rfl⟩ := Prod.mk.inj h
    exact .inr (.inl ⟨hinit, (Except.error.inj he).symm, rfl⟩)
  rw [if_neg Bool.false_ne_true, pure_bind, createConfig_root] at h
  -- the contentious-files check
  rcases Act.read_bind_eq_error.mp h with ⟨hempty, rfl⟩ | ⟨_, hempty, h⟩
  · exact .inr (.inr (.inl ⟨hinit, hempty, rfl⟩))
  -- the scaffolding
  rcases Act.bind_eq_error.mp h with h | ⟨_, fs2, hrun, h⟩
  · obtain rfl := ensureRuntimeDir_error hempty h
    exact .inr (.inr (.inr (.inl ⟨hempty, h, rfl⟩)))
  -- after `ensureRuntimeDir`: what the template writer left, over `.gitignore`
  have hfs' : fs' = (c.templates (newFunctionWith (createConfig cwd cfg)) fs2).2 := by
    rcases Act.bind_eq_error.mp h with h | ⟨g, fs3, htemplates, h⟩
    · exact (congrArg Prod.snd h).symm
    rcases Act.read_bind_eq_error.mp h with ⟨h, -⟩ | ⟨_, -, h⟩
    · cases h
    exact (Act.update_eq_error.mp h).2.trans (congrArg Prod.snd htemplates).symm
  refine .inr (.inr (.inr (.inr ⟨_, fs2, hempty, hrun, hfs', fun hkeep => ?_⟩)))
  obtain ⟨_, _, -, hw⟩ := Act.bind_eq_ok.mp hrun
  have hgit : (fs2.lookup [".gitignore"]).isSome := by
    rw [(FileSystem.writeFile_frame (Act.update_eq_ok.mp hw)).2.1]
    rfl
  exact create_of_contentious (by decide) (hfs' ▸ hkeep _ _ hgit)

/-- **What a successful `Create` did**: made the root, found no initialized
function and no contentious files there, made the run-data directory, ran the
template writer, and wrote what it returned, stamped with the clock. -/
theorem create_eq_ok {c : Client} {cwd : String} {cfg : Function} {fs fs' : FileSystem} {u : Unit}
    (h : c.Create cwd cfg fs = (.ok u, fs')) :
    ∃ fs1 f fs2 g fs3, fs.mkdirAll [] = .ok fs1 ∧ ensureRuntimeDir fs1 = (.ok (), fs2) ∧
      c.templates f fs2 = (.ok g, fs3) ∧ ({ g with created := fs3.now } : Function).Write fs3 = (.ok u, fs') := by
  obtain ⟨_, fs1, h1, h⟩ := Act.bind_eq_ok.mp h
  obtain ⟨_, -, h⟩ := Act.read_bind_eq_ok.mp h
  dsimp only at h
  split at h
  · cases h
  rw [pure_bind] at h
  obtain ⟨_, -, h⟩ := Act.read_bind_eq_ok.mp h
  obtain ⟨_, fs2, h2, h⟩ := Act.bind_eq_ok.mp h
  obtain ⟨g, fs3, h3, h⟩ := Act.bind_eq_ok.mp h
  obtain ⟨_, hnow, h⟩ := Act.read_bind_eq_ok.mp h
  cases hnow
  exact ⟨fs1, _, fs2, g, fs3, Act.update_eq_ok.mp h1, h2, h3, h⟩

/-- A client whose template writer fails before writing anything. -/
def failingTemplatesClient : Client :=
  ⟨"quay.io/myuser", fun _ => .ok (), fun _ => .ok "sha256:abc", fun _ => .ok (),
    fun _ => .ok ⟨"8080"⟩, fun _ => .ok (), fun _ => Act.fail (.error "template writer failed")⟩

/-- An empty directory `/srv`, at clock 2. -/
def emptyDirectory : FileSystem where
  entries := [([], .dir 1)]
  now := 2
  nodup := by decide
  parent_dir := by decide
  valid_names := by decide

/-- A new Go function rooted at `/srv`. -/
def goConfig : Function := { Function.zero "" with runtime := "go" }

/-- The template writer fails: `Create` fails, leaving `.gitignore`, and
`Create` run again fails on it. -/
theorem failed_create_blocks_retry :
    (failingTemplatesClient.Create "/srv" goConfig emptyDirectory).1 =
        .error (.error "template writer failed") ∧
      ((failingTemplatesClient.Create "/srv" goConfig emptyDirectory).2.lookup [".gitignore"]).isSome ∧
      (failingTemplatesClient.Create "/srv" goConfig
          (failingTemplatesClient.Create "/srv" goConfig emptyDirectory).2).1 =
        .error (.error "The chosen directory '/srv' contains contentious files: [.gitignore].") := by
  decide

/-! ## A project with a descriptor -/

theorem create_refuses_existing_descriptor (c : Client) (cwd : String) (cfg : Function) (fs : FileSystem)
    (hfile : (fs.lookup [FunctionFile]).isSome) :
    (∀ e, newFunction fs (filepathAbs cwd cfg.root) = .error e → c.Create cwd cfg fs = (.error e, fs)) ∧
    (∀ f, newFunction fs (filepathAbs cwd cfg.root) = .ok f → f.Initialized = true →
      c.Create cwd cfg fs = (.error (alreadyInitialized (filepathAbs cwd cfg.root)), fs)) ∧
    (∀ f, newFunction fs (filepathAbs cwd cfg.root) = .ok f → f.Initialized = false →
      FunctionFile ∈ contentiousIn fs ∧
        c.Create cwd cfg fs = (.error (contentiousError (filepathAbs cwd cfg.root) (contentiousIn fs)), fs)) := by
  obtain ⟨e0, he0⟩ := Option.isSome_iff_exists.mp hfile
  obtain ⟨t, hroot⟩ := FileSystem.root_isDir he0 (List.cons_ne_nil _ _)
  obtain ⟨hload, hinit, hempty⟩ := @create_refuses c cwd cfg _ _ hroot
  obtain ⟨hmem, hcontentious⟩ := assertEmptyRoot_of_contentious (by decide) hfile (filepathAbs cwd cfg.root)
  exact ⟨fun e he => hload e (hasInitializedFunction_eq_error.mpr he),
    fun f hf hi => hinit (hasInitializedFunction_eq_ok.mpr ⟨f, hf, hi⟩),
    fun f hf hi => ⟨hmem, hempty (hasInitializedFunction_eq_ok.mpr ⟨f, hf, hi⟩) _ hcontentious⟩⟩

/-- What `Create` leaves in the empty `/srv` with a template writer that
writes nothing. -/
def createdDirectory : FileSystem :=
  ({ failingTemplatesClient with templates := fun f fs => (.ok f, fs) }.Create "/srv" goConfig emptyDirectory).2

/-- `Create` with a template writer that writes nothing succeeds on the empty
`/srv`, and the descriptor it wrote loads as initialized: a second `Create`
there is refused as already initialized, and changes nothing. -/
theorem second_create_refused_as_initialized :
    ({ failingTemplatesClient with templates := fun f fs => (.ok f, fs) }.Create "/srv" goConfig
        emptyDirectory).1 = .ok () ∧
      ∃ f, newFunction createdDirectory "/srv" = .ok f ∧ f.Initialized = true ∧
        failingTemplatesClient.Create "/srv" goConfig createdDirectory =
          (.error (alreadyInitialized "/srv"), createdDirectory) :=
  have hfile : (createdDirectory.lookup [FunctionFile]).isSome := by decide
  have hinit : hasInitializedFunction createdDirectory "/srv" = .ok true := by decide
  have ⟨f, hf, hi⟩ := hasInitializedFunction_eq_ok.mp hinit
  ⟨by decide, f, hf, hi,
    (create_refuses_existing_descriptor failingTemplatesClient "/srv" goConfig _ hfile).2.1 f hf hi⟩

end KnFunc.Client
