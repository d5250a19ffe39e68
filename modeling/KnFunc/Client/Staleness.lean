import KnFunc.Client.Client
import KnFunc.Staleness.Injective

/-!
# What the build stamp certifies

`Built` reads three things: the descriptor, which must load with an image; the
build stamp in the run-data directory; and the fingerprint of the directory
now. It holds when the stamp is that fingerprint (`built_eq_true_iff`). The
stamp lives in the run-data directory, which the walk skips, so writing it
does not change what it certifies (`built_after_stamp`).

**The laws.**
- `built_tracks_walk_after_build` (**staleness**): right after a successful
  `Build` whose descriptor keeps its image, `Built` holds; from then on, for a
  digest without collisions and a root that does not clean to `.`, it holds
  exactly while the walk sees the paths and modification times it saw when
  the stamp was taken, so long as the stamp is left alone and the descriptor
  still loads with an image.
- `later_stages_keep_built_while_descriptor_time_stands`: `Deploy`, `Run` and
  `RunPipeline` only read the directory; a successful `Push` rewrites the
  descriptor file, stamped with the clock. `Built` survives it when the
  descriptor already carried that time, and is lost when it did not: for a
  digest without collisions and a root that does not clean to `.` and is not
  itself named `.func` or `.git`, the walk sees the new time
  (`built_false_of_later_descriptor`).

**What it does not establish.** The stamp is part of what `Built` reads, and
the walk does not see it: deleting it is not a change to the walked tree,
yet the function no longer reads as built (`built_lost_with_stamp`). Below a
root that cleans to `.`, two different trees may have one fingerprint
(`Staleness.fingerprint_collides_below_dot`). The walk prints the root as
spelled, so a stamp recorded under `/srv/demo` is not accepted under `demo`,
the same directory seen from `/srv`
(`Staleness.fingerprint_depends_on_spelling`).
-/

namespace KnFunc.Client

open Staleness

variable {sha256 : List Char → String}

/-! ## `Built` -/

/-- **What `Built` checks**: the descriptor loads with an image, and the stamp
is a file holding the fingerprint of the directory now. -/
theorem built_eq_true_iff {path : String} {fs : FileSystem} :
    Built sha256 path fs = true ↔ ∃ g hash t, newFunction fs path = .ok g ∧ g.HasImage = true ∧
      fingerprint sha256 fs path = .ok hash ∧
      fs.lookup [RunDataDir, buildstamp] = some (.file t (.text hash)) := by
  -- squeezed, and without exists_const: under all of Mathlib a plain simp
  -- spends its time in failed searches for Nonempty Function
  cases hload : newFunction fs path with
  | error e => simp only [Built, hload, Bool.false_eq_true, reduceCtorEq, false_and, exists_false]
  | ok g =>
    simp only [Built, hload, newFunction_root hload, FileSystem.stat, FileSystem.readFile,
      Except.ok.injEq, exists_and_left, exists_eq_left']
    cases himage : g.HasImage
    · simp only [Bool.not_false, ↓reduceIte, Bool.false_eq_true, false_and]
    · rcases fs.lookup [RunDataDir, buildstamp] with _ | ⟨t, b | doc⟩ | t <;>
        cases fingerprint sha256 fs path <;>
        simp only [Bool.not_true, Bool.false_eq_true, ↓reduceIte, beq_iff_eq, Except.ok.injEq, reduceCtorEq,
          Option.some.injEq, Entry.file.injEq, Content.text.injEq, and_false, false_and,
          exists_false, exists_and_left, exists_and_right, exists_eq', exists_eq_left', true_and]

/-- **Right after the stamp is written**, `Built` holds exactly when the
descriptor loads with an image and the stamp is the fingerprint the directory
had before the write. -/
theorem built_after_stamp {path hash : String} {fs fs' : FileSystem}
    (hw : fs.writeFile [RunDataDir, buildstamp] (.text hash) = .ok fs') :
    Built sha256 path fs' = true ↔ (∃ g, newFunction fs' path = .ok g ∧ g.HasImage = true) ∧
      fingerprint sha256 fs path = .ok hash := by
  have hfp : fingerprint sha256 fs' path = fingerprint sha256 fs path := by
    simp only [fingerprint, walk_writeFile_stamp path hw]
  rw [built_eq_true_iff, hfp, (FileSystem.writeFile_frame hw).2.1]
  constructor
  · rintro ⟨g, _, _, hg, himage, hf, ⟨⟩⟩
    exact ⟨⟨g, hg, himage⟩, hf⟩
  · rintro ⟨⟨g, hg, himage⟩, hf⟩
    exact ⟨g, hash, fs.now, hg, himage, hf, rfl⟩

/-! ## `Build` -/

/-- What `ensureRuntimeDir` did when it succeeded. -/
theorem ensureRuntimeDir_eq_ok {fs fs' : FileSystem} {u : Unit}
    (h : ensureRuntimeDir fs = (.ok u, fs')) :
    ∃ fsd, fs.mkdirAll [RunDataDir] = .ok fsd ∧
      fsd.writeFile [".gitignore"] (.text gitignore) = .ok fs' := by
  obtain ⟨_, fsd, hd, hw⟩ := Act.bind_eq_ok.mp h
  exact ⟨fsd, Act.update_eq_ok.mp hd, Act.update_eq_ok.mp hw⟩

/-- What `updateBuildStamp` did when it succeeded: made the run-data
directory, took the fingerprint, and wrote it to the stamp. -/
theorem updateBuildStamp_eq_ok {f : Function} {fs fs' : FileSystem} {u : Unit}
    (h : updateBuildStamp sha256 f fs = (.ok u, fs')) :
    ∃ fsm hash, ensureRuntimeDir fs = (.ok (), fsm) ∧ fingerprint sha256 fsm f.root = .ok hash ∧
      fsm.writeFile [RunDataDir, buildstamp] (.text hash) = .ok fs' := by
  obtain ⟨_, fsm, hd, h⟩ := Act.bind_eq_ok.mp h
  obtain ⟨hash, hfp, hw⟩ := Act.read_bind_eq_ok.mp h
  exact ⟨fsm, hash, hd, hfp, Act.update_eq_ok.mp hw⟩

/-- What a successful `Build` did: loaded `f`, derived its image, built,
persisted, and stamped. -/
theorem build_eq_ok {c : Client} {path : String} {fs0 fs1 : FileSystem} {u : Unit}
    (h : c.Build sha256 path fs0 = (.ok u, fs1)) :
    ∃ f image fsw, newFunction fs0 path = .ok f ∧ derivedImage fs0 path c.registry = .ok image ∧
      c.builder { f with image := image } = .ok () ∧
      ({ f with image := image } : Function).Write fs0 = (.ok (), fsw) ∧
      updateBuildStamp sha256 { f with image := image } fsw = (.ok u, fs1) := by
  obtain ⟨f, hf, h⟩ := Act.read_bind_eq_ok.mp h
  obtain ⟨image, hi, h⟩ := Act.read_bind_eq_ok.mp h
  obtain ⟨_, hb, h⟩ := Act.read_bind_eq_ok.mp h
  obtain ⟨_, fsw, hw, hs⟩ := Act.bind_eq_ok.mp h
  exact ⟨f, image, fsw, hf, hi, hb, hw, hs⟩

/-- **What a successful build leaves**: the descriptor it loaded, with the
image it derived, in the descriptor file; the client's `.gitignore`; and the
stamp, holding the fingerprint of the directory it leaves. All three carry the
clock's time, which the build did not move. -/
theorem build_leaves {c : Client} {path : String} {fs fs' : FileSystem}
    (h : c.Build sha256 path fs = (.ok (), fs')) :
    ∃ f image hash, newFunction fs path = .ok f ∧ derivedImage fs path c.registry = .ok image ∧
      c.builder { f with image := image } = .ok () ∧ fs'.now = fs.now ∧
      fs'.lookup [FunctionFile] = some (.file fs'.now (.yaml (encodeFunction { f with image := image }))) ∧
      fs'.lookup [".gitignore"] = some (.file fs'.now (.text gitignore)) ∧
      fs'.lookup [RunDataDir, buildstamp] = some (.file fs'.now (.text hash)) ∧
      fingerprint sha256 fs' f.root = .ok hash := by
  obtain ⟨f, image, fsw, hf, hi, hbuilder, hw, hstamp⟩ := build_eq_ok h
  obtain ⟨fsm, hash, hd, hfp, hs⟩ := updateBuildStamp_eq_ok hstamp
  obtain ⟨fsd, hmk, hg⟩ := ensureRuntimeDir_eq_ok hd
  have hwrite := FileSystem.writeFile_frame (Act.update_eq_ok.mp hw)
  have hmkdir := FileSystem.mkdirAll_frame hmk
  have hgit := FileSystem.writeFile_frame hg
  have hst := FileSystem.writeFile_frame hs
  have hnow : fs'.now = fs.now := by rw [hst.1, hgit.1, hmkdir.1, hwrite.1]
  refine ⟨f, image, hash, hf, hi, hbuilder, hnow, ?_, ?_, by rw [hst.2.1, hst.1], ?_⟩
  · rw [hst.2.2 [FunctionFile] (by decide), hgit.2.2 [FunctionFile] (by decide),
      hmkdir.2.2 [FunctionFile] (by decide), hwrite.2.1, hnow]
    simp [FunctionFile, RunDataDir]
  · rw [hst.2.2 [".gitignore"] (by decide), hgit.2.1, hst.1, hgit.1]
    simp [RunDataDir]
  · rw [fingerprint, walk_writeFile_stamp _ hs]
    exact hfp

theorem built_tracks_walk_after_build {c : Client} {path : String} {fs0 fs1 : FileSystem}
    (hbuild : c.Build sha256 path fs0 = (.ok (), fs1))
    (himage : ∃ g, newFunction fs1 path = .ok g ∧ g.HasImage = true) :
    Built sha256 path fs1 = true ∧
      ∀ fs2 : FileSystem, fs2.lookup [RunDataDir, buildstamp] = fs1.lookup [RunDataDir, buildstamp] →
        (∃ g, newFunction fs2 path = .ok g ∧ g.HasImage = true) →
        Function.Injective sha256 → Path.clean path.data ≠ ['.'] →
        (Built sha256 path fs2 = true ↔ (records <$> walk fs2 path) = (records <$> walk fs1 path)) := by
  obtain ⟨f, image, fsw, hf, -, -, -, hstamp⟩ := build_eq_ok hbuild
  obtain ⟨fsm, hash, -, hfp, hw⟩ := updateBuildStamp_eq_ok hstamp
  have hroot : f.root = path := newFunction_root hf
  rw [show ({ f with image := image } : Function).root = path from hroot] at hfp
  have hbuilt := (built_after_stamp hw).mpr ⟨himage, hfp⟩
  refine ⟨hbuilt, fun fs2 hsame hload hinj hroot => ?_⟩
  obtain ⟨-, hash1, t1, -, -, hfp1, hstamp1⟩ := built_eq_true_iff.mp hbuilt
  rw [built_eq_true_iff, ← fingerprint_eq_iff hinj hroot, hfp1]
  constructor
  · rintro ⟨g, hash2, t2, -, -, hfp2, hstamp2⟩
    rw [hsame, hstamp1] at hstamp2
    cases hstamp2
    exact hfp2
  · intro hfp2
    obtain ⟨g, hg, himage⟩ := hload
    exact ⟨g, hash1, t1, hg, himage, hfp2, hsame.trans hstamp1⟩

/-- The descriptor of the project below: a migrated function `demo`. -/
def demoFunction : Function :=
  { Function.zero "" with name := "demo", runtime := "go", created := 1, version := "1.0.0" }

/-- A project with a descriptor and one source file, both written at 1; the
clock reads 2. -/
def demoProject : FileSystem where
  entries := [([], .dir 1), ([FunctionFile], .file 1 (.yaml (encodeFunction demoFunction))),
    (["main.go"], .file 1 (.text "package main"))]
  now := 2
  nodup := by decide
  parent_dir := by decide
  valid_names := by decide

/-- A client whose collaborators all succeed and whose template writer writes
nothing. -/
def demoClient : Client :=
  ⟨"quay.io/myuser", fun _ => .ok (), fun _ => .ok "sha256:abc", fun _ => .ok (),
    fun _ => .ok ⟨"8080"⟩, fun _ => .ok (), fun f fs => (.ok f, fs)⟩

/-- The project after `demoClient` built it at `/srv/demo`, the digest being
the hashed text itself. -/
def builtProject : FileSystem := (demoClient.Build String.mk "/srv/demo" demoProject).2

/-- The descriptor `Build` persisted, loaded back. -/
def builtFunction : Function :=
  { demoFunction with root := "/srv/demo", image := "quay.io/myuser/demo:latest" }

theorem demo_build_is_built :
    (demoClient.Build String.mk "/srv/demo" demoProject).1 = .ok () ∧
      Built String.mk "/srv/demo" builtProject = true :=
  have hbuild : demoClient.Build String.mk "/srv/demo" demoProject = (.ok (), builtProject) :=
    Prod.ext (by decide) rfl
  ⟨congrArg Prod.fst hbuild,
    (built_tracks_walk_after_build hbuild ⟨builtFunction, by decide, rfl⟩).1⟩

/-- Deleting the build stamp after the build: the walk sees no change, yet
the function no longer reads as built. -/
theorem built_lost_with_stamp :
    Built String.mk "/srv/demo" builtProject = true ∧
      ((fun fs => (records <$> walk fs "/srv/demo", Built String.mk "/srv/demo" fs)) <$>
        builtProject.removeFile [RunDataDir, buildstamp]) =
        .ok (records <$> walk builtProject "/srv/demo", false) := by
  decide

/-! ## The stages after the build -/

theorem deploy_readOnly (c : Client) (path : String) : Act.ReadOnly (c.Deploy path) :=
  (Act.readOnly_read _).bind fun _ =>
    Act.ReadOnly.ite ((Act.readOnly_fail _).bind fun _ => Act.readOnly_read _)
      ((Act.readOnly_pure _).bind fun _ => Act.readOnly_read _)

theorem run_readOnly (c : Client) (root : String) : Act.ReadOnly (c.Run root) :=
  (Act.readOnly_read _).bind fun _ =>
    Act.ReadOnly.ite ((Act.readOnly_fail _).bind fun _ => Act.readOnly_read _)
      ((Act.readOnly_pure _).bind fun _ => Act.readOnly_read _)

theorem runPipeline_readOnly (c : Client) (path : String) (git : Option Yaml) :
    Act.ReadOnly (c.RunPipeline path git) :=
  (Act.readOnly_read _).bind fun _ => Act.readOnly_read _

/-- What a successful `Push` did: loaded a descriptor with an image, pushed
it, and rewrote the descriptor file with the digest. -/
theorem push_eq_ok {c : Client} {path : String} {fs fs' : FileSystem} {u : Unit}
    (h : c.Push path fs = (.ok u, fs')) :
    ∃ f d, newFunction fs path = .ok f ∧ f.HasImage = true ∧ c.pusher f = .ok d ∧
      ({ f with imageDigest := d } : Function).Write fs = (.ok u, fs') := by
  obtain ⟨f, hf, h⟩ := Act.read_bind_eq_ok.mp h
  dsimp only at h
  split at h
  · cases h
  · rename_i himage
    rw [pure_bind] at h
    obtain ⟨d, hd, hw⟩ := Act.read_bind_eq_ok.mp h
    exact ⟨f, d, hf, by simpa using himage, hd, hw⟩

/-- **Rewriting the descriptor file at a later time makes the function
stale**: the walk reads the descriptor's modification time, the stamp keeps the
fingerprint it held, and with a digest without collisions two walks that differ
in a time have different fingerprints. The walk sees the descriptor file
unless the root is itself a directory it skips. -/
theorem built_false_of_later_descriptor (hinj : Function.Injective sha256) {path : String}
    (hclean : Path.clean path.data ≠ ['.']) (hname : Path.baseName path.data ∉ [RunDataDir.data, ".git".data])
    {fs fs' : FileSystem}
    (hbuilt : Built sha256 path fs = true) (hlater : (fs.lookup [FunctionFile]).map Entry.modTime ≠ some fs.now)
    {c : Content} (hfile : fs'.lookup [FunctionFile] = some (.file fs.now c))
    (hstamp : fs'.lookup [RunDataDir, buildstamp] = fs.lookup [RunDataDir, buildstamp]) :
    Built sha256 path fs' = false := by
  rw [Bool.eq_false_iff]
  intro hbuilt'
  obtain ⟨-, hash, t, -, -, hfp, hst⟩ := built_eq_true_iff.mp hbuilt
  obtain ⟨-, hash', t', -, -, hfp', hst'⟩ := built_eq_true_iff.mp hbuilt'
  -- the stamp is the one the build wrote, so the two fingerprints agree
  rw [hstamp, hst] at hst'
  cases hst'
  have hrec := (fingerprint_eq_iff hinj hclean fs' fs).mp (hfp'.trans hfp.symm)
  cases hw' : walk fs' path <;> cases hw : walk fs path <;> simp only [fingerprint, hw, hw', Functor.map,
    Except.map, reduceCtorEq] at hfp hfp' hrec
  rename_i xs' xs
  simp only [Except.ok.injEq] at hrec
  -- the descriptor file is walked at the clock's time after the rewrite, and was not before
  have hreach : reached fs' path [FunctionFile] = true := by
    obtain ⟨t0, hroot⟩ := FileSystem.root_isDir hfile (List.cons_ne_nil _ _)
    simp only [List.mem_cons, List.mem_singleton, List.not_mem_nil, or_false, not_or] at hname
    simp [reached, hroot, hfile, skipDir, entryName, Entry.isDir, hname.1, hname.2]
  have hmem : ([FunctionFile], fs.now) ∈ records xs :=
    hrec ▸ List.mem_map_of_mem _ ((mem_walk hw').mpr ⟨FileSystem.lookup_eq_some_iff.mp hfile, hreach⟩)
  obtain ⟨⟨p, e⟩, hx, hpe⟩ := List.mem_map.mp hmem
  obtain ⟨rfl, he⟩ := Prod.mk.inj hpe
  exact hlater (by rw [FileSystem.lookup_eq_some_iff.mpr ((mem_walk hw).mp hx).1]; exact congrArg some he)

theorem later_stages_keep_built_while_descriptor_time_stands (c : Client) (path : String)
    (fs : FileSystem) :
    (c.Deploy path fs).2 = fs ∧ (c.Run path fs).2 = fs ∧ (∀ git, (c.RunPipeline path git fs).2 = fs) ∧
      (∀ fs', c.Push path fs = (.ok (), fs') → Built sha256 path fs = true →
        (fs.lookup [FunctionFile]).map Entry.modTime = some fs.now → Built sha256 path fs' = true) ∧
      ∀ fs', c.Push path fs = (.ok (), fs') → Built sha256 path fs = true →
        (fs.lookup [FunctionFile]).map Entry.modTime ≠ some fs.now → Function.Injective sha256 →
        Path.clean path.data ≠ ['.'] → Path.baseName path.data ∉ [RunDataDir.data, ".git".data] →
        Built sha256 path fs' = false := by
  refine ⟨deploy_readOnly c path fs, run_readOnly c path fs, fun git => runPipeline_readOnly c path git fs,
    fun fs' hpush hbuilt hnow => ?_, fun fs' hpush hbuilt hlater hinj hclean hname => ?_⟩
  · obtain ⟨f, d, hf, himage, -, hw⟩ := push_eq_ok hpush
    obtain ⟨g, hash, t, -, -, hfp, hstamp⟩ := built_eq_true_iff.mp hbuilt
    obtain ⟨e, he, het⟩ := Option.map_eq_some'.mp hnow
    -- the push rewrote the descriptor file in place, at the time it carried
    obtain ⟨t0, c0, rfl, rfl⟩ := FileSystem.writeFile_of_lookup he (Act.update_eq_ok.mp hw)
    cases het
    refine built_eq_true_iff.mpr ⟨{ f with imageDigest := d, root := path }, hash, t,
      newFunction_write (g := { f with imageDigest := d }) path (root_of_newFunction hf)
        ((migrated_congr (g := f) rfl).trans (migrated_of_newFunction hf himage)) hw, himage, ?_, ?_⟩
    · exact (fingerprint_congr_records (records_walk_rewriteAt _ he path)).trans hfp
    · rw [FileSystem.rewriteAt, FileSystem.lookup_map, hstamp]
      simp [FunctionFile, RunDataDir]
  · -- the push rewrote the descriptor file at the clock's time, and left the stamp alone
    obtain ⟨_, _, -, -, -, hw⟩ := push_eq_ok hpush
    obtain ⟨-, hfile, hframe⟩ := FileSystem.writeFile_frame (Act.update_eq_ok.mp hw)
    exact built_false_of_later_descriptor hinj hclean hname hbuilt hlater hfile
      (by rw [hframe _ (by decide)]; simp [FunctionFile, RunDataDir])

/-- A build at clock 2, then a push once the clock reads 3: the pushed digest
rewrites the descriptor at 3, and the build no longer reads as current. -/
theorem push_after_a_while_unbuilds :
    Built String.mk "/srv/demo" builtProject = true ∧
      (demoClient.Push "/srv/demo" (builtProject.advance 1)).1 = .ok () ∧
      Built String.mk "/srv/demo" (demoClient.Push "/srv/demo" (builtProject.advance 1)).2 = false := by
  decide

/-- From the working directory `/srv`, `demo` names the directory `Build`
just built as `/srv/demo`, with nothing changed since: the function reads as
built under the one spelling and not under the other, the walk printing the
root as given. -/
theorem built_rejects_stamp_under_relative_spelling :
    demoClient.Build String.mk "/srv/demo" demoProject = (.ok (), builtProject) ∧
      Built String.mk "/srv/demo" builtProject = true ∧ filepathAbs "/srv" "demo" = "/srv/demo" ∧
      fingerprint String.mk builtProject "/srv/demo" ≠ fingerprint String.mk builtProject "demo" ∧
      Built String.mk "demo" builtProject = false :=
  ⟨Prod.ext (by decide) rfl, by decide, by decide,
    fun h => absurd ((fingerprint_depends_on_spelling (fun _ _ h => String.ext_iff.mp h) (by decide) (by decide)
      (by decide) (by decide) builtProject).mp h) (by decide), by decide⟩

end KnFunc.Client
