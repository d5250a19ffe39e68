import KnFunc.Client.Staleness

/-!
# A build that runs while the directory is edited

`Build` takes long: the builder collaborator may run for minutes, and nothing
keeps the user from editing the project meanwhile ("filesystem racing
conditions do exist", says `Built`). Here `Build`'s steps are interleaved
with edits made by someone else: before the builder is called, while it runs,
after the descriptor is written, after `ensureRuntimeDir`, and between the
fingerprint and the stamp (`buildInterleaved`). With no edits it is `Build`
(`buildInterleaved_nil`).

**The law** (`built_certifies_tree_at_fingerprint`): when the function reads
as built after such a run, the walk sees the paths and modification times it
saw when the fingerprint was taken, for a digest without collisions and a
root that does not clean to `.`. No assumption is made on the edits.

**What it does not establish.** The fingerprint is taken after the builder
has run, so the stamp certifies what was edited while it ran: a source file
rewritten during the build reads as built, with a time the builder never saw
(`stamp_certifies_edit_during_build`).
-/

namespace KnFunc

/-- An edit to the project directory made by someone other than the client. -/
inductive Edit where
  | write (p : RelPath) (c : Content)
  | remove (p : RelPath)
  | mkdir (p : RelPath)
  | wait (dt : Nat)

/-- The directory an edit leaves: what it wrote, or, when it failed, the
directory as it was. -/
def keepOnError (fs : FileSystem) : Except Fault FileSystem → FileSystem
  | .ok fs' => fs'
  | .error _ => fs

/-- The directory after the edit. -/
def Edit.apply (fs : FileSystem) : Edit → FileSystem
  | .write p c => keepOnError fs (fs.writeFile p c)
  | .remove p => keepOnError fs (fs.removeFile p)
  | .mkdir p => keepOnError fs (fs.mkdir p)
  | .wait dt => fs.advance dt

/-- Edits made one after another, whatever becomes of each. -/
def edits (es : List Edit) : Act FileSystem Unit := fun fs => (.ok (), es.foldl Edit.apply fs)

theorem edits_nil : edits [] = pure () := rfl

namespace Client

variable (sha256 : List Char → String) (c : Client)

/-- `Build` up to the fingerprint, with edits before the builder is called,
while it runs, after the descriptor is written and after `ensureRuntimeDir`.
It returns the fingerprint. -/
def buildUntilHash (e1 e2 e3 e4 : List Edit) (path : String) : Act FileSystem String := do
  let f ← Act.read (newFunction · path)
  let image ← Act.read (derivedImage · path c.registry)
  let f := { f with image := image }
  edits e1
  Act.read fun _ => c.builder f
  edits e2
  f.Write
  edits e3
  ensureRuntimeDir
  edits e4
  Act.read (Staleness.fingerprint sha256 · f.root)

/-- `Build` with edits at every step, the last ones made between the
fingerprint and the stamp. -/
def buildInterleaved (e1 e2 e3 e4 e5 : List Edit) (path : String) : Act FileSystem Unit := do
  let hash ← c.buildUntilHash sha256 e1 e2 e3 e4 path
  edits e5
  Act.update (·.writeFile [RunDataDir, buildstamp] (.text hash))

/-- With no edits, the interleaved run is `Build`. -/
theorem buildInterleaved_nil (path : String) :
    c.buildInterleaved sha256 [] [] [] [] [] path = c.Build sha256 path := by
  simp only [buildInterleaved, buildUntilHash, Build, updateBuildStamp, edits_nil, pure_bind,
    bind_assoc]

variable {sha256 c}

/-- What the fingerprint taken in the run is: that of the directory as it was
then, walked from the path built. -/
theorem fingerprint_of_buildUntilHash {e1 e2 e3 e4 : List Edit} {path hash : String}
    {fs0 fsH : FileSystem} (h : c.buildUntilHash sha256 e1 e2 e3 e4 path fs0 = (.ok hash, fsH)) :
    Staleness.fingerprint sha256 fsH path = .ok hash := by
  obtain ⟨f, hf, h⟩ := Act.read_bind_eq_ok.mp h
  obtain ⟨image, -, h⟩ := Act.read_bind_eq_ok.mp h
  repeat obtain ⟨_, _, -, h⟩ := Act.bind_eq_ok.mp h
  obtain ⟨hfp, rfl⟩ := Act.read_eq h
  have hroot : f.root = path := newFunction_root hf
  rwa [show ({ f with image := image } : Function).root = path from hroot] at hfp

/-- `main.go` rewritten at clock 3 while the builder runs. -/
def editedBuild : Except Fault Unit × FileSystem :=
  demoClient.buildInterleaved String.mk []
    [.wait 1, .write ["main.go"] (.text "package main // edited")] [] [] [] "/srv/demo" demoProject

theorem built_certifies_tree_at_fingerprint {e1 e2 e3 e4 e5 : List Edit} {path : String}
    {fs0 fs1 : FileSystem} (hinj : Function.Injective sha256) (hroot : Path.clean path.data ≠ ['.'])
    (hrun : c.buildInterleaved sha256 e1 e2 e3 e4 e5 path fs0 = (.ok (), fs1))
    (hbuilt : Built sha256 path fs1 = true) :
    (Staleness.records <$> Staleness.walk fs1 path) =
      (Staleness.records <$> Staleness.walk (c.buildUntilHash sha256 e1 e2 e3 e4 path fs0).2 path) := by
  obtain ⟨hash, fsH, hH, h⟩ := Act.bind_eq_ok.mp hrun
  obtain ⟨_, fsE, hE, hw⟩ := Act.bind_eq_ok.mp h
  have hw := Act.update_eq_ok.mp hw
  obtain ⟨-, hfpE⟩ := (built_after_stamp hw).mp hbuilt
  rw [hH, Staleness.walk_writeFile_stamp path hw, ← Staleness.fingerprint_eq_iff hinj hroot, hfpE,
    fingerprint_of_buildUntilHash hH]

/-- The edited build reads as built, and its tree is the one fingerprinted,
edit included. -/
theorem edited_build_certifies_its_tree :
    Function.Injective String.mk ∧ Path.clean "/srv/demo".data ≠ ['.'] ∧
      Built String.mk "/srv/demo" editedBuild.2 = true ∧
      (Staleness.records <$> Staleness.walk editedBuild.2 "/srv/demo") =
        (Staleness.records <$> Staleness.walk (demoClient.buildUntilHash String.mk []
          [.wait 1, .write ["main.go"] (.text "package main // edited")] [] [] "/srv/demo" demoProject).2
          "/srv/demo") :=
  have hinj : Function.Injective String.mk := fun _ _ h => String.ext_iff.mp h
  have hroot : Path.clean "/srv/demo".data ≠ ['.'] := by decide
  have hbuilt : Built String.mk "/srv/demo" editedBuild.2 = true := by decide
  ⟨hinj, hroot, hbuilt, built_certifies_tree_at_fingerprint hinj hroot (Prod.ext (by decide) rfl) hbuilt⟩

/-- The builder is called on `demoProject` as it is (only reads come before
it), where `main.go` carries 1; the run ends built, with `main.go` at 3. -/
theorem stamp_certifies_edit_during_build :
    editedBuild.1 = .ok () ∧ Built String.mk "/srv/demo" editedBuild.2 = true ∧
      (demoProject.lookup ["main.go"]).map Entry.modTime = some 1 ∧
      (editedBuild.2.lookup ["main.go"]).map Entry.modTime = some 3 := by
  decide

end Client

end KnFunc
