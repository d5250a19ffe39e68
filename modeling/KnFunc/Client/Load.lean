import KnFunc.Migration.Frame
import KnFunc.Path.Clean

/-!
# Loading and writing the descriptor

`NewFunction` and `Write`, with the other helpers of `function.go` the client
calls (`DerivedImage`, `hasInitializedFunction`, `assertEmptyRoot`,
`nameFromPath`, `NewFunctionWith`), are not among the sources. They are
modelled from the spec: every operation but `Create` loads the descriptor
through the migration engine, and every mutating operation persists it to the
descriptor file at the project root.

What is proved: what a successful load did (`newFunction_eq_ok`), that a
loaded descriptor is rooted where it was loaded from, and that what `Write`
persists loads back (`newFunction_write`).
-/

namespace KnFunc

/-- Modelled from the spec: `NewFunction` (in `function.go`) is not among the
sources. The project root must be a directory; with no descriptor file the
descriptor is the zero one rooted there; otherwise the file is decoded and
passed through the migration engine.

The descriptor is rooted at `root` as given, not made absolute, although the
spec has the root absolute (its data model's `root` and invariants). Nothing
in the sources makes it so: `Create` makes only its own copy of the
configuration absolute, `New` then loads from `cfg.Root` as the caller gave
it, and `Build`, `Push`, `Deploy`, `Run` and `Built` load from the path they
were called with. The descriptor file does not record the root, so this is
only what the loaded descriptor carries, and what `fingerprint` walks. -/
def newFunction (fs : FileSystem) (root : String) : Except Fault Function :=
  match fs.lookup [] with
  | none => .error (.error s!"stat {root}: no such file or directory")
  | some (.file _ _) => .error (.error "function path must be a directory")
  | some (.dir _) =>
    match fs.lookup [FunctionFile] with
    | none => .ok (Function.zero root)
    | some _ => do
      let f ← decodeFunction root (← readDescriptorDoc fs)
      f.Migrate fs

/-- Modelled from the spec: `Write` (in `function.go`) is not among the
sources. It persists the descriptor to the descriptor file at its root. -/
def Function.Write (f : Function) : Act FileSystem Unit :=
  Act.update (·.writeFile [FunctionFile] (.yaml (encodeFunction f)))

/-- Modelled from the spec: `DerivedImage` (in `function.go`) is not among the
sources. The image the descriptor at `root` names, or, when it names none, one
derived from the registry and the function's name. -/
def derivedImage (fs : FileSystem) (root registry : String) : Except Fault String := do
  let f ← newFunction fs root
  if f.image ≠ "" then return f.image
  if registry = "" then throw (.error "Unable to derive image due to no registry provided.")
  return registry ++ "/" ++ f.name ++ ":latest"

/-- Modelled from the spec: `hasInitializedFunction` (in `function.go`) is not
among the sources. Whether the descriptor at `root` loads initialized. -/
def hasInitializedFunction (fs : FileSystem) (root : String) : Except Fault Bool :=
  (·.Initialized) <$> newFunction fs root

/-- Modelled from the spec: `contentiousFiles` (in `function.go`) is not among
the sources. The files that conflict with a new project's scaffolding: the
descriptor file, and `.gitignore`, as `ensureRuntimeDir`'s comment says. -/
def contentiousFiles : List String := [FunctionFile, ".gitignore"]

/-- The names `ioutil.ReadDir` lists in the project root. -/
def rootNames (fs : FileSystem) : List String :=
  fs.entries.filterMap fun x => match x.1 with
    | [n] => some n
    | _ => none

/-- The contentious files the root of `fs` holds, in `contentiousFiles`' order. -/
def contentiousIn (fs : FileSystem) : List String :=
  contentiousFiles.filter (· ∈ rootNames fs)

/-- The error `assertEmptyRoot` returns for a root holding contentious files. -/
def contentiousError (root : String) (contentious : List String) : Fault :=
  .error s!"The chosen directory '{root}' contains contentious files: {contentious}."

/-- Modelled from the spec: `assertEmptyRoot` (in `function.go`) is not among
the sources. A new project's root may hold no contentious file, and no visible
file ("hidden files OK, unless it's one used by Func", says `Create`). -/
def assertEmptyRoot (fs : FileSystem) (root : String) : Except Fault Unit :=
  if contentiousIn fs ≠ [] then
    .error (contentiousError root (contentiousIn fs))
  else if (rootNames fs).any fun n => !n.startsWith "." then
    .error (.error "The directory must be empty of visible files and recognized config files.")
  else .ok ()

/-- Modelled from the spec: `nameFromPath` (in `function.go`) is not among the
sources. A new function is named after its directory. -/
def nameFromPath (path : String) : String := String.mk (Path.baseName path.data)

/-- Modelled from the spec: `NewFunctionWith` (in `function.go`) is not among
the sources. The in-memory descriptor `Create` starts from is its
configuration. -/
def newFunctionWith (defaults : Function) : Function := defaults

theorem hasInitializedFunction_eq_ok {fs : FileSystem} {root : String} {b : Bool} :
    hasInitializedFunction fs root = .ok b ↔ ∃ f, newFunction fs root = .ok f ∧ f.Initialized = b := by
  unfold hasInitializedFunction
  cases newFunction fs root <;> simp [Functor.map, Except.map]

theorem hasInitializedFunction_eq_error {fs : FileSystem} {root : String} {e : Fault} :
    hasInitializedFunction fs root = .error e ↔ newFunction fs root = .error e := by
  unfold hasInitializedFunction
  cases newFunction fs root <;> simp [Functor.map, Except.map]

/-- **A root holding a contentious file fails `assertEmptyRoot`**, with the
error that lists the contentious files it holds. -/
theorem assertEmptyRoot_of_contentious {fs : FileSystem} {n : String} (hn : n ∈ contentiousFiles)
    (hfile : (fs.lookup [n]).isSome) (root : String) :
    n ∈ contentiousIn fs ∧ assertEmptyRoot fs root = .error (contentiousError root (contentiousIn fs)) := by
  obtain ⟨e, he⟩ := Option.isSome_iff_exists.mp hfile
  have hmem : n ∈ contentiousIn fs := List.mem_filter.mpr
    ⟨hn, decide_eq_true (List.mem_filterMap.mpr ⟨([n], e), FileSystem.lookup_eq_some_iff.mp he, rfl⟩)⟩
  exact ⟨hmem, if_pos (List.ne_nil_of_mem hmem)⟩

/-- A root that passed `assertEmptyRoot` holds none of the contentious files. -/
theorem lookup_contentious {fs : FileSystem} {root n : String} (h : assertEmptyRoot fs root = .ok ())
    (hn : n ∈ contentiousFiles) : fs.lookup [n] = none := by
  cases hfile : fs.lookup [n] with
  | none => rfl
  | some e =>
    rw [(assertEmptyRoot_of_contentious hn (by rw [hfile]; rfl) root).2] at h
    cases h

/-! ## Loading back what was written -/

/-- **What a successful load did**: the root is a directory, and either there
is no descriptor file and the descriptor is the zero one, or the file's
document decoded to a descriptor that the migration engine took to `f`. -/
theorem newFunction_eq_ok {fs : FileSystem} {root : String} {f : Function}
    (h : newFunction fs root = .ok f) :
    (∃ t, fs.lookup [] = some (.dir t)) ∧
      ((fs.lookup [FunctionFile] = none ∧ f = Function.zero root) ∨
        ∃ doc f0, readDescriptorDoc fs = .ok doc ∧ decodeFunction root doc = .ok f0 ∧
          f0.Migrate fs = .ok f) := by
  unfold newFunction at h
  split at h
  · cases h
  · cases h
  refine ⟨⟨_, ‹_›⟩, ?_⟩
  split at h
  · cases h
    exact .inl ⟨‹_›, rfl⟩
  · obtain ⟨doc, hdoc, h⟩ := except_bind_eq_ok.mp h
    obtain ⟨f0, hf0, h⟩ := except_bind_eq_ok.mp h
    exact .inr ⟨doc, f0, hdoc, hf0, h⟩

theorem newFunction_root {fs : FileSystem} {root : String} {f : Function}
    (h : newFunction fs root = .ok f) : f.root = root := by
  rcases (newFunction_eq_ok h).2 with ⟨-, rfl⟩ | ⟨doc, f0, -, hf0, h⟩
  · rfl
  · obtain ⟨g, -, rfl⟩ := decodeFunction_eq_ok hf0
    exact (migrate_keeps h).root

theorem readDescriptorDoc_of_lookup {fs : FileSystem} {doc : Yaml} {t : Int}
    (h : fs.lookup [FunctionFile] = some (.file t (.yaml doc))) : readDescriptorDoc fs = .ok doc := by
  simp [readDescriptorDoc, FileSystem.readFile, h]
  rfl

/-- A directory whose descriptor file holds a written descriptor loads it
through the migration engine. -/
theorem newFunction_written {fs : FileSystem} {t t' : Int} {g : Function} (root : String)
    (hroot : fs.lookup [] = some (.dir t))
    (hfile : fs.lookup [FunctionFile] = some (.file t' (.yaml (encodeFunction g)))) :
    newFunction fs root = ({ g with root := root } : Function).Migrate fs := by
  simp [newFunction, hroot, hfile, readDescriptorDoc_of_lookup hfile, decodeFunction_encodeFunction]

/-- Whether a descriptor is migrated depends on its version alone. -/
theorem migrated_congr {f g : Function} (h : f.version = g.version) : f.Migrated = g.Migrated := by
  unfold Function.Migrated
  rw [h]

/-- A descriptor that loads with an image was read from the descriptor file,
and is migrated. -/
theorem migrated_of_newFunction {fs : FileSystem} {root : String} {f : Function}
    (h : newFunction fs root = .ok f) (himage : f.HasImage = true) : f.Migrated = .ok true := by
  rcases (newFunction_eq_ok h).2 with ⟨-, rfl⟩ | ⟨_, _, -, -, hmigrate⟩
  · cases himage
  · exact migrated_of_migrate hmigrate

/-- A loaded descriptor's root is a directory. -/
theorem root_of_newFunction {fs : FileSystem} {root : String} {f : Function}
    (h : newFunction fs root = .ok f) : ∃ t, fs.lookup [] = some (.dir t) :=
  (newFunction_eq_ok h).1

/-- Where a descriptor loads, any descriptor can be written. -/
theorem write_ok_of_newFunction {fs : FileSystem} {root : String} {f : Function}
    (hf : newFunction fs root = .ok f) (g : Function) : ∃ fs', g.Write fs = (.ok (), fs') := by
  obtain ⟨t, hroot⟩ := root_of_newFunction hf
  suffices h : ∃ fs', fs.writeFile [FunctionFile] (.yaml (encodeFunction g)) = .ok fs' from
    h.imp fun _ hw => Act.update_of_ok hw
  rcases hfile : fs.lookup [FunctionFile] with _ | ⟨t', c⟩ | t'
  · exact FileSystem.writeFile_new _ hfile (by decide) (List.cons_ne_nil _ _) (by simp [hroot]; rfl)
  · exact ⟨_, FileSystem.writeFile_of_file hfile _⟩
  · simp [newFunction, hroot, hfile, readDescriptorDoc, FileSystem.readFile] at hf

/-- **What `Write` persists loads back**: a migrated descriptor written into a
project loads as itself, rooted where it is loaded. -/
theorem newFunction_write {fs fs' : FileSystem} {g : Function} {u : Unit} (root : String)
    (hroot : ∃ t, fs.lookup [] = some (.dir t)) (hg : g.Migrated = .ok true)
    (hw : g.Write fs = (.ok u, fs')) : newFunction fs' root = .ok { g with root := root } := by
  obtain ⟨t, hroot⟩ := hroot
  obtain ⟨-, hfile, hframe⟩ := FileSystem.writeFile_frame (Act.update_eq_ok.mp hw)
  obtain ⟨t', hroot'⟩ : ∃ t', fs'.lookup [] = some (.dir t') := by
    rw [hframe [] (by simp [FunctionFile]), hroot, Option.map_some']
    split_ifs
    · exact ⟨_, rfl⟩
    · exact ⟨_, rfl⟩
  rw [newFunction_written root hroot' hfile, migrate_of_migrated _ fs']
  rw [migrated_congr rfl]
  exact hg

/-- **A descriptor file holding a migrated descriptor loads it**, rooted
where it is loaded. -/
theorem newFunction_of_file {fs : FileSystem} {t : Int} {g : Function} (root : String)
    (hfile : fs.lookup [FunctionFile] = some (.file t (.yaml (encodeFunction g))))
    (hg : g.Migrated = .ok true) : newFunction fs root = .ok { g with root := root } := by
  obtain ⟨t0, hroot⟩ := FileSystem.root_isDir hfile (List.cons_ne_nil _ _)
  rw [newFunction_written root hroot hfile, migrate_of_migrated _ fs]
  rw [migrated_congr rfl]
  exact hg

/-- **Writing back a loaded descriptor with other fields loads it as
written**: the version, and with it the migration, and the root are the
loaded ones. -/
theorem newFunction_rewrite {fs fs' : FileSystem} {root : String} {f g : Function} {u : Unit}
    (hf : newFunction fs root = .ok f) (hmig : f.Migrated = .ok true) (hversion : g.version = f.version)
    (hroot : g.root = f.root) (hw : g.Write fs = (.ok u, fs')) : newFunction fs' root = .ok g := by
  rw [newFunction_write root (root_of_newFunction hf) ((migrated_congr hversion).trans hmig) hw,
    ← newFunction_root hf, ← hroot]

/-- A descriptor loaded where the descriptor file is present is migrated. -/
theorem migrated_of_descriptorFile {fs : FileSystem} {root : String} {f : Function}
    (h : newFunction fs root = .ok f) (hfile : (fs.lookup [FunctionFile]).isSome) : f.Migrated = .ok true := by
  rcases (newFunction_eq_ok h).2 with ⟨hnone, -⟩ | ⟨_, _, -, -, hmigrate⟩
  · rw [hnone] at hfile
    cases hfile
  · exact migrated_of_migrate hmigrate

/-- An initialized descriptor was read from the descriptor file, and is
migrated. -/
theorem migrated_of_initialized {fs : FileSystem} {root : String} {f : Function}
    (h : newFunction fs root = .ok f) (hinit : f.Initialized = true) : f.Migrated = .ok true := by
  rcases (newFunction_eq_ok h).2 with ⟨-, rfl⟩ | ⟨_, _, -, -, hmigrate⟩
  · cases hinit
  · exact migrated_of_migrate hmigrate

/-- A descriptor that names an image derives that image. -/
theorem derivedImage_of_image {fs : FileSystem} {root registry : String} {f : Function}
    (hf : newFunction fs root = .ok f) (himage : f.HasImage = true) :
    derivedImage fs root registry = .ok f.image := by
  have hne : f.image ≠ "" := by simpa [Function.HasImage] using himage
  simp only [derivedImage, hf, except_ok_bind, if_pos hne]
  rfl

/-- **A derived image is never empty**: the descriptor's own, or one under the
registry. -/
theorem derivedImage_ne_empty {fs : FileSystem} {root registry image : String}
    (h : derivedImage fs root registry = .ok image) : image ≠ "" := by
  unfold derivedImage at h
  obtain ⟨f, -, h⟩ := except_bind_eq_ok.mp h
  by_cases hi : f.image = ""
  · by_cases hr : registry = ""
    · simp [hi, hr] at h
      cases h
    · simp only [hi, hr, ne_eq, not_true_eq_false, if_false] at h
      cases h
      intro he
      have hl := congrArg String.length he
      have h7 : ":latest".length = 7 := rfl
      simp only [String.length_append, String.length_empty] at hl
      omega
  · simp only [ne_eq, hi, not_false_eq_true, if_true] at h
    cases h
    exact hi

end KnFunc
