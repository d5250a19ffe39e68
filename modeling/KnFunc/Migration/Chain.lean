import KnFunc.Migration.Migrate

/-!
# What a run of `Migrate` does

`Migrate` decides step by step which migrations to run: at each one it parses
the version the descriptor has at that moment and compares it with the
threshold. Its contract says something static instead — exactly the
migrations whose threshold is above the STARTING version run, in registry
order, each once, the first failure ending the run.

**The loop law** (`migrateLoop_eq_applyAll`): for any registry whose
thresholds parse and ascend strictly and whose migrators each stamp their own
threshold when they succeed — whatever else they do, and whether they succeed
or fail — the step-by-step loop equals the static chain
`applyAll (ms.filter (applies v0))`. The induction carries one invariant: the
current version and the starting one agree on every remaining threshold. A
stamp of `t` keeps it, because every later threshold is above `t`.

`migrations` is such a registry (`registry_migrations`), so `Migrate`'s
contract follows (`migrate_applies_newer_thresholds`), and with it
idempotence (`migrate_idempotent`): a result is `Migrated`, and migrating it
again changes nothing, on any file system.

**What the chain does NOT keep.** `migrateTo100Structure` rebuilds the build
section from the old file, so a custom builder image carried forward by
`migrateToBuilderImages` is replaced by the file's top-level `builderImages`
(`migrate_builderImages_from_file`).
-/

namespace KnFunc

open Semver

/-- Whether a migration applies to a descriptor at version `v`: its threshold
parses, and `v` is below it. -/
def applies (v : Version) (m : Migration) : Bool :=
  match newVersion m.version with
  | some t => v.lessThan t
  | none => false

/-- The migrations applied one after the other, the first failure ending the
chain. -/
def applyAll (fs : FileSystem) (ms : List Migration) (f : Function) : Except Fault Function :=
  ms.foldlM (fun g m => m.migrate fs g m.version) f

/-- A migrator that, when it succeeds, records its own threshold. -/
def Stamps (m : Migration) : Prop :=
  ∀ fs f g, m.migrate fs f m.version = .ok g → g.version = m.version

/-- Whether `a`'s threshold is below `b`'s, both parsing. -/
def thresholdBelow (a b : Migration) : Bool :=
  match newVersion a.version, newVersion b.version with
  | some ta, some tb => ta.lessThan tb
  | _, _ => false

/-- What the loop needs of a registry. -/
structure Registry (ms : List Migration) : Prop where
  parses : ∀ m ∈ ms, (newVersion m.version).isSome
  ascending : ms.Pairwise fun a b => thresholdBelow a b
  stamps : ∀ m ∈ ms, Stamps m

/-- The last registered migration, `migrations[len(migrations)-1]`. -/
def lastMigration : Migration := migrations.getLast (List.cons_ne_nil _ _)

theorem semverNew_eq_ok {s : String} {v : Version} : semverNew s = .ok v ↔ newVersion s = some v := by
  unfold semverNew newVersion
  cases parseVersion s <;> simp [Except.mapError, Except.toOption]

theorem applies_of_newVersion {v t : Version} {m : Migration} (h : newVersion m.version = some t) :
    applies v m = v.lessThan t := by
  simp [applies, h]

/-- A migration above one that applies applies too. -/
theorem applies_of_below {v : Version} {a b : Migration} (ha : applies v a = true)
    (hab : thresholdBelow a b = true) : applies v b = true := by
  unfold thresholdBelow at hab
  split at hab
  · rename_i ta tb hta htb
    rw [applies_of_newVersion htb]
    rw [applies_of_newVersion hta] at ha
    exact lessThan_trans ha hab
  · cases hab

/-- A migration above `a` applies at `a`'s threshold. -/
theorem applies_threshold {a b : Migration} {ta : Version} (hta : newVersion a.version = some ta)
    (hab : thresholdBelow a b = true) : applies ta b = true := by
  unfold thresholdBelow at hab
  rw [hta] at hab
  cases htb : newVersion b.version with
  | none => rw [htb] at hab; cases hab
  | some tb => rw [htb] at hab; rwa [applies_of_newVersion htb]

/-! ## The loop law -/

theorem Registry.tail {m : Migration} {ms : List Migration} (h : Registry (m :: ms)) : Registry ms :=
  ⟨fun m' hm' => h.parses m' (List.mem_cons_of_mem _ hm'),
    (List.pairwise_cons.mp h.ascending).2, fun m' hm' => h.stamps m' (List.mem_cons_of_mem _ hm')⟩

theorem migrateLoop_eq_applyAll (fs : FileSystem) (v0 : Version) :
    ∀ {ms : List Migration}, Registry ms → ∀ {g : Function} {vg : Version},
      semverNew g.version = .ok vg → (∀ m ∈ ms, applies vg m = applies v0 m) →
      Function.migrateLoop fs ms g = applyAll fs (ms.filter (applies v0)) g
  | [], _, _, _, _, _ => rfl
  | m :: ms, hreg, g, vg, hg, hrel => by
    obtain ⟨tm, htm⟩ := Option.isSome_iff_exists.mp (hreg.parses m (List.mem_cons_self _ _))
    have hm := hrel m (List.mem_cons_self _ _)
    rw [applies_of_newVersion htm] at hm
    have hrest : ∀ m' ∈ ms, applies vg m' = applies v0 m' :=
      fun m' hm' => hrel m' (List.mem_cons_of_mem _ hm')
    simp only [Function.migrateLoop, hg, semverNew_eq_ok.mpr htm, except_ok_bind]
    cases hlt : vg.lessThan tm with
    | false =>
      rw [List.filter_cons_of_neg (by rw [← hm, hlt]; decide)]
      exact migrateLoop_eq_applyAll fs v0 hreg.tail hg hrest
    | true =>
      rw [List.filter_cons_of_pos (by rw [← hm, hlt])]
      simp only [Bool.not_true, Bool.false_eq_true, if_false, applyAll, List.foldlM_cons]
      cases hstep : m.migrate fs g m.version with
      | error e => rfl
      | ok g' =>
        have hv' := hreg.stamps m (List.mem_cons_self _ _) fs g g' hstep
        have hg' : semverNew g'.version = .ok tm := by rw [hv']; exact semverNew_eq_ok.mpr htm
        refine migrateLoop_eq_applyAll fs v0 hreg.tail hg' fun m' hm' => ?_
        have hbelow := List.rel_of_pairwise_cons hreg.ascending hm'
        have hv0 : applies v0 m = true := by rw [← hm, hlt]
        rw [applies_threshold htm hbelow, applies_of_below hv0 hbelow]

/-- A chain of stamping migrations ends at the last threshold it ran. -/
theorem applyAll_version (fs : FileSystem) :
    ∀ {ms : List Migration}, (∀ m ∈ ms, Stamps m) → ∀ {g g' : Function},
      applyAll fs ms g = .ok g' → g'.version = ms.foldl (fun _ m => m.version) g.version
  | [], _, _, _, h => by cases h; rfl
  | m :: ms, hs, g, g', h => by
    simp only [applyAll, List.foldlM_cons, except_bind_eq_ok] at h
    obtain ⟨g1, h1, h2⟩ := h
    have hv1 := hs m (List.mem_cons_self _ _) fs g g1 h1
    rw [applyAll_version fs (fun m' hm' => hs m' (List.mem_cons_of_mem _ hm')) h2, hv1]
    rfl

/-! ## The registry -/

theorem migrateToCreationStamp_version {fs : FileSystem} {f g : Function} {v : String}
    (h : migrateToCreationStamp fs f v = .ok g) : g.version = v := by
  cases h; rfl

theorem migrateToBuilderImages_version {fs : FileSystem} {f g : Function} {v : String}
    (h : migrateToBuilderImages fs f v = .ok g) : g.version = v := by
  simp only [migrateToBuilderImages, except_bind_eq_ok] at h
  obtain ⟨_, _, _, _, h⟩ := h
  cases h; rfl

theorem migrateTo100Structure_version {fs : FileSystem} {f g : Function} {v : String}
    (h : migrateTo100Structure fs f v = .ok g) : g.version = v := by
  simp only [migrateTo100Structure, except_bind_eq_ok] at h
  obtain ⟨_, _, _, _, h⟩ := h
  cases h; rfl

theorem registry_migrations : Registry migrations := by
  refine ⟨by decide, by decide, ?_⟩
  simp only [migrations, List.mem_cons, List.mem_singleton, List.not_mem_nil, or_false]
  rintro m (rfl | rfl | rfl) fs f g h
  · exact migrateToCreationStamp_version h
  · exact migrateToBuilderImages_version h
  · exact migrateTo100Structure_version h

/-- The last threshold, `1.0.0`. -/
def lastThreshold : Version := ⟨1, 0, 0, [], []⟩

theorem newVersion_lastMigration : newVersion lastMigration.version = some lastThreshold := by
  decide

theorem newVersion_default : newVersion DefaultVersion = some ⟨0, 0, 0, [], []⟩ := by decide

/-- Every registered migration that applies makes the last one apply. -/
theorem applies_last_of_mem {v : Version} {m : Migration} (hm : m ∈ migrations)
    (h : applies v m = true) : applies v lastMigration = true := by
  simp only [migrations, List.mem_cons, List.mem_singleton, List.not_mem_nil, or_false] at hm
  rcases hm with rfl | rfl | rfl
  · exact applies_of_below h (by decide)
  · exact applies_of_below h (by decide)
  · exact h

theorem filter_migrations_eq_nil {v : Version} (h : applies v lastMigration = false) :
    migrations.filter (applies v) = [] :=
  List.filter_eq_nil_iff.mpr fun m hm happ => by
    rw [applies_last_of_mem hm (by simpa using happ)] at h
    cases h

/-- The chain a version starts ends at the last threshold when it runs at all. -/
theorem migrations_filter_last (v : Version) (s : String) :
    (migrations.filter (applies v)).foldl (fun _ m => m.version) s =
      if applies v lastMigration then lastMigration.version else s := by
  cases hlast : applies v lastMigration with
  | false => rw [filter_migrations_eq_nil hlast]; rfl
  | true =>
    have h3 : applies v ⟨"1.0.0", migrateTo100Structure⟩ = true := hlast
    simp only [migrations, List.filter_cons, h3, if_true, List.filter_nil]
    split <;> split <;> rfl

/-! ## `Migrated` and `Migrate` -/

theorem migrated_eq {f : Function} {v0 : Version}
    (hv0 : semverNew f.withDefaultVersion.version = .ok v0) :
    f.Migrated = .ok (f.version != "" && !applies v0 lastMigration) := by
  unfold Function.Migrated
  by_cases he : f.version = ""
  · simp [he]
  · have hf : semverNew f.version = .ok v0 := by simpa [Function.withDefaultVersion, he] using hv0
    have hlast : semverNew lastMigration.version = .ok lastThreshold :=
      semverNew_eq_ok.mpr newVersion_lastMigration
    simp only [he, if_false, hf, bne_iff_ne, ne_eq, not_false_eq_true, Bool.true_and]
    rw [show migrations.getLast? = some lastMigration from rfl]
    simp only [hlast, except_ok_bind, applies_of_newVersion newVersion_lastMigration]
    rw [show (f.version != "") = true from bne_iff_ne.mpr he]
    rfl

/-- An empty version is read as `0.0.0`, which every registry run starts from. -/
theorem applies_last_of_empty {f : Function} {v0 : Version}
    (hv0 : semverNew f.withDefaultVersion.version = .ok v0) (he : f.version = "") :
    applies v0 lastMigration = true := by
  have : newVersion DefaultVersion = some v0 := by
    simpa [Function.withDefaultVersion, he, semverNew_eq_ok] using hv0
  rw [newVersion_default] at this
  cases this
  decide

theorem migrate_eq_applyAll (fs : FileSystem) {f : Function} {v0 : Version}
    (hv0 : semverNew f.withDefaultVersion.version = .ok v0) :
    f.Migrate fs = applyAll fs (migrations.filter (applies v0)) f.withDefaultVersion := by
  unfold Function.Migrate
  rw [migrated_eq hv0, except_ok_bind]
  cases hlast : applies v0 lastMigration with
  | true => simpa using migrateLoop_eq_applyAll fs v0 registry_migrations hv0 (fun _ _ => rfl)
  | false =>
    have he : f.version ≠ "" := fun he => by rw [applies_last_of_empty hv0 he] at hlast; cases hlast
    simp [he, filter_migrations_eq_nil hlast, applyAll, Function.withDefaultVersion]

/-- What `Migrate` promises from a starting version `v0`. -/
structure MigrateContract (fs : FileSystem) (f : Function) (v0 : Version) : Prop where
  /-- An empty version is read as 0.0.0. -/
  empty_start : f.version = "" → v0 = ⟨0, 0, 0, [], []⟩
  /-- Exactly the migrations above `v0` run, in registry order, each once; the
  first failure ends the run and is returned. -/
  runs_newer : f.Migrate fs = applyAll fs (migrations.filter (applies v0)) f.withDefaultVersion
  /-- A success ends at the last threshold when `v0` is below it, and keeps
  `f`'s own version otherwise. -/
  version_eq : ∀ g, f.Migrate fs = .ok g →
    g.version = if applies v0 lastMigration then lastMigration.version else f.version
  /-- A success is never below `v0`. -/
  not_below : ∀ g, f.Migrate fs = .ok g → ∃ w, semverNew g.version = .ok w ∧ ¬ w.lessThan v0

/-- A success ends at the last threshold when `v0` is below it, and keeps
`f`'s own version otherwise. -/
theorem migrate_version_eq {fs : FileSystem} {f : Function} {v0 : Version}
    (hv0 : semverNew f.withDefaultVersion.version = .ok v0) {g : Function} (hg : f.Migrate fs = .ok g) :
    g.version = if applies v0 lastMigration then lastMigration.version else f.version := by
  rw [migrate_eq_applyAll fs hv0] at hg
  rw [applyAll_version fs (fun m hm => registry_migrations.stamps m (List.mem_of_mem_filter hm)) hg,
    migrations_filter_last]
  cases hlast : applies v0 lastMigration with
  | true => rfl
  | false =>
    have he : f.version ≠ "" := fun he => by rw [applies_last_of_empty hv0 he] at hlast; cases hlast
    simp [Function.withDefaultVersion, he]

/-- A success is never below the version `Migrate` started from. -/
theorem migrate_not_below {fs : FileSystem} {f : Function} {v0 : Version}
    (hv0 : semverNew f.withDefaultVersion.version = .ok v0) {g : Function} (hg : f.Migrate fs = .ok g) :
    ∃ w, semverNew g.version = .ok w ∧ ¬ w.lessThan v0 := by
  have hver := migrate_version_eq hv0 hg
  cases hlast : applies v0 lastMigration <;> simp only [hlast, Bool.false_eq_true, if_true,
    if_false] at hver
  · have he : f.version ≠ "" := fun he => by rw [applies_last_of_empty hv0 he] at hlast; cases hlast
    refine ⟨v0, ?_, lessThan_irrefl v0⟩
    simpa [hver, Function.withDefaultVersion, he] using hv0
  · refine ⟨lastThreshold, by rw [hver]; exact semverNew_eq_ok.mpr newVersion_lastMigration, ?_⟩
    exact lessThan_asymm (by rwa [applies_of_newVersion newVersion_lastMigration] at hlast)

/-- A descriptor without a version starts from 0.0.0. -/
theorem start_of_empty {f : Function} {v0 : Version} (hv0 : semverNew f.withDefaultVersion.version = .ok v0)
    (he : f.version = "") : v0 = ⟨0, 0, 0, [], []⟩ := by
  have h := semverNew_eq_ok.mp hv0
  simp only [Function.withDefaultVersion, he, if_true, newVersion_default, Option.some.injEq] at h
  exact h.symm

theorem migrate_applies_newer_thresholds (fs : FileSystem) (f : Function) (v0 : Version)
    (hv0 : semverNew f.withDefaultVersion.version = .ok v0) : MigrateContract fs f v0 :=
  ⟨start_of_empty hv0, migrate_eq_applyAll fs hv0, fun _ => migrate_version_eq hv0, fun _ => migrate_not_below hv0⟩

/-- A descriptor `Migrate` succeeds on had a version that parses, or none. -/
theorem migrate_ok_parses {fs : FileSystem} {f g : Function} (h : f.Migrate fs = .ok g) :
    ∃ v0, semverNew f.withDefaultVersion.version = .ok v0 := by
  by_cases he : f.version = ""
  · exact ⟨_, by simpa [Function.withDefaultVersion, he] using semverNew_eq_ok.mpr newVersion_default⟩
  · cases hv : semverNew f.version with
    | ok v0 => exact ⟨v0, by simpa [Function.withDefaultVersion, he] using hv⟩
    | error e =>
      simp only [Function.Migrate, Function.Migrated, he, if_false,
        show migrations.getLast? = some lastMigration from rfl,
        semverNew_eq_ok.mpr newVersion_lastMigration, except_ok_bind, hv, except_error_bind] at h
      cases h

/-- What `Migrate` returns is migrated. -/
theorem migrated_of_migrate {fs : FileSystem} {f g : Function} (h : f.Migrate fs = .ok g) :
    g.Migrated = .ok true := by
  obtain ⟨v0, hv0⟩ := migrate_ok_parses h
  obtain ⟨w, hw, hnot⟩ := migrate_not_below hv0 h
  have hver := migrate_version_eq hv0 h
  have hgne : g.version ≠ "" := fun he => by rw [he] at hw; cases hw
  have hwlast : applies w lastMigration = false := by
    cases hlast : applies v0 lastMigration <;> simp only [hlast, Bool.false_eq_true, ↓reduceIte] at hver
    · have hfe : f.version ≠ "" := fun he => by rw [applies_last_of_empty hv0 he] at hlast; cases hlast
      have hf : semverNew f.version = .ok v0 := by simpa [Function.withDefaultVersion, hfe] using hv0
      rw [hver, hf] at hw
      cases hw
      exact hlast
    · rw [hver, semverNew_eq_ok, newVersion_lastMigration] at hw
      cases hw
      rw [applies_of_newVersion newVersion_lastMigration]
      simpa using lessThan_irrefl lastThreshold
  have hw' : semverNew g.withDefaultVersion.version = .ok w := by
    simpa [Function.withDefaultVersion, hgne] using hw
  rw [migrated_eq hw', hwlast]
  simp [hgne]

/-- A migrated descriptor is its own `Migrate`. -/
theorem migrate_of_migrated {g : Function} (h : g.Migrated = .ok true) (fs : FileSystem) :
    g.Migrate fs = .ok g := by
  simp only [Function.Migrate, h, except_ok_bind, if_true]
  rfl

theorem migrate_idempotent (fs : FileSystem) (f g : Function) (h : f.Migrate fs = .ok g) :
    g.Migrated = .ok true ∧ ∀ fs', g.Migrate fs' = .ok g :=
  ⟨migrated_of_migrate h, migrate_of_migrated (migrated_of_migrate h)⟩

/-! ## What the 1.0.0 migration overwrites -/

/-- A run that reaches the last migration ends with it. -/
theorem filter_migrations_of_last {v : Version} (h : applies v lastMigration = true) :
    ∃ pre, migrations.filter (applies v) = pre ++ [lastMigration] := by
  have h3 : applies v ⟨"1.0.0", migrateTo100Structure⟩ = true := h
  simp only [migrations, List.filter_cons, h3, if_true, List.filter_nil]
  split <;> split
  exacts [⟨[_, _], rfl⟩, ⟨[_], rfl⟩, ⟨[_], rfl⟩, ⟨[], rfl⟩]

/-- After a run that reaches the 1.0.0 migration, the build section's builder
images are exactly the old file's top-level `builderImages`, whatever an
earlier migration put there. -/
theorem migrate_builderImages_from_file (fs : FileSystem) (f g : Function) (v0 : Version)
    (hv0 : semverNew f.withDefaultVersion.version = .ok v0)
    (hbelow : applies v0 lastMigration = true) (h : f.Migrate fs = .ok g) :
    ∃ old, (readDescriptorDoc fs >>= decodePrevious100) = .ok old ∧
      g.build.builderImages = old.builderImages := by
  rw [migrate_eq_applyAll fs hv0] at h
  obtain ⟨pre, hpre⟩ := filter_migrations_of_last hbelow
  simp only [hpre, applyAll, List.foldlM_append, except_bind_eq_ok, List.foldlM_cons,
    List.foldlM_nil] at h
  obtain ⟨g1, -, g2, hlast, hpure⟩ := h
  cases hpure
  simp only [lastMigration, migrations, List.getLast, migrateTo100Structure, except_bind_eq_ok] at hlast
  obtain ⟨doc, hdoc, old, hold, hg⟩ := hlast
  cases hg
  exact ⟨old, by simp [hdoc, hold], rfl⟩

/-- A descriptor file of version 0.22.0 whose top-level `builder` is a custom
image, and which has no `builderImages`. -/
def oldDescriptor : Yaml :=
  .map [("name", .str "hello"), ("runtime", .str "go"), ("created", .int 1),
    ("version", .str "0.22.0"), ("builder", .str "example.com/custom-builder")]

/-- A project holding `oldDescriptor`. -/
def oldProject : FileSystem :=
  ⟨[([], .dir 1), ([FunctionFile], .file 1 (.yaml oldDescriptor))], 2, by decide, by decide,
    by decide⟩

/-- The descriptor `NewFunction` decodes from `oldDescriptor`, before it migrates. -/
def oldFunction : Function :=
  { Function.zero "/srv/hello" with
    name := "hello"
    runtime := "go"
    created := 1
    version := "0.22.0" }

theorem decodeFunction_oldDescriptor : decodeFunction "/srv/hello" oldDescriptor = .ok oldFunction := by
  decide

/-- On `oldProject`, `migrateToBuilderImages` carries the custom builder forward
as the `pack` builder image; the whole run of `Migrate` returns a descriptor
with no `pack` builder image. -/
theorem migrate_drops_custom_builder :
    (migrateToBuilderImages oldProject oldFunction "0.23.0").map
        (·.build.builderImages.lookup "pack") = .ok (some "example.com/custom-builder") ∧
      (oldFunction.Migrate oldProject).map (·.build.builderImages.lookup "pack") = .ok none := by
  decide

/-- `Migrate`'s contract at `oldFunction`, whose version parses as 0.22.0,
and at `oldFunction` with its version erased, which starts from 0.0.0. -/
theorem migrate_applies_newer_thresholds_old :
    semverNew oldFunction.withDefaultVersion.version = .ok ⟨0, 22, 0, [], []⟩ ∧
      MigrateContract oldProject oldFunction ⟨0, 22, 0, [], []⟩ ∧
      semverNew ({ oldFunction with version := "" } : Function).withDefaultVersion.version =
        .ok ⟨0, 0, 0, [], []⟩ ∧
      MigrateContract oldProject { oldFunction with version := "" } ⟨0, 0, 0, [], []⟩ :=
  ⟨by decide, migrate_applies_newer_thresholds _ _ _ (by decide),
    by decide, migrate_applies_newer_thresholds _ _ _ (by decide)⟩

/-- Idempotence at `oldFunction`, which `Migrate` brings to 1.0.0. -/
theorem migrate_idempotent_old :
    oldFunction.Migrate oldProject = .ok { oldFunction with version := "1.0.0" } ∧
      ({ oldFunction with version := "1.0.0" } : Function).Migrated = .ok true ∧
      ∀ fs', ({ oldFunction with version := "1.0.0" } : Function).Migrate fs' =
        .ok { oldFunction with version := "1.0.0" } :=
  have h : oldFunction.Migrate oldProject = .ok { oldFunction with version := "1.0.0" } := by decide
  ⟨h, migrate_idempotent _ _ _ h⟩

end KnFunc
