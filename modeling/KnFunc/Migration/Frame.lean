import KnFunc.Migration.Chain

/-!
# What the migrations leave alone

Each migrator changes the version, the build and run sections and, for a
descriptor that predates the creation stamp, the stamp; nothing else.

**The law** (`migrate_keeps`, spelled out field by field in
`migrate_changes_only_what_migrations_own`): `Migrate` keeps a descriptor's
root, name, runtime, template, image and image digest, keeps a creation stamp
once set, and stamps only a descriptor with a name and a runtime, so a new
in-memory descriptor is never marked as created. `Function.Keeps` is the
frame, closed under composition, so the law for the loop is the law for each
migrator. The operations that load a descriptor and write it back rely on
this: what they load has the image and the stamp the file had.

**What it does not establish.** The build and run sections are not kept: the
1.0.0 migration rebuilds them from the file, and can drop what an earlier
migration set (`migrate_drops_custom_builder`).
-/

namespace KnFunc

/-- What a migration keeps of a descriptor `f` in `g`. -/
structure Function.Keeps (f g : Function) : Prop where
  root : g.root = f.root
  name : g.name = f.name
  runtime : g.runtime = f.runtime
  template : g.template = f.template
  image : g.image = f.image
  imageDigest : g.imageDigest = f.imageDigest
  created : f.created ≠ 0 → g.created = f.created
  stamped : g.created ≠ 0 → f.created ≠ 0 ∨ (f.name ≠ "" ∧ f.runtime ≠ "")

namespace Function.Keeps

theorem refl (f : Function) : f.Keeps f :=
  ⟨rfl, rfl, rfl, rfl, rfl, rfl, fun _ => rfl, .inl⟩

theorem trans {f g h : Function} (hfg : f.Keeps g) (hgh : g.Keeps h) : f.Keeps h where
  root := hgh.root.trans hfg.root
  name := hgh.name.trans hfg.name
  runtime := hgh.runtime.trans hfg.runtime
  template := hgh.template.trans hfg.template
  image := hgh.image.trans hfg.image
  imageDigest := hgh.imageDigest.trans hfg.imageDigest
  created hf := (hgh.created (hfg.created hf ▸ hf)).trans (hfg.created hf)
  stamped hh := (hgh.stamped hh).elim hfg.stamped fun hg => .inr ⟨hfg.name ▸ hg.1, hfg.runtime ▸ hg.2⟩

/-- Changing the version, the build section or the run section keeps the rest. -/
theorem of_sections (f : Function) (v : String) (b : BuildSpec) (r : RunSpec) :
    f.Keeps { f with version := v, build := b, run := r } :=
  ⟨rfl, rfl, rfl, rfl, rfl, rfl, fun _ => rfl, .inl⟩

end Function.Keeps

theorem migrateToCreationStamp_keeps {fs : FileSystem} {f g : Function} {v : String}
    (h : migrateToCreationStamp fs f v = .ok g) : f.Keeps g := by
  cases h
  split
  · rename_i hstamp
    exact ⟨rfl, rfl, rfl, rfl, rfl, rfl, fun hf => absurd hstamp.1 hf, fun _ => .inr hstamp.2⟩
  · exact Function.Keeps.of_sections f v f.build f.run

theorem migrateToBuilderImages_keeps {fs : FileSystem} {f g : Function} {v : String}
    (h : migrateToBuilderImages fs f v = .ok g) : f.Keeps g := by
  simp only [migrateToBuilderImages, except_bind_eq_ok] at h
  obtain ⟨_, _, _, _, h⟩ := h
  cases h
  split
  · exact Function.Keeps.of_sections f v _ f.run
  · exact Function.Keeps.of_sections f v f.build f.run

theorem migrateTo100Structure_keeps {fs : FileSystem} {f g : Function} {v : String}
    (h : migrateTo100Structure fs f v = .ok g) : f.Keeps g := by
  simp only [migrateTo100Structure, except_bind_eq_ok] at h
  obtain ⟨_, _, _, _, h⟩ := h
  cases h
  exact Function.Keeps.of_sections f v _ _

theorem migrations_keep {m : Migration} (hm : m ∈ migrations) {fs : FileSystem} {f g : Function}
    (h : m.migrate fs f m.version = .ok g) : f.Keeps g := by
  simp only [migrations, List.mem_cons, List.mem_singleton, List.not_mem_nil, or_false] at hm
  rcases hm with rfl | rfl | rfl
  · exact migrateToCreationStamp_keeps h
  · exact migrateToBuilderImages_keeps h
  · exact migrateTo100Structure_keeps h

theorem migrateLoop_keeps (fs : FileSystem) :
    ∀ {ms : List Migration}, ms ⊆ migrations → ∀ {f g : Function},
      Function.migrateLoop fs ms f = .ok g → f.Keeps g
  | [], _, _, _, h => by cases h; exact .refl _
  | m :: ms, hms, f, g, h => by
    simp only [Function.migrateLoop, except_bind_eq_ok] at h
    obtain ⟨_, _, _, _, h⟩ := h
    have hrest : ms ⊆ migrations := fun x hx => hms (List.mem_cons_of_mem m hx)
    split at h
    · exact migrateLoop_keeps fs hrest h
    · obtain ⟨f1, h1, h2⟩ := except_bind_eq_ok.mp h
      exact (migrations_keep (hms (List.mem_cons_self m ms)) h1).trans (migrateLoop_keeps fs hrest h2)

/-- **`Migrate` keeps the descriptor** but for its version, build and run
sections, and a creation stamp it adds to a named descriptor with a runtime. -/
theorem migrate_keeps {fs : FileSystem} {f g : Function} (h : f.Migrate fs = .ok g) : f.Keeps g := by
  simp only [Function.Migrate, except_bind_eq_ok] at h
  obtain ⟨migrated, -, h⟩ := h
  split at h
  · cases h; exact .refl _
  · rw [pure_bind] at h
    have hdef : f.Keeps f.withDefaultVersion := by
      unfold Function.withDefaultVersion
      split
      · exact Function.Keeps.of_sections f _ f.build f.run
      · exact .refl _
    exact hdef.trans (migrateLoop_keeps fs (List.Subset.refl _) h)

theorem migrate_changes_only_what_migrations_own {fs : FileSystem} {f g : Function}
    (h : f.Migrate fs = .ok g) :
    g.name = f.name ∧ g.root = f.root ∧ g.runtime = f.runtime ∧ g.template = f.template ∧
      g.image = f.image ∧ g.imageDigest = f.imageDigest ∧ (f.created ≠ 0 → g.created = f.created) ∧
      (g.created ≠ 0 → f.created ≠ 0 ∨ (f.name ≠ "" ∧ f.runtime ≠ "")) :=
  have hk := migrate_keeps h
  ⟨hk.name, hk.root, hk.runtime, hk.template, hk.image, hk.imageDigest, hk.created, hk.stamped⟩

/-- `oldFunction` as a descriptor from before versions and creation stamps:
a name and a runtime, no stamp, no version. -/
def unstampedFunction : Function := { oldFunction with created := 0, version := "" }

/-- `Migrate` stamps `unstampedFunction` with the clock of `oldProject`, 2,
which its name and runtime allow. -/
theorem migrate_stamps_unstamped_function :
    unstampedFunction.Migrate oldProject = .ok { oldFunction with created := 2, version := "1.0.0" } ∧
      (({ oldFunction with created := 2, version := "1.0.0" } : Function).created ≠ 0 →
        unstampedFunction.created ≠ 0 ∨
          (unstampedFunction.name ≠ "" ∧ unstampedFunction.runtime ≠ "")) :=
  have h : unstampedFunction.Migrate oldProject =
      .ok { oldFunction with created := 2, version := "1.0.0" } := by decide
  ⟨h, (migrate_changes_only_what_migrations_own h).2.2.2.2.2.2.2⟩

end KnFunc
