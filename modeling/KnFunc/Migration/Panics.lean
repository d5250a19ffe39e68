import KnFunc.Migration.Chain

/-!
# When the migration engine panics

`Migrated` and `Migrate` read versions with `semver.New`, which panics on a
string `NewVersion` rejects; nothing validates a descriptor's `version`
before it gets there, and the field is a plain string in `func.yaml`, which
anyone may edit. Every other failure on the way is an `error`: the migrators
fail only when the descriptor file cannot be read or decoded, and the
registry's own thresholds parse.

**The law** (`migrate_panics_exactly_on_malformed_version`): on a descriptor
whose version is neither empty nor a semantic version, `Migrated` and
`Migrate` panic with the error `NewVersion` returns for it (`Must` panics with
the error itself); on any other descriptor they
never panic: `Migrated` returns its answer, and `Migrate` a descriptor or an
`error`.

**What it does not establish.** A malformed version is not reported as an
`error` anywhere: the panic is the only outcome, on `1.0`, `v1.0.0` and
`latest` alike (`migrate_panics_on_hand_edited_versions`).
-/

namespace KnFunc

open Semver

/-- Whether a Go call panicked, rather than returning a value or an `error`. -/
def panics {α : Type} : Except Fault α → Bool
  | .error (.panic _) => true
  | _ => false

/-! ## Calls that do not panic -/

section NoPanic

variable {α β : Type}

@[simp] theorem panics_ok (a : α) : panics (.ok a : Except Fault α) = false := rfl

@[simp] theorem panics_pure (a : α) : panics (pure a : Except Fault α) = false := rfl

@[simp] theorem panics_error (msg : String) : panics (.error (.error msg) : Except Fault α) = false :=
  rfl

/-- A sequence panics only where one of its steps does. -/
@[simp] theorem panics_bind_eq_false {x : Except Fault α} {f : α → Except Fault β} :
    panics (x >>= f) = false ↔ panics x = false ∧ ∀ a, x = .ok a → panics (f a) = false := by
  rcases x with (_ | _) | _ <;> simp [panics]

/-- The rule the decoders are checked by: a step that cannot panic, followed
by steps none of which can. -/
theorem panics_bind_of {x : Except Fault α} {f : α → Except Fault β} (hx : panics x = false)
    (hf : ∀ a, panics (f a) = false) : panics (x >>= f) = false :=
  panics_bind_eq_false.mpr ⟨hx, fun a _ => hf a⟩

@[simp] theorem panics_map (f : α → β) (x : Except Fault α) : panics (f <$> x) = panics x := by
  rcases x with (_ | _) | _ <;> rfl

theorem panics_mapM {f : α → Except Fault β} :
    ∀ {l : List α}, (∀ a ∈ l, panics (f a) = false) → panics (l.mapM f) = false
  | [], _ => rfl
  | a :: l, h => by
    rw [List.mapM_cons]
    exact panics_bind_of (h a (List.mem_cons_self a l)) fun _ =>
      panics_bind_of (panics_mapM fun b hb => h b (List.mem_cons_of_mem a hb)) fun _ => rfl

end NoPanic

/-! ## The decoders -/

@[simp] theorem panics_decodeString (y : Option Yaml) : panics (decodeString y) = false := by
  unfold decodeString; split <;> rfl

@[simp] theorem panics_decodeOptString (y : Option Yaml) : panics (decodeOptString y) = false := by
  unfold decodeOptString; split <;> simp

@[simp] theorem panics_decodeOpaque (y : Option Yaml) : panics (decodeOpaque y) = false := rfl

theorem panics_decodeList {α : Type} {item : Yaml → Except Fault α}
    (hitem : ∀ y, panics (item y) = false) (y : Option Yaml) : panics (decodeList item y) = false := by
  unfold decodeList
  split
  · rfl
  · exact panics_mapM fun i _ => hitem i
  · rfl

@[simp] theorem panics_decodeStringMap (y : Option Yaml) : panics (decodeStringMap y) = false := by
  unfold decodeStringMap
  split
  · rfl
  · exact panics_mapM fun _ _ => by simp
  · rfl

@[simp] theorem panics_decodeEnv (y : Yaml) : panics (decodeEnv y) = false := by
  cases y <;> simp [decodeEnv, unmarshalError]

@[simp] theorem panics_decodeVolume (y : Yaml) : panics (decodeVolume y) = false := by
  cases y <;> simp [decodeVolume, unmarshalError]

theorem panics_readDescriptorDoc (fs : FileSystem) : panics (readDescriptorDoc fs) = false := by
  unfold readDescriptorDoc FileSystem.readFile
  rcases fs.lookup [FunctionFile] with _ | ⟨_, _ | _⟩ | _ <;> rfl

theorem panics_decodeBuilderImagesPrevious (y : Yaml) : panics (decodeBuilderImagesPrevious y) = false := by
  cases y with
  | map _ => simp [decodeBuilderImagesPrevious]
  | _ => rfl

/-- The old schema is decoded field by field, and no field's decoder panics. -/
theorem panics_decodePrevious100 (y : Yaml) : panics (decodePrevious100 y) = false := by
  cases y with
  | map _ =>
    simp only [decodePrevious100]
    repeat refine panics_bind_of (by simp [panics_decodeList]) fun _ => ?_
    rfl
  | _ => rfl

/-! ## The migrators -/

theorem panics_migration {m : Migration} (hm : m ∈ migrations) (fs : FileSystem) (f : Function)
    (v : String) : panics (m.migrate fs f v) = false := by
  simp only [migrations, List.mem_cons, List.mem_singleton, List.not_mem_nil, or_false] at hm
  rcases hm with rfl | rfl | rfl
  · rfl
  · exact panics_bind_of (panics_readDescriptorDoc fs) fun doc =>
      panics_bind_of (panics_decodeBuilderImagesPrevious doc) fun _ => rfl
  · exact panics_bind_of (panics_readDescriptorDoc fs) fun doc =>
      panics_bind_of (panics_decodePrevious100 doc) fun _ => rfl

/-- A run of registered migrations panics nowhere. -/
theorem panics_applyAll (fs : FileSystem) :
    ∀ {ms : List Migration}, ms ⊆ migrations → ∀ f, panics (applyAll fs ms f) = false
  | [], _, _ => rfl
  | m :: ms, hms, f => by
    simp only [applyAll, List.foldlM_cons]
    exact panics_bind_of (panics_migration (hms (List.mem_cons_self m ms)) fs f m.version)
      fun g => panics_applyAll fs (fun x hx => hms (List.mem_cons_of_mem m hx)) g

/-! ## `Migrated` and `Migrate` -/

theorem semverNew_lastMigration : semverNew lastMigration.version = .ok lastThreshold :=
  semverNew_eq_ok.mpr newVersion_lastMigration

/-- On a malformed version, `Migrated` panics where `semver.New` reads it,
with `NewVersion`'s error. -/
theorem migrated_of_malformed {f : Function} {e : String} (hne : f.version ≠ "")
    (hbad : parseVersion f.version = .error e) : f.Migrated = .error (.panic e) := by
  have hlast : migrations.getLast? = some lastMigration := rfl
  simp only [Function.Migrated, if_neg hne, hlast, semverNew_lastMigration, except_ok_bind]
  simp only [semverNew, hbad]
  rfl

/-- The version `Migrate` starts its loop from parses, unless it is malformed. -/
theorem withDefaultVersion_parses {f : Function} (hf : f.version = "" ∨ (newVersion f.version).isSome) :
    ∃ v0, semverNew f.withDefaultVersion.version = .ok v0 := by
  unfold Function.withDefaultVersion
  split
  · exact ⟨_, semverNew_eq_ok.mpr newVersion_default⟩
  · rename_i hne
    obtain ⟨v0, hv0⟩ := Option.isSome_iff_exists.mp (hf.resolve_left hne)
    exact ⟨v0, semverNew_eq_ok.mpr hv0⟩

theorem migrate_panics_exactly_on_malformed_version (fs : FileSystem) (f : Function) :
    (f.version ≠ "" → ∀ e, parseVersion f.version = .error e →
      f.Migrated = .error (.panic e) ∧ f.Migrate fs = .error (.panic e)) ∧
    (f.version = "" ∨ (newVersion f.version).isSome →
      (∃ b, f.Migrated = .ok b) ∧ panics (f.Migrate fs) = false) := by
  refine ⟨fun hne e hbad => ?_, fun hf => ?_⟩
  · have hmigrated := migrated_of_malformed hne hbad
    refine ⟨hmigrated, ?_⟩
    simp only [Function.Migrate, hmigrated]
    rfl
  · obtain ⟨v0, hv0⟩ := withDefaultVersion_parses hf
    exact ⟨⟨_, migrated_eq hv0⟩, by
      rw [migrate_eq_applyAll fs hv0]
      exact panics_applyAll fs (List.filter_subset' _) _⟩

/-- The three hand edits the version field is likely to see: `NewVersion`
rejects each, and `Migrate` panics on each with its error. -/
theorem migrate_panics_on_hand_edited_versions :
    ({ oldFunction with version := "1.0" } : Function).Migrate oldProject =
        .error (.panic "1.0 is not in dotted-tri format") ∧
      ({ oldFunction with version := "v1.0.0" } : Function).Migrate oldProject =
        .error (.panic "strconv.ParseInt: parsing \"v1\": invalid syntax") ∧
      ({ oldFunction with version := "latest" } : Function).Migrate oldProject =
        .error (.panic "latest is not in dotted-tri format") :=
  ⟨rfl, rfl, rfl⟩

end KnFunc
