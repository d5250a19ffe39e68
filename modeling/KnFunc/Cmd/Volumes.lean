import KnFunc.Client.Load

/-!
# The `config volumes add` and `config volumes remove` commands

Both commands load the descriptor at `--path`, ask the user through
interactive prompts, and persist the descriptor with one volume more or one
less. The prompts are modelled by what they return: an answer, nothing when
the user interrupts them (`terminal.InterruptErr`, which ends the command
without error), or another failure. The clusters' Secrets and ConfigMaps are
what `k8s.ListSecretsNamesIfConnected` and `k8s.ListConfigMapsNamesIfConnected`
return. Listing the volumes only prints, and is left out.

`Volume.String` (in `function.go`) is not among the sources; the removal
command is modelled for any rendering `volumeString` of a volume.

**The laws.**
- `config_volumes_add_appends_one_volume`: whatever the cluster and the user
  answer, `config volumes add` leaves the directory as it was, or loads back
  the descriptor with one volume more, after the others (`AddedFrom`): it is
  mounted at a non-empty absolute path, from a ConfigMap only where the
  cluster listed ConfigMaps, from a Secret only where it listed Secrets, never
  from both, and from one of them when the select prompt answers with a kind it
  offered.
- `volumes_add_then_remove_restores`: adding a volume and then removing the
  one rendered as it loads the descriptor as it was, when no volume already
  there renders alike.

**What it does not establish.** The removal takes the first volume rendered
as the selection, so with two volumes rendered alike, adding one and removing
its rendering takes the older one. The resource selected is whatever the
select prompt returns; that it is one of those the cluster listed is the
prompt's contract, not the command's.
-/

namespace KnFunc

/-- Modelled from the spec: `initConfigCommand` (in `config.go`) is not among
the sources. It loads the descriptor at the path through the migrating loader,
and requires it to be initialized. -/
def initConfigCommand (fs : FileSystem) (path : String) : Except Fault Function := do
  let f ← newFunction fs path
  if !f.Initialized then throw (.error s!"the given path '{path}' does not contain an initialized function")
  pure f

/-- A mount path the input prompt returns: its validator asks again until the
input is a non-empty absolute path, one that is not empty and has the prefix
`/` (`strings.HasPrefix`, a prefix of its characters). -/
structure MountPath where
  path : String
  valid : path ≠ "" ∧ "/".data <+: path.data

/-- The cluster's answers and the user's for `runAddVolumesPrompt`. A prompt
returns an answer, nothing when interrupted, or a failure. -/
structure AddVolumeInput where
  secrets : Except Fault (List String)
  configMaps : Except Fault (List String)
  selectedOption : Except Fault (Option String)
  selectedResource : Except Fault (Option String)
  mountPath : Except Fault (Option MountPath)

/-- `optionConfigMap`. -/
def optionConfigMap : String := "ConfigMap"

/-- `optionSecret`. -/
def optionSecret : String := "Secret"

/-- The kinds of resource the cluster has to mount, in the order the select
prompt offers them. -/
def volumeOptions (secrets configMaps : List String) : List String :=
  (if configMaps.length > 0 then [optionConfigMap] else []) ++
    (if secrets.length > 0 then [optionSecret] else [])

/-- The kind to mount: with none to offer the command ends, a single one is
taken without asking, and between two the select prompt's answer decides. -/
def selectOption (options : List String) (answer : Except Fault (Option String)) :
    Except Fault (Option String) :=
  match options with
  | [] => pure none
  | [o] => pure (some o)
  | _ => answer

/-- The volume `runAddVolumesPrompt` builds from the answers: nothing when
there is nothing to mount or a prompt was interrupted. -/
def addedVolume (input : AddVolumeInput) : Except Fault (Option Volume) := do
  let secrets ← input.secrets
  let configMaps ← input.configMaps
  let some selectedOption ← selectOption (volumeOptions secrets configMaps) input.selectedOption
    | return none
  let some selectedResource ← input.selectedResource | return none
  let some path ← input.mountPath | return none
  if selectedOption = optionConfigMap then return some ⟨none, some selectedResource, some path.path⟩
  if selectedOption = optionSecret then return some ⟨some selectedResource, none, some path.path⟩
  return some ⟨none, none, some path.path⟩

/-- `runAddVolumesPrompt`: the new volume appended, and the descriptor
written. -/
def runAddVolumesPrompt (input : AddVolumeInput) (f : Function) : Act FileSystem Unit :=
  match addedVolume input with
  | .error e => Act.fail e
  | .ok none => pure ()
  | .ok (some v) => ({ f with run.volumes := f.run.volumes ++ [v] } : Function).Write

/-- `runRemoveVolumesPrompt`: the first volume rendered as the selected one
removed, and the descriptor written; nothing is written when no volume is
rendered so. -/
def runRemoveVolumesPrompt (volumeString : Volume → String) (selection : Except Fault (Option String))
    (f : Function) : Act FileSystem Unit :=
  if f.run.volumes = [] then pure () else
  match selection with
  | .error e => Act.fail e
  | .ok none => pure ()
  | .ok (some selectedVolume) =>
    match f.run.volumes.findIdx? (volumeString · == selectedVolume) with
    | some i => ({ f with run.volumes := f.run.volumes.eraseIdx i } : Function).Write
    | none => pure ()

/-- `config volumes add`. -/
def configVolumesAdd (path : String) (input : AddVolumeInput) : Act FileSystem Unit := do
  let f ← Act.read (initConfigCommand · path)
  runAddVolumesPrompt input f

/-- `config volumes remove`. -/
def configVolumesRemove (volumeString : Volume → String) (path : String)
    (selection : Except Fault (Option String)) : Act FileSystem Unit := do
  let f ← Act.read (initConfigCommand · path)
  runRemoveVolumesPrompt volumeString selection f

theorem newFunction_of_initConfigCommand {fs : FileSystem} {path : String} {f : Function}
    (h : initConfigCommand fs path = .ok f) : newFunction fs path = .ok f := by
  unfold initConfigCommand at h
  cases hf : newFunction fs path with
  | error e => simp [hf] at h
  | ok g =>
    simp only [hf, except_ok_bind] at h
    split at h
    · cases h
    · cases h; rfl

theorem initConfigCommand_eq_ok {fs : FileSystem} {path : String} {f : Function} :
    initConfigCommand fs path = .ok f ↔ newFunction fs path = .ok f ∧ f.Initialized = true := by
  unfold initConfigCommand
  cases newFunction fs path with
  | error e => simp
  | ok g =>
    cases hg : g.Initialized <;> simp only [hg, except_ok_bind, Except.ok.injEq, Bool.not_false, Bool.not_true,
      if_true, if_false, Bool.false_eq_true]
    · exact iff_of_false (by rintro ⟨⟩) (by rintro ⟨rfl, h⟩; simp_all)
    · exact ⟨fun h => ⟨Except.ok.inj h, Except.ok.inj h ▸ hg⟩, fun ⟨h, _⟩ => h ▸ rfl⟩

/-! ## What the commands leave in the descriptor -/

/-- What `runAddVolumesPrompt` can add from the answers `input`. -/
structure AddedFrom (input : AddVolumeInput) (v : Volume) : Prop where
  /-- the input prompt's validator: a non-empty absolute path -/
  mountPath : ∃ p, v.path = some p ∧ p ≠ "" ∧ "/".data <+: p.data
  /-- a ConfigMap only where the cluster listed one -/
  configMap : v.configMap.isSome → ∃ configMaps, input.configMaps = .ok configMaps ∧ configMaps ≠ []
  /-- a Secret only where the cluster listed one -/
  secret : v.secret.isSome → ∃ secrets, input.secrets = .ok secrets ∧ secrets ≠ []
  /-- never both -/
  one_source : v.configMap = none ∨ v.secret = none
  /-- and one of them, when the select prompt answers with a kind it offers -/
  has_source : (∀ o, input.selectedOption = .ok (some o) → o = optionConfigMap ∨ o = optionSecret) →
    v.configMap.isSome ∨ v.secret.isSome

/-- A kind is selected only where the cluster has resources of it; without
asking, the kind is one of the two. -/
theorem selectOption_offered {secrets configMaps : List String} {answer : Except Fault (Option String)}
    {o : String} (h : selectOption (volumeOptions secrets configMaps) answer = .ok (some o)) :
    (o = optionConfigMap → configMaps ≠ []) ∧ (o = optionSecret → secrets ≠ []) ∧
      ((∀ o', answer = .ok (some o') → o' = optionConfigMap ∨ o' = optionSecret) →
        o = optionConfigMap ∨ o = optionSecret) := by
  have hne : optionConfigMap ≠ optionSecret := by decide
  rcases configMaps with _ | ⟨c, cs⟩ <;> rcases secrets with _ | ⟨s, ss⟩ <;>
    simp only [volumeOptions, selectOption, List.length_nil, List.length_cons, gt_iff_lt, lt_self_iff_false,
      Nat.zero_lt_succ, if_true, if_false, List.nil_append, List.singleton_append] at h
  · cases h
  · cases h
    exact ⟨fun h => absurd h hne.symm, fun _ => List.cons_ne_nil _ _, fun _ => .inr rfl⟩
  · cases h
    exact ⟨fun _ => List.cons_ne_nil _ _, fun h => absurd h hne, fun _ => .inl rfl⟩
  · exact ⟨fun _ => List.cons_ne_nil _ _, fun _ => List.cons_ne_nil _ _, fun hsel => hsel o h⟩

theorem addedVolume_addedFrom {input : AddVolumeInput} {v : Volume}
    (h : addedVolume input = .ok (some v)) : AddedFrom input v := by
  unfold addedVolume at h
  obtain ⟨secrets, hs, h⟩ := except_bind_eq_ok.mp h
  obtain ⟨configMaps, hc, h⟩ := except_bind_eq_ok.mp h
  obtain ⟨_ | o, ho, h⟩ := except_bind_eq_ok.mp h
  · cases h
  obtain ⟨_ | r, -, h⟩ := except_bind_eq_ok.mp h
  · cases h
  obtain ⟨_ | p, -, h⟩ := except_bind_eq_ok.mp h
  · cases h
  obtain ⟨hcm, hsec, hsrc⟩ := selectOption_offered ho
  have hpath : ∃ q, some p.path = some q ∧ q ≠ "" ∧ "/".data <+: q.data := ⟨p.path, rfl, p.valid⟩
  dsimp only at h
  split at h
  · cases h
    exact ⟨hpath, fun _ => ⟨_, hc, hcm ‹_›⟩, nofun, .inr rfl, fun _ => .inl rfl⟩
  · rw [pure_bind] at h
    split at h
    · cases h
      exact ⟨hpath, nofun, fun _ => ⟨_, hs, hsec ‹_›⟩, .inl rfl, fun _ => .inr rfl⟩
    · rw [pure_bind] at h
      cases h
      exact ⟨hpath, nofun, nofun, .inl rfl, fun hsel => (hsrc hsel).elim (absurd · ‹_›) (absurd · ‹_›)⟩

/-- Where the descriptor loads initialized, the volume the answers give is
written after the others, and loads back so. -/
theorem configVolumesAdd_of_added {path : String} {input : AddVolumeInput} {fs : FileSystem}
    {f : Function} {v : Volume} (hf : initConfigCommand fs path = .ok f)
    (hv : addedVolume input = .ok (some v)) :
    ∃ fs', configVolumesAdd path input fs = (.ok (), fs') ∧
      newFunction fs' path = .ok { f with run.volumes := f.run.volumes ++ [v] } := by
  obtain ⟨hload, hinit⟩ := initConfigCommand_eq_ok.mp hf
  obtain ⟨fs', hw⟩ := write_ok_of_newFunction hload { f with run.volumes := f.run.volumes ++ [v] }
  refine ⟨fs', ?_, newFunction_rewrite hload (migrated_of_initialized hload hinit) rfl rfl hw⟩
  refine Act.read_bind_eq_ok.mpr ⟨f, hf, ?_⟩
  rw [runAddVolumesPrompt, hv]
  exact hw

theorem config_volumes_add_appends_one_volume (path : String) (input : AddVolumeInput) (fs : FileSystem) :
    (configVolumesAdd path input fs).2 = fs ∨
      ∃ f v, initConfigCommand fs path = .ok f ∧ AddedFrom input v ∧
        newFunction (configVolumesAdd path input fs).2 path = .ok { f with run.volumes := f.run.volumes ++ [v] } := by
  cases hf : initConfigCommand fs path with
  | error e => exact .inl (by rw [configVolumesAdd, Act.bind_apply, Act.read_apply, hf])
  | ok f =>
    cases hv : addedVolume input with
    | error e => exact .inl (by rw [configVolumesAdd, Act.bind_apply, Act.read_apply, hf]; simp [runAddVolumesPrompt, hv])
    | ok v =>
      rcases v with _ | v
      · exact .inl (by rw [configVolumesAdd, Act.bind_apply, Act.read_apply, hf]; simp [runAddVolumesPrompt, hv])
      · obtain ⟨fs', hadd, hload⟩ := configVolumesAdd_of_added hf hv
        rw [hadd]
        exact .inr ⟨f, v, rfl, addedVolume_addedFrom hv, hload⟩

/-- Where the descriptor loads initialized and a volume renders as the
selection, the first such volume is removed, and the descriptor loads back
without it. -/
theorem configVolumesRemove_of_found {volumeString : Volume → String} {path s : String} {fs : FileSystem}
    {f : Function} {i : Nat} (hf : initConfigCommand fs path = .ok f)
    (hi : f.run.volumes.findIdx? (volumeString · == s) = some i) :
    ∃ fs', configVolumesRemove volumeString path (.ok (some s)) fs = (.ok (), fs') ∧
      newFunction fs' path = .ok { f with run.volumes := f.run.volumes.eraseIdx i } := by
  obtain ⟨hload, hinit⟩ := initConfigCommand_eq_ok.mp hf
  obtain ⟨fs', hw⟩ := write_ok_of_newFunction hload { f with run.volumes := f.run.volumes.eraseIdx i }
  refine ⟨fs', ?_, newFunction_rewrite hload (migrated_of_initialized hload hinit) rfl rfl hw⟩
  have hne : f.run.volumes ≠ [] := by
    rintro hnil
    rw [hnil] at hi
    cases hi
  refine Act.read_bind_eq_ok.mpr ⟨f, hf, ?_⟩
  rw [runRemoveVolumesPrompt, if_neg hne]
  dsimp only
  rw [hi]
  exact hw

theorem volumes_add_then_remove_restores (volumeString : Volume → String) (path : String)
    (input : AddVolumeInput) {fs : FileSystem} {f : Function} {v : Volume}
    (hf : initConfigCommand fs path = .ok f) (hv : addedVolume input = .ok (some v))
    (hfresh : ∀ w ∈ f.run.volumes, volumeString w ≠ volumeString v) :
    newFunction (configVolumesRemove volumeString path (.ok (some (volumeString v)))
      (configVolumesAdd path input fs).2).2 path = .ok f := by
  obtain ⟨fs1, hadd, hload1⟩ := configVolumesAdd_of_added hf hv
  have hf1 : initConfigCommand fs1 path = .ok { f with run.volumes := f.run.volumes ++ [v] } :=
    initConfigCommand_eq_ok.mpr ⟨hload1, (initConfigCommand_eq_ok.mp hf).2⟩
  -- the added volume is the first to render as itself
  have hi : (f.run.volumes ++ [v]).findIdx? (volumeString · == volumeString v) = some f.run.volumes.length := by
    have hnone : f.run.volumes.findIdx? (volumeString · == volumeString v) = none :=
      List.findIdx?_eq_none_iff.mpr fun w hw => by simpa using hfresh w hw
    simp [List.findIdx?_append, hnone]
  obtain ⟨fs2, hrem, hload2⟩ := configVolumesRemove_of_found hf1 hi
  have herase : (f.run.volumes ++ [v]).eraseIdx f.run.volumes.length = f.run.volumes := by
    rw [List.eraseIdx_append_of_length_le le_rfl, Nat.sub_self]
    exact List.append_nil _
  rw [hadd, hrem, hload2]
  simp only [herase]

/-- A function with a Secret mounted at `/etc/db`. -/
def mountingFunction : Function :=
  { Function.zero "" with
    name := "demo", runtime := "go", created := 1, version := "1.0.0",
    run.volumes := [⟨some "db-creds", none, some "/etc/db"⟩] }

/-- A project holding `mountingFunction`. -/
def mountingProject : FileSystem where
  entries := [([], .dir 1), ([FunctionFile], .file 1 (.yaml (encodeFunction mountingFunction)))]
  now := 2
  nodup := by decide
  parent_dir := by decide
  valid_names := by decide

/-- A cluster with a Secret and a ConfigMap; the user mounts the ConfigMap
at `/etc/config`. -/
def configMapInput : AddVolumeInput :=
  ⟨.ok ["db-creds"], .ok ["app-config"], .ok (some optionConfigMap), .ok (some "app-config"),
    .ok (some ⟨"/etc/config", by decide⟩)⟩

/-- Mounting the ConfigMap and removing the volume rendered by its mount
path loads the function as it was. -/
theorem mount_then_unmount_config_map :
    initConfigCommand mountingProject "/srv/demo" = .ok { mountingFunction with root := "/srv/demo" } ∧
      addedVolume configMapInput = .ok (some ⟨none, some "app-config", some "/etc/config"⟩) ∧
      (∀ w ∈ mountingFunction.run.volumes, w.path.getD "" ≠ "/etc/config") ∧
      newFunction (configVolumesRemove (·.path.getD "") "/srv/demo" (.ok (some "/etc/config"))
        (configVolumesAdd "/srv/demo" configMapInput mountingProject).2).2 "/srv/demo" =
        .ok { mountingFunction with root := "/srv/demo" } :=
  have hf : initConfigCommand mountingProject "/srv/demo" = .ok { mountingFunction with root := "/srv/demo" } :=
    initConfigCommand_eq_ok.mpr ⟨newFunction_of_file "/srv/demo" rfl (by decide), rfl⟩
  have hv : addedVolume configMapInput = .ok (some ⟨none, some "app-config", some "/etc/config"⟩) := by decide
  have hfresh : ∀ w ∈ mountingFunction.run.volumes, w.path.getD "" ≠ "/etc/config" := by decide
  ⟨hf, hv, hfresh, volumes_add_then_remove_restores (·.path.getD "") "/srv/demo" configMapInput hf hv hfresh⟩

end KnFunc
