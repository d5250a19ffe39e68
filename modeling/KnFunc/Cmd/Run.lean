import KnFunc.Client.Create

/-!
# The `run` command

`runRun` (in `cmd/run.go`) loads the descriptor at `--path`, merges the
`--env` updates and removals into it, persists it when the merge changed
anything, refuses a descriptor that is not initialized, builds when
`--build` asks for it (or, on `auto`, when the function does not read as
built), and runs it.

**What is proved.** On a directory whose descriptor is not initialized,
`runRun` fails, whatever the flags, and when the merge changed nothing it
leaves the directory as it was (`runRun_uninitialized`). When it did change
something, the descriptor is written first and checked after; every `--env`
update counts as a change (`le_mergeEnvs_count`), so an update in a directory
with no function writes a descriptor there before the run fails
(`runRun_writes_descriptor_into_uninitialized_dir`). `Client.Run` makes the
same check before it writes anything.
-/

namespace KnFunc

/-- `runConfig`, with the `--env` flags already split into updates and
removals. The updates are a `util.OrderedMap`: each name once. -/
structure RunConfig where
  path : String
  envToUpdate : List (String × String)
  envToRemove : List String
  build : String
  registry : String
  updates_nodup : (envToUpdate.map Prod.fst).Nodup

/-- One `NAME=VALUE` update: the variable's value replaced where the
descriptor has it, else the variable appended; one change either way. -/
def setEnv (acc : List Env × Nat) (kv : String × String) : List Env × Nat :=
  if acc.1.any (·.name == some kv.1) then
    (acc.1.map fun e => if e.name = some kv.1 then ⟨some kv.1, some kv.2⟩ else e, acc.2 + 1)
  else (acc.1 ++ [⟨some kv.1, some kv.2⟩], acc.2 + 1)

/-- One `NAME-` removal: the variable dropped, one change if it was there. -/
def unsetEnv (acc : List Env × Nat) (name : String) : List Env × Nat :=
  if acc.1.any (·.name == some name) then (acc.1.filter (·.name != some name), acc.2 + 1) else acc

/-- Modelled from the spec: `mergeEnvs` (in `root.go`) is not among the
sources. As the `--env` flag's help says, each `NAME=VALUE` sets `NAME` and
each `NAME-` unsets it; the count is of the variables set or unset. -/
def mergeEnvs (envs : List Env) (envToUpdate : List (String × String)) (envToRemove : List String) :
    List Env × Nat :=
  envToRemove.foldl unsetEnv (envToUpdate.foldl setEnv (envs, 0))

/-- `strconv.ParseBool`. -/
def parseBool : String → Option Bool
  | "1" | "t" | "T" | "TRUE" | "true" | "True" => some true
  | "0" | "f" | "F" | "FALSE" | "false" | "False" => some false
  | _ => none

/-- The error `runRun` returns on a descriptor that is not initialized. -/
def notInitialized (path : String) : Fault :=
  .error s!"the given path '{path}' does not contain an initialized function"

/-- The error for a `--build` value `ParseBool` rejects. The value printed is
the `bool` `ParseBool` returned with its error, which is `false`, not the
flag's text. -/
def invalidBuild : Fault :=
  .error "invalid value for --build 'false'.  accepts 'auto', 'true' or 'false' (or similarly truthy value)"

/-- The "Build?" part of `runRun`: on `auto`, build when the function at
`root` does not read as built; otherwise build when `--build` parses as true. -/
def buildIfRequested (sha256 : List Char → String) (client : Client) (config : RunConfig)
    (root : String) : Act FileSystem Unit :=
  if config.build = "auto" then do
    if !(← Act.read fun fs => .ok (Client.Built sha256 root fs)) then
      client.Build sha256 config.path
  else
    match parseBool config.build with
    | none => Act.fail invalidBuild
    | some true => client.Build sha256 config.path
    | some false => pure ()

/-- `runRun`, up to the job it starts: waiting on the job and stopping it are
not modelled. The client is the one `newClient` makes for the configured
registry. -/
def runRun (sha256 : List Char → String) (c : Client) (config : RunConfig) : Act FileSystem Job := do
  let function ← Act.read (newFunction · config.path)
  let (envs, updated) := mergeEnvs function.run.envs config.envToUpdate config.envToRemove
  let function := { function with run.envs := envs }
  if updated > 0 then
    function.Write
  if !function.Initialized then
    Act.fail (notInitialized config.path)
  let client := { c with registry := config.registry }
  buildIfRequested sha256 client config function.root
  client.Run config.path

/-! ## The merge -/

theorem setEnv_count (acc : List Env × Nat) (kv : String × String) :
    (setEnv acc kv).2 = acc.2 + 1 := by
  unfold setEnv
  split <;> rfl

theorem le_unsetEnv_count (acc : List Env × Nat) (name : String) : acc.2 ≤ (unsetEnv acc name).2 := by
  unfold unsetEnv
  split
  · exact Nat.le_succ _
  · exact le_rfl

/-- **Every update counts**: the merge reports at least as many changes as
there are `NAME=VALUE` updates. -/
theorem le_mergeEnvs_count (envs : List Env) (envToUpdate : List (String × String))
    (envToRemove : List String) : envToUpdate.length ≤ (mergeEnvs envs envToUpdate envToRemove).2 := by
  have hset : ∀ (kvs : List (String × String)) (acc : List Env × Nat),
      (kvs.foldl setEnv acc).2 = acc.2 + kvs.length := by
    intro kvs
    induction kvs with
    | nil => intro acc; rfl
    | cons kv rest ih => intro acc; rw [List.foldl_cons, ih, setEnv_count, List.length_cons]; omega
  have hunset : ∀ (names : List String) (acc : List Env × Nat), acc.2 ≤ (names.foldl unsetEnv acc).2 := by
    intro names
    induction names with
    | nil => intro acc; exact le_rfl
    | cons name rest ih => intro acc; exact (le_unsetEnv_count acc name).trans (ih _)
  calc envToUpdate.length = (envToUpdate.foldl setEnv (envs, 0)).2 := by rw [hset]; simp
    _ ≤ (mergeEnvs envs envToUpdate envToRemove).2 := hunset _ _

/-! ## A directory without an initialized function -/

/-- The merge changes neither name nor runtime, so whether the descriptor is
initialized is decided before it. -/
theorem initialized_mergeEnvs (f : Function) (envs : List Env) :
    ({ f with run.envs := envs } : Function).Initialized = f.Initialized := rfl

/-- **On a directory without an initialized function the run fails**, after
writing the merged descriptor back when the merge changed anything: it leaves
the directory as it was when it changed nothing, and a descriptor file when
there was an `--env` update. -/
theorem runRun_uninitialized {sha256 : List Char → String} {c : Client} {config : RunConfig}
    {fs : FileSystem} {f : Function} (hf : newFunction fs config.path = .ok f)
    (hinit : f.Initialized = false) :
    (runRun sha256 c config fs).1 = .error (notInitialized config.path) ∧
      ((mergeEnvs f.run.envs config.envToUpdate config.envToRemove).2 = 0 → (runRun sha256 c config fs).2 = fs) ∧
      (config.envToUpdate ≠ [] → ((runRun sha256 c config fs).2.lookup [FunctionFile]).isSome) := by
  have hread : Act.read (newFunction · config.path) fs = (.ok f, fs) := by rw [Act.read_apply, hf]
  have hni : (!({ f with run.envs := (mergeEnvs f.run.envs config.envToUpdate config.envToRemove).1 } :
      Function).Initialized) = true := by
    rw [initialized_mergeEnvs, hinit]; rfl
  rw [runRun, Act.bind_of_ok hread]
  dsimp only
  by_cases hupdated : (mergeEnvs f.run.envs config.envToUpdate config.envToRemove).2 > 0
  · obtain ⟨fs', hw⟩ := write_ok_of_newFunction hf
      { f with run.envs := (mergeEnvs f.run.envs config.envToUpdate config.envToRemove).1 }
    rw [if_pos hupdated, Act.bind_of_ok hw, if_pos hni]
    have hfile : (fs'.lookup [FunctionFile]).isSome := by
      rw [(FileSystem.writeFile_frame (Act.update_eq_ok.mp hw)).2.1]
      rfl
    exact ⟨rfl, fun h => absurd h (Nat.pos_iff_ne_zero.mp hupdated), fun _ => hfile⟩
  · rw [if_neg hupdated, if_pos hni]
    -- every update counts as a change, so there was none
    exact ⟨rfl, fun _ => rfl, fun hne =>
      absurd ((List.length_pos.mpr hne).trans_le (le_mergeEnvs_count _ _ _)) hupdated⟩

/-! ## A run that starts its job -/

/-- What a run that started its job did: loaded an initialized descriptor,
wrote it back when the merge changed it, built when asked, and ran. -/
theorem runRun_eq_ok {sha256 : List Char → String} {c : Client} {config : RunConfig}
    {fs fs' : FileSystem} {job : Job} (h : runRun sha256 c config fs = (.ok job, fs')) :
    ∃ f fsw fsb, newFunction fs config.path = .ok f ∧ f.Initialized = true ∧
      (fsw = fs ∨ ({ f with run.envs := (mergeEnvs f.run.envs config.envToUpdate config.envToRemove).1 } :
        Function).Write fs = (.ok (), fsw)) ∧
      buildIfRequested sha256 { c with registry := config.registry } config f.root fsw = (.ok (), fsb) ∧
      Client.Run { c with registry := config.registry } config.path fsb = (.ok job, fs') := by
  obtain ⟨f, hf, h⟩ := Act.read_bind_eq_ok.mp h
  dsimp only at h
  -- the merged descriptor is written back only when the merge changed it
  obtain ⟨fsw, hw, h⟩ : ∃ fsw, (fsw = fs ∨ ({ f with run.envs :=
      (mergeEnvs f.run.envs config.envToUpdate config.envToRemove).1 } : Function).Write fs = (.ok (), fsw)) ∧
      _ := by
    split at h
    · obtain ⟨_, fsw, hw, h⟩ := Act.bind_eq_ok.mp h
      exact ⟨fsw, .inr hw, h⟩
    · exact ⟨fs, .inl rfl, h⟩
  split at h
  · rw [Act.fail_bind] at h
    cases h
  · rename_i hinit
    rw [pure_bind] at h
    obtain ⟨_, fsb, hb, h⟩ := Act.bind_eq_ok.mp h
    refine ⟨f, fsw, fsb, hf, ?_, hw, hb, h⟩
    simpa only [initialized_mergeEnvs, Bool.not_eq_true', Bool.not_eq_false] using hinit

/-- `run --env FOO=bar` in the directory `/srv`. -/
def fooConfig : RunConfig := ⟨"/srv", [("FOO", "bar")], [], "auto", "quay.io/myuser", by decide⟩

/-- In the empty directory `/srv` the run fails as on any directory without a
function, but only after it has written a descriptor there. The client plays
no part: the run fails before it is used. -/
theorem runRun_writes_descriptor_into_uninitialized_dir :
    Client.emptyDirectory.lookup [FunctionFile] = none ∧
      (runRun String.mk Client.failingTemplatesClient fooConfig Client.emptyDirectory).1 =
        .error (notInitialized "/srv") ∧
      ((runRun String.mk Client.failingTemplatesClient fooConfig Client.emptyDirectory).2.lookup [FunctionFile]).isSome :=
  have hf : newFunction Client.emptyDirectory fooConfig.path = .ok (Function.zero "/srv") := by decide
  have h := @runRun_uninitialized String.mk Client.failingTemplatesClient _ _ _ hf (by decide)
  ⟨by decide, h.1, h.2.2 (by decide)⟩

end KnFunc
