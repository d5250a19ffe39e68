import Mathlib.Data.List.Nodup
import KnFunc.Yaml.Node

/-!
# The project directory, as the client's `os` calls see it

Every lifecycle operation works on one project directory: it reads and writes
the descriptor file and the `.func` run-data directory there, and the
staleness engine walks all of it. `FileSystem` is that directory: each entry
keyed by its path below the root (the root itself is `[]`), with the
modification time `os.Lstat` reports, plus the clock `time.Now()` reads and
every write stamps.

The structure carries the shape every real directory has, so a malformed one
cannot be built: no path is listed twice, every entry below the root sits in a
listed directory, and every name is one a directory can hold (no `/`, not `.`
or `..`). The writes below keep it, and they follow POSIX on modification
times: rewriting a file stamps the file, creating an entry stamps the entry
and the directory it was created in.
-/

namespace KnFunc

/-- What a regular file holds: text, or bytes that parse as a YAML document. -/
inductive Content where
  | text (s : String)
  | yaml (doc : Yaml)
  deriving DecidableEq

/-- A directory entry, as `os.Lstat` reports it. -/
inductive Entry where
  | file (modTime : Int) (content : Content)
  | dir (modTime : Int)
  deriving DecidableEq

namespace Entry

/-- `info.ModTime().UnixNano()`. -/
def modTime : Entry → Int
  | file t _ => t
  | dir t => t

/-- `info.IsDir()`. -/
def isDir : Entry → Bool
  | file _ _ => false
  | dir _ => true

/-- The entry with a new modification time, its kind and content kept. -/
def touch (t : Int) : Entry → Entry
  | file _ c => file t c
  | dir _ => dir t

/-- A regular file truncated and rewritten at `t`; a directory is kept. -/
def rewrite (t : Int) (c : Content) : Entry → Entry
  | file _ _ => file t c
  | dir t' => dir t'

@[simp] theorem isDir_touch (t : Int) (e : Entry) : (e.touch t).isDir = e.isDir := by
  cases e <;> rfl

@[simp] theorem isDir_rewrite (t : Int) (c : Content) (e : Entry) :
    (e.rewrite t c).isDir = e.isDir := by
  cases e <;> rfl

end Entry

/-- An entry's place below the project root: its names from the root down. -/
abbrev RelPath := List String

/-- A name a directory can list: not empty, not `.` or `..`, and without `/`. -/
def ValidName (n : String) : Prop := n ≠ "" ∧ n ≠ "." ∧ n ≠ ".." ∧ '/' ∉ n.data

instance : DecidablePred ValidName := fun _ => inferInstanceAs (Decidable (_ ∧ _))

/-- The project directory: its entries, keyed by path below the root, and the
clock. -/
structure FileSystem where
  entries : List (RelPath × Entry)
  now : Int
  nodup : (entries.map Prod.fst).Nodup
  parent_dir : ∀ x ∈ entries, x.1 ≠ [] → ∃ d ∈ entries, d.1 = x.1.dropLast ∧ d.2.isDir = true
  valid_names : ∀ x ∈ entries, ∀ n ∈ x.1, ValidName n

namespace FileSystem

/-- The entry at `p`, if there is one. -/
def lookup (fs : FileSystem) (p : RelPath) : Option Entry :=
  (fs.entries.find? fun x => decide (x.1 = p)).map (·.2)

theorem lookup_eq_some_iff {fs : FileSystem} {p : RelPath} {e : Entry} :
    fs.lookup p = some e ↔ (p, e) ∈ fs.entries := by
  constructor
  · intro h
    obtain ⟨x, hx, rfl⟩ := Option.map_eq_some'.mp h
    have hkey : x.1 = p := by simpa using List.find?_some hx
    exact hkey ▸ List.mem_of_find?_eq_some hx
  · intro hmem
    cases hx : fs.entries.find? (fun x => decide (x.1 = p)) with
    | none =>
      exact absurd (decide_eq_true rfl) (List.find?_eq_none.mp hx _ hmem)
    | some x =>
      have hkey : x.1 = p := by simpa using List.find?_some hx
      have hsame := List.inj_on_of_nodup_map fs.nodup (List.mem_of_find?_eq_some hx) hmem hkey
      simp [lookup, hx, hsame]

theorem lookup_eq_none_iff {fs : FileSystem} {p : RelPath} :
    fs.lookup p = none ↔ p ∉ fs.entries.map Prod.fst := by
  simp only [lookup, Option.map_eq_none', List.find?_eq_none, List.mem_map, decide_eq_true_eq,
    not_exists, not_and]

/-- Every directory on the way from the root to a listed entry is listed. -/
theorem exists_take_mem (fs : FileSystem) {p : RelPath} {e : Entry} (h : (p, e) ∈ fs.entries)
    {k : Nat} (hk : k ≤ p.length) : ∃ d, (p.take k, d) ∈ fs.entries := by
  induction p using List.reverseRecOn generalizing e k with
  | nil => exact ⟨e, by simpa using h⟩
  | append_singleton q a ih =>
    rcases Nat.lt_or_eq_of_le hk with hlt | rfl
    · obtain ⟨d, hd, hkey, -⟩ := fs.parent_dir _ h (by simp)
      rw [List.dropLast_concat] at hkey
      rw [List.length_append, List.length_singleton] at hlt
      rw [List.take_append_of_le_length (by omega)]
      have hq : (q, d.2) ∈ fs.entries := by rw [← hkey]; exact hd
      exact ih hq (by omega)
    · exact ⟨e, by rw [List.take_length]; exact h⟩

/-- Every entry passed through `f`, which keeps each entry's kind. -/
def map (fs : FileSystem) (f : RelPath → Entry → Entry) (hf : ∀ p e, (f p e).isDir = e.isDir) :
    FileSystem where
  entries := fs.entries.map fun x => (x.1, f x.1 x.2)
  now := fs.now
  nodup := by simpa only [List.map_map, Function.comp_def] using fs.nodup
  parent_dir := by
    simp only [List.mem_map, forall_exists_index, and_imp, forall_apply_eq_imp_iff₂]
    intro x hx hne
    obtain ⟨d, hd, hkey, hdir⟩ := fs.parent_dir x hx hne
    exact ⟨(d.1, f d.1 d.2), ⟨d, hd, rfl⟩, hkey, (hf _ _).trans hdir⟩
  valid_names := by
    simp only [List.mem_map, forall_exists_index, and_imp, forall_apply_eq_imp_iff₂]
    exact fun x hx => fs.valid_names x hx

/-- A new entry at a fresh path inside a listed directory. -/
def insert (fs : FileSystem) (p : RelPath) (e : Entry) (fresh : p ∉ fs.entries.map Prod.fst)
    (parent : p ≠ [] → ∃ d ∈ fs.entries, d.1 = p.dropLast ∧ d.2.isDir = true)
    (names : ∀ n ∈ p, ValidName n) : FileSystem where
  entries := (p, e) :: fs.entries
  now := fs.now
  nodup := List.nodup_cons.mpr ⟨fresh, fs.nodup⟩
  parent_dir := by
    rintro x (_ | ⟨_, hx⟩) hne
    · obtain ⟨d, hd, h⟩ := parent hne
      exact ⟨d, List.mem_cons_of_mem _ hd, h⟩
    · obtain ⟨d, hd, h⟩ := fs.parent_dir x hx hne
      exact ⟨d, List.mem_cons_of_mem _ hd, h⟩
  valid_names := by
    rintro x (_ | ⟨_, hx⟩)
    · exact names
    · exact fs.valid_names x hx

/-- The entry at `q`, stamped with the clock; the rest as they were. -/
def touchAt (fs : FileSystem) (q : RelPath) : FileSystem :=
  fs.map (fun p e => if p = q then e.touch fs.now else e) fun p e => by dsimp only; split <;> simp

theorem parent_of_lookup {fs : FileSystem} {q : RelPath}
    (h : (fs.lookup q).any Entry.isDir = true) :
    ∃ d ∈ (fs.touchAt q).entries, d.1 = q ∧ d.2.isDir = true := by
  obtain ⟨e, he, hdir⟩ : ∃ e, fs.lookup q = some e ∧ e.isDir = true := by
    cases hq : fs.lookup q with
    | none => simp [hq] at h
    | some e => exact ⟨e, rfl, by simpa [hq] using h⟩
  refine ⟨(q, e.touch fs.now), List.mem_map.mpr ⟨(q, e), lookup_eq_some_iff.mp he, ?_⟩, rfl, ?_⟩
  · simp
  · simpa using hdir

theorem keys_touchAt (fs : FileSystem) (q : RelPath) :
    (fs.touchAt q).entries.map Prod.fst = fs.entries.map Prod.fst := by
  simp [touchAt, map, Function.comp_def]

/-- Create an entry at `p`, stamping it and its directory with the clock. -/
def create (fs : FileSystem) (p : RelPath) (e : Entry) (fresh : fs.lookup p = none)
    (names : ∀ n ∈ p, ValidName n) (parent : p ≠ [] → (fs.lookup p.dropLast).any Entry.isDir = true) :
    FileSystem :=
  (fs.touchAt p.dropLast).insert p e
    (by rw [keys_touchAt]; exact lookup_eq_none_iff.mp fresh)
    (fun hne => parent_of_lookup (parent hne)) names

/-- The file at `p` truncated and rewritten with `c`, stamped with the clock. -/
def rewriteAt (fs : FileSystem) (p : RelPath) (c : Content) : FileSystem :=
  fs.map (fun q e => if q = p then e.rewrite fs.now c else e) fun q e => by dsimp only; split <;> simp

/-- `os.WriteFile(p, c)`: truncate and rewrite an existing file, or create one
in an existing directory. -/
def writeFile (fs : FileSystem) (p : RelPath) (c : Content) : Except Fault FileSystem :=
  match h : fs.lookup p with
  | some (.dir _) => .error (.error "is a directory")
  | some (.file _ _) => .ok (fs.rewriteAt p c)
  | none =>
    if hp : (∀ n ∈ p, ValidName n) ∧ p ≠ [] ∧ (fs.lookup p.dropLast).any Entry.isDir = true then
      .ok (fs.create p (.file fs.now c) h hp.1 fun _ => hp.2.2)
    else .error (.error "no such file or directory")

/-- `os.Mkdir` as `MkdirAll` uses it: an existing directory is kept, a missing
one is created in its (existing) parent. -/
def mkdir (fs : FileSystem) (p : RelPath) : Except Fault FileSystem :=
  match h : fs.lookup p with
  | some (.dir _) => .ok fs
  | some (.file _ _) => .error (.error "not a directory")
  | none =>
    if hp : (∀ n ∈ p, ValidName n) ∧ (p ≠ [] → (fs.lookup p.dropLast).any Entry.isDir = true) then
      .ok (fs.create p (.dir fs.now) h hp.1 hp.2)
    else .error (.error "no such file or directory")

/-- `os.MkdirAll(p)`: every directory on the way from the root to `p`. -/
def mkdirAll (fs : FileSystem) (p : RelPath) : Except Fault FileSystem :=
  (List.range (p.length + 1)).foldlM (fun fs k => fs.mkdir (p.take k)) fs

/-- The directory without the regular file at `p`. -/
def erase (fs : FileSystem) (p : RelPath) (hfile : ∃ t c, fs.lookup p = some (.file t c)) :
    FileSystem where
  entries := fs.entries.filter (·.1 ≠ p)
  now := fs.now
  nodup := fs.nodup.sublist ((List.filter_sublist _).map _)
  parent_dir := by
    intro x hx hne
    obtain ⟨hx, -⟩ := List.mem_filter.mp hx
    obtain ⟨d, hd, hkey, hdir⟩ := fs.parent_dir x hx hne
    refine ⟨d, List.mem_filter.mpr ⟨hd, ?_⟩, hkey, hdir⟩
    obtain ⟨t, c, hp⟩ := hfile
    simp only [decide_eq_true_eq]
    rintro rfl
    rw [List.inj_on_of_nodup_map fs.nodup hd (lookup_eq_some_iff.mp hp) rfl] at hdir
    cases hdir
  valid_names := fun x hx => fs.valid_names x (List.mem_filter.mp hx).1

/-- `os.Remove(p)` of a regular file: the file goes, and the directory that
held it is stamped with the clock. -/
def removeFile (fs : FileSystem) (p : RelPath) : Except Fault FileSystem :=
  match h : fs.lookup p with
  | some (.file t c) => .ok ((fs.erase p ⟨t, c, h⟩).touchAt p.dropLast)
  | _ => .error (.error "no such file or directory")

/-- The clock moved on by `dt`: nothing on disk changes, but what is written
from then on is stamped later. -/
def advance (fs : FileSystem) (dt : Nat) : FileSystem :=
  ⟨fs.entries, fs.now + dt, fs.nodup, fs.parent_dir, fs.valid_names⟩

/-- `os.ReadFile(p)`. -/
def readFile (fs : FileSystem) (p : RelPath) : Except Fault Content :=
  match fs.lookup p with
  | some (.file _ c) => .ok c
  | some (.dir _) => .error (.error "is a directory")
  | none => .error (.error "no such file or directory")

/-- `os.Stat(p)`. -/
def stat (fs : FileSystem) (p : RelPath) : Except Fault Entry :=
  match fs.lookup p with
  | some e => .ok e
  | none => .error (.error "no such file or directory")

/-! ## What the writes change -/

@[simp] theorem lookup_map (fs : FileSystem) (f : RelPath → Entry → Entry)
    (hf : ∀ p e, (f p e).isDir = e.isDir) (q : RelPath) :
    (fs.map f hf).lookup q = (fs.lookup q).map (f q) := by
  simp only [lookup, map, List.find?_map, Option.map_map]
  cases h : fs.entries.find? (fun x => decide (x.1 = q)) with
  | none => simp [Function.comp_def, h]
  | some x =>
    have hkey : x.1 = q := by simpa using List.find?_some h
    simp [Function.comp_def, h, hkey]

@[simp] theorem lookup_insert (fs : FileSystem) {p : RelPath} {e : Entry} {fresh parent names}
    (q : RelPath) : (fs.insert p e fresh parent names).lookup q = if q = p then some e else fs.lookup q := by
  by_cases hq : q = p
  · subst hq; simp [insert, lookup]
  · simp [insert, lookup, hq, Ne.symm hq, List.find?_cons]

@[simp] theorem now_map (fs : FileSystem) (f : RelPath → Entry → Entry)
    (hf : ∀ p e, (f p e).isDir = e.isDir) : (fs.map f hf).now = fs.now := rfl

@[simp] theorem now_insert (fs : FileSystem) {p : RelPath} {e : Entry} {fresh parent names} :
    (fs.insert p e fresh parent names).now = fs.now := rfl

theorem lookup_create (fs : FileSystem) {p : RelPath} {e : Entry} {fresh names parent} (q : RelPath) :
    (fs.create p e fresh names parent).lookup q =
      if q = p then some e else (fs.lookup q).map fun d => if q = p.dropLast then d.touch fs.now else d := by
  simp [create, touchAt]

@[simp] theorem now_create (fs : FileSystem) {p : RelPath} {e : Entry} {fresh names parent} :
    (fs.create p e fresh names parent).now = fs.now := rfl

@[simp] theorem lookup_advance (fs : FileSystem) (dt : Nat) (q : RelPath) :
    (fs.advance dt).lookup q = fs.lookup q := rfl

@[simp] theorem now_advance (fs : FileSystem) (dt : Nat) : (fs.advance dt).now = fs.now + dt := rfl

@[simp] theorem advance_zero (fs : FileSystem) : fs.advance 0 = fs := by
  cases fs
  simp [advance]

/-- `os.WriteFile` changes only the file written and, when it creates the
file, the directory it is created in; the clock stays. -/
theorem writeFile_frame {fs fs' : FileSystem} {p : RelPath} {c : Content}
    (h : fs.writeFile p c = .ok fs') :
    fs'.now = fs.now ∧ fs'.lookup p = some (.file fs.now c) ∧
      ∀ q, q ≠ p → fs'.lookup q = (fs.lookup q).map fun d =>
        if q = p.dropLast ∧ fs.lookup p = none then d.touch fs.now else d := by
  unfold writeFile at h
  split at h
  · cases h
  · rename_i t c0 hfile
    cases h
    refine ⟨rfl, by simp [rewriteAt, hfile, Entry.rewrite], fun q hq => ?_⟩
    simp [rewriteAt, hq, hfile]
  · rename_i hnone
    split at h
    · cases h
      refine ⟨rfl, by simp [lookup_create], fun q hq => ?_⟩
      simp [lookup_create, hq, hnone]
    · cases h

theorem writeFile_of_file {fs : FileSystem} {p : RelPath} {t : Int} {c0 : Content}
    (h : fs.lookup p = some (.file t c0)) (c : Content) : fs.writeFile p c = .ok (fs.rewriteAt p c) := by
  unfold writeFile
  split <;> simp_all

/-- Writing over a listed entry succeeds only on a file, and rewrites it in
place. -/
theorem writeFile_of_lookup {fs fs' : FileSystem} {p : RelPath} {e : Entry} {c : Content}
    (he : fs.lookup p = some e) (h : fs.writeFile p c = .ok fs') :
    ∃ t c0, e = .file t c0 ∧ fs' = fs.rewriteAt p c := by
  rcases e with ⟨t, c0⟩ | t
  · rw [writeFile_of_file he] at h
    exact ⟨t, c0, rfl, (Except.ok.inj h).symm⟩
  · unfold writeFile at h
    split at h <;> simp_all

/-- The entry holding a listed entry is a directory. -/
theorem parent_isDir {fs : FileSystem} {p : RelPath} {e : Entry} (h : fs.lookup p = some e)
    (hp : p ≠ []) : (fs.lookup p.dropLast).any Entry.isDir = true := by
  obtain ⟨d, hd, hkey, hdir⟩ := fs.parent_dir _ (lookup_eq_some_iff.mp h) hp
  rw [← hkey, lookup_eq_some_iff.mpr hd]
  exact hdir

/-- The directory a listed entry lies in. -/
theorem parent_eq_dir {fs : FileSystem} {p : RelPath} {e : Entry} (h : fs.lookup p = some e) (hp : p ≠ []) :
    ∃ t, fs.lookup p.dropLast = some (.dir t) := by
  have hdir := parent_isDir h hp
  rcases hd : fs.lookup p.dropLast with _ | ⟨_, _⟩ | t
  · simp [hd] at hdir
  · simp [hd, Entry.isDir] at hdir
  · exact ⟨t, rfl⟩

/-- A file is only ever written inside a directory. -/
theorem writeFile_parent {fs fs' : FileSystem} {p : RelPath} {c : Content}
    (h : fs.writeFile p c = .ok fs') (hp : p ≠ []) : (fs.lookup p.dropLast).any Entry.isDir = true := by
  unfold writeFile at h
  split at h
  · cases h
  · exact parent_isDir ‹_› hp
  · split at h
    · exact ‹_ ∧ _ ∧ _›.2.2
    · cases h

/-- A new file with valid names, in an existing directory, can be written. -/
theorem writeFile_new {fs : FileSystem} {p : RelPath} (c : Content) (hfresh : fs.lookup p = none)
    (hnames : ∀ n ∈ p, ValidName n) (hp : p ≠ [])
    (hparent : (fs.lookup p.dropLast).any Entry.isDir = true) : ∃ fs', fs.writeFile p c = .ok fs' := by
  unfold writeFile
  split
  · simp_all
  · simp_all
  · exact ⟨_, dif_pos ⟨hnames, hp, hparent⟩⟩

/-- Making a directory that is already there changes nothing. -/
theorem mkdir_of_dir {fs : FileSystem} {p : RelPath} {t : Int} (h : fs.lookup p = some (.dir t)) :
    fs.mkdir p = .ok fs := by
  unfold mkdir
  split <;> simp_all

theorem mkdirAll_nil_of_dir {fs : FileSystem} {t : Int} (h : fs.lookup [] = some (.dir t)) :
    fs.mkdirAll [] = .ok fs := by
  show [0].foldlM (fun fs _ => fs.mkdir []) fs = .ok fs
  simp only [List.foldlM_cons, mkdir_of_dir h, List.foldlM_nil]
  rfl

/-- `os.Mkdir` as `MkdirAll` uses it changes only the directory it creates and
the directory that holds it. -/
theorem mkdir_frame {fs fs' : FileSystem} {p : RelPath} (h : fs.mkdir p = .ok fs') :
    fs'.now = fs.now ∧ (∃ t, fs'.lookup p = some (.dir t)) ∧
      ∀ q, q ≠ p → q ≠ p.dropLast → fs'.lookup q = fs.lookup q := by
  unfold mkdir at h
  split at h
  · rename_i t hdir
    cases h
    exact ⟨rfl, ⟨t, hdir⟩, fun _ _ _ => rfl⟩
  · cases h
  · split at h
    · cases h
      refine ⟨rfl, ⟨fs.now, by simp [lookup_create]⟩, fun q hq hparent => ?_⟩
      simp [lookup_create, hq, hparent]
    · cases h

private theorem foldlM_mkdir_frame {p : RelPath} : ∀ (ks : List Nat) {fs fs' : FileSystem},
    ks.foldlM (fun fs k => fs.mkdir (p.take k)) fs = .ok fs' →
      fs'.now = fs.now ∧ ∀ q, ¬ q <+: p → fs'.lookup q = fs.lookup q
  | [], _, _, h => by cases h; exact ⟨rfl, fun _ _ => rfl⟩
  | k :: ks, _, _, h => by
    rw [List.foldlM_cons] at h
    obtain ⟨fs1, h1, h2⟩ := except_bind_eq_ok.mp h
    obtain ⟨hnow1, -, hframe1⟩ := mkdir_frame h1
    obtain ⟨hnow2, hframe2⟩ := foldlM_mkdir_frame ks h2
    refine ⟨hnow2.trans hnow1, fun q hq => (hframe2 q hq).trans (hframe1 q ?_ ?_)⟩
    · exact fun he => hq (he ▸ List.take_prefix k p)
    · exact fun he => hq (he ▸ (List.dropLast_prefix _).trans (List.take_prefix k p))

/-- `os.MkdirAll` changes only directories on the way to the one it creates. -/
theorem mkdirAll_frame {fs fs' : FileSystem} {p : RelPath} (h : fs.mkdirAll p = .ok fs') :
    fs'.now = fs.now ∧ (∃ t, fs'.lookup p = some (.dir t)) ∧
      ∀ q, ¬ q <+: p → fs'.lookup q = fs.lookup q := by
  unfold mkdirAll at h
  rw [List.range_succ, List.foldlM_append] at h
  obtain ⟨fs1, h1, h2⟩ := except_bind_eq_ok.mp h
  simp only [List.foldlM_cons, List.foldlM_nil, List.take_length] at h2
  obtain ⟨fs2, h2, hpure⟩ := except_bind_eq_ok.mp h2
  cases hpure
  obtain ⟨hnow1, hframe1⟩ := foldlM_mkdir_frame _ h1
  obtain ⟨hnow2, hdir, hframe2⟩ := mkdir_frame h2
  refine ⟨hnow2.trans hnow1, hdir, fun q hq => (hframe2 q ?_ ?_).trans (hframe1 q hq)⟩
  · exact fun he => hq (he ▸ List.prefix_refl p)
  · exact fun he => hq (he ▸ List.dropLast_prefix p)

/-- Two directories with the same entries and the same clock are one. -/
theorem ext {fs fs' : FileSystem} (hentries : fs.entries = fs'.entries) (hnow : fs.now = fs'.now) :
    fs = fs' := by
  cases fs
  cases fs'
  simp only [mk.injEq]
  exact ⟨hentries, hnow⟩

/-- Rewriting a file with what it holds, at the time it carries, changes
nothing. -/
theorem rewriteAt_self {fs : FileSystem} {p : RelPath} {c : Content} (h : fs.lookup p = some (.file fs.now c)) :
    fs.rewriteAt p c = fs := by
  refine ext ?_ rfl
  conv_rhs => rw [← List.map_id fs.entries]
  refine List.map_congr_left fun x hx => ?_
  show (x.1, if x.1 = p then x.2.rewrite fs.now c else x.2) = x
  split
  · rename_i hxp
    have hx' := lookup_eq_some_iff.mpr hx
    rw [hxp, h, Option.some_inj] at hx'
    rw [← hx']
    exact Prod.ext rfl hx'
  · rfl

theorem writeFile_self {fs : FileSystem} {p : RelPath} {c : Content} (h : fs.lookup p = some (.file fs.now c)) :
    fs.writeFile p c = .ok fs := by
  rw [writeFile_of_file h, rewriteAt_self h]

/-- Below a listed entry, the root is a directory. -/
theorem root_isDir {fs : FileSystem} {p : RelPath} {e : Entry} (h : fs.lookup p = some e)
    (hp : p ≠ []) : ∃ t, fs.lookup [] = some (.dir t) := by
  obtain ⟨a, q, rfl⟩ := List.exists_cons_of_ne_nil hp
  obtain ⟨d, hd⟩ := fs.exists_take_mem (lookup_eq_some_iff.mp h) (k := 1) (by simp)
  have hroot := parent_isDir (lookup_eq_some_iff.mpr (by simpa using hd)) (List.cons_ne_nil a [])
  rcases hr : fs.lookup [] with _ | ⟨_, _⟩ | t <;> simp_all [Entry.isDir]

/-- `MkdirAll` of a directory in the root that is already there changes
nothing. -/
theorem mkdirAll_singleton_of_dir {fs : FileSystem} {n : String} {t0 t1 : Int}
    (h0 : fs.lookup [] = some (.dir t0)) (h1 : fs.lookup [n] = some (.dir t1)) :
    fs.mkdirAll [n] = .ok fs := by
  show [0, 1].foldlM (fun fs k => fs.mkdir ([n].take k)) fs = .ok fs
  simp only [List.foldlM_cons, List.take_zero, List.take_succ_cons, mkdir_of_dir h0, mkdir_of_dir h1,
    except_ok_bind, List.foldlM_nil]
  rfl

end FileSystem

end KnFunc
