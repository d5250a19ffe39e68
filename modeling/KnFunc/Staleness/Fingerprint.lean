import Mathlib.Data.List.Sort
import Mathlib.Data.List.Lex
import Mathlib.Data.Nat.Digits
import Mathlib.Data.String.Basic
import KnFunc.Path.Clean
import KnFunc.FileSystem.Tree

/-!
# The staleness engine: `fingerprint`

`fingerprint(f)` walks the project directory with `filepath.Walk` and writes
`"path:mtime:"` to a SHA-256 hash for every entry the walk function is handed,
except a directory named `.func` or `.git`, which it skips with all below it.
The printed path is the walk's: the root as spelled, then `filepath.Join` of a
directory's path and a name. The digest is a parameter `sha256` of the
definitions that use it, taking what was written to the hex digest `%x` prints.

`filepath.Walk` visits the root, then each directory's names in sorted order
(`sort.Strings`, byte by byte), each followed by what lies below it. On name
lists from the root that is lexicographic order, so `walk` is the reached
entries sorted by their name lists.

What is proved here: the walk is sorted and closed under taking ancestors
(`walk_sorted`, `walk_ancestor`); below the root every printed path is the
cleaned root's prefix followed by the names joined with `/` (`walkPath_eq`);
and `formatInt` is injective and prints no `:` or `/`. The skip is by name
at every depth, the root included: writing a file anywhere below a directory
named `.func` or `.git` leaves the fingerprint as it was
(`fingerprint_ignores_writes_below_skipped_dirs`). What the hash input
does NOT determine, below a root that cleans to `.`, is the set of entries:
`fingerprint_collides_below_dot`, in the next module.
-/

namespace KnFunc

/-- `RunDataDir`: the run-data directory below the project root. -/
def RunDataDir : String := ".func"

/-- `buildstamp`: the file in `RunDataDir` that holds the last build's fingerprint. -/
def buildstamp : String := "built"

/-- A name a directory lists is an element `Clean` keeps. -/
theorem ValidName.nameElem {n : String} (h : ValidName n) : Path.NameElem n.data := by
  obtain ⟨h0, h1, h2, h3⟩ := h
  refine ⟨fun e => h0 (String.ext e), fun e => h1 (String.ext e), fun e => h2 (String.ext e), h3⟩

namespace Staleness

/-! ## `%v` of a modification time -/

/-- `%v` of an `int64`: its decimal digits, after a `-` when it is negative. -/
def formatInt (t : Int) : List Char :=
  (if t < 0 then ['-'] else []) ++ Nat.toDigits 10 t.natAbs

/-- The number a numeral of decimal digits stands for. -/
def digitsValue (s : List Char) : Nat :=
  Nat.ofDigits 10 (s.map fun c => c.toNat - '0'.toNat).reverse

private theorem toDigitsCore_eq (fuel n : Nat) (ds : List Char) (h : n < fuel) :
    Nat.toDigitsCore 10 fuel n ds =
      (if n = 0 then ['0'] else ((Nat.digits 10 n).map Nat.digitChar).reverse) ++ ds := by
  induction fuel generalizing n ds with
  | zero => exact absurd h (Nat.not_lt_zero n)
  | succ f ih =>
    simp only [Nat.toDigitsCore]
    by_cases hdiv : n / 10 = 0
    · have hlt : n < 10 := by omega
      simp only [hdiv, if_true, Nat.mod_eq_of_lt hlt]
      by_cases hn : n = 0
      · subst hn; rfl
      · simp [hn, Nat.digits_of_lt 10 n hn hlt]
    · have hn : n ≠ 0 := by omega
      rw [if_neg hdiv, ih (n / 10) _ (by omega), if_neg hdiv, if_neg hn,
        Nat.digits_def' (by norm_num) (Nat.pos_of_ne_zero hn)]
      simp

private theorem toDigits_eq (n : Nat) :
    Nat.toDigits 10 n = if n = 0 then ['0'] else ((Nat.digits 10 n).map Nat.digitChar).reverse := by
  rw [Nat.toDigits, toDigitsCore_eq _ _ _ (Nat.lt_succ_self n), List.append_nil]

private theorem digitChar_value : ∀ d < 10, (Nat.digitChar d).toNat - '0'.toNat = d := by decide

theorem digitsValue_toDigits (n : Nat) : digitsValue (Nat.toDigits 10 n) = n := by
  rw [toDigits_eq]
  split_ifs with hn
  · subst hn; rfl
  · have hmap : ((Nat.digits 10 n).map Nat.digitChar).map (fun c => c.toNat - '0'.toNat) =
        Nat.digits 10 n := by
      rw [List.map_map]
      conv_rhs => rw [← List.map_id (Nat.digits 10 n)]
      exact List.map_congr_left fun d hd => digitChar_value d (Nat.digits_lt_base (by norm_num) hd)
    rw [digitsValue, List.map_reverse, hmap, List.reverse_reverse, Nat.ofDigits_digits]

theorem mem_toDigits {c : Char} {n : Nat} (h : c ∈ Nat.toDigits 10 n) : ∃ d < 10, c = Nat.digitChar d := by
  rw [toDigits_eq] at h
  split_ifs at h
  · exact ⟨0, by norm_num, List.eq_of_mem_singleton h⟩
  · obtain ⟨d, hd, rfl⟩ := List.mem_map.mp (List.mem_reverse.mp h)
    exact ⟨d, Nat.digits_lt_base (by norm_num) hd, rfl⟩

private theorem digitChar_ne : ∀ d < 10, Nat.digitChar d ≠ ':' ∧ Nat.digitChar d ≠ '/' ∧
    Nat.digitChar d ≠ '-' := by decide

theorem colon_not_mem_formatInt (t : Int) : ':' ∉ formatInt t ∧ '/' ∉ formatInt t := by
  have hdig : ∀ c ∈ formatInt t, c ≠ ':' ∧ c ≠ '/' := by
    intro c hc
    unfold formatInt at hc
    rcases List.mem_append.mp hc with hc | hc
    · split_ifs at hc <;> simp_all
    · obtain ⟨d, hd, rfl⟩ := mem_toDigits hc
      exact ⟨(digitChar_ne d hd).1, (digitChar_ne d hd).2.1⟩
  exact ⟨fun h => (hdig _ h).1 rfl, fun h => (hdig _ h).2 rfl⟩

theorem formatInt_injective : Function.Injective formatInt := by
  intro t u h
  have hminus : ∀ n, '-' ∉ Nat.toDigits 10 n := fun n hc => by
    obtain ⟨d, hd, hc⟩ := mem_toDigits hc
    exact (digitChar_ne d hd).2.2 hc.symm
  have habs : ∀ a b : Nat, Nat.toDigits 10 a = Nat.toDigits 10 b → a = b := fun a b hab => by
    rw [← digitsValue_toDigits a, hab, digitsValue_toDigits]
  unfold formatInt at h
  split_ifs at h with ht hu hu <;> simp only [List.singleton_append, List.nil_append] at h
  · have := Int.natAbs_eq_natAbs_iff.mp (habs _ _ (List.cons.inj h).2)
    omega
  · exact absurd (h ▸ List.mem_cons_self _ _) (hminus _)
  · exact absurd (h.symm ▸ List.mem_cons_self _ _) (hminus _)
  · have := Int.natAbs_eq_natAbs_iff.mp (habs _ _ h)
    omega

/-! ## The walk -/

/-- The name `info.Name()` reports for the entry at `p`, below a root spelled `root`. -/
def entryName (root : String) (p : RelPath) : List Char :=
  match p.getLast? with
  | none => Path.baseName root.data
  | some n => n.data

/-- `fingerprint`'s walk function on a directory: one named `RunDataDir` or
`.git` is skipped, with everything below it (`filepath.SkipDir`). -/
def skipDir (name : List Char) (e : Entry) : Bool :=
  e.isDir && (name == RunDataDir.data || name == ".git".data)

/-- Whether the walk function hashes the entry at `p`: no entry from the root
down to it, itself included, is a skipped directory. -/
def reached (fs : FileSystem) (root : String) (p : RelPath) : Bool :=
  p.inits.all fun q => (fs.lookup q).all fun e => !skipDir (entryName root q) e

/-- Where the walk puts a path: by its names from the root, compared as Go
compares strings. -/
def walkKey (p : RelPath) : List (List Char) := p.map String.data

/-- The walk's order on entries. -/
def walkLE (x y : RelPath × Entry) : Prop := walkKey x.1 ≤ walkKey y.1

/-- Strictly before, in the walk's order. -/
def walkLT (x y : RelPath × Entry) : Prop := walkKey x.1 < walkKey y.1

instance : DecidableRel walkLE := fun x y => inferInstanceAs (Decidable (walkKey x.1 ≤ walkKey y.1))

/-- `filepath.Walk(root, fn)` with `fingerprint`'s `fn`: the entries hashed, in
the order they are visited. The root's `Lstat` failing is the walk's error. -/
def walk (fs : FileSystem) (root : String) : Except Fault (List (RelPath × Entry)) :=
  match fs.lookup [] with
  | none => .error (.error s!"lstat {root}: no such file or directory")
  | some _ => .ok ((fs.entries.filter fun x => reached fs root x.1).insertionSort walkLE)

/-- The path the walk hands `fn` for the entry at `p`: the root as spelled,
then `filepath.Join` of each directory's path and the next name. -/
def walkPath (root : String) (p : RelPath) : List Char :=
  p.foldl (fun dir n => Path.join dir n.data) root.data

/-- What `fmt.Fprintf(h, "%v:%v:", path, info.ModTime().UnixNano())` writes. -/
def record (root : String) (x : RelPath × Entry) : List Char :=
  walkPath root x.1 ++ ':' :: formatInt x.2.modTime ++ [':']

/-- Everything written to the hash, for the entries visited in order. -/
def hashInput (root : String) (xs : List (RelPath × Entry)) : List Char :=
  (xs.map (record root)).flatten

/-- `fingerprint(f)` for a descriptor rooted at `root`: the digest of what the
walk wrote. -/
def fingerprint (sha256 : List Char → String) (fs : FileSystem) (root : String) :
    Except Fault String :=
  (fun xs => sha256 (hashInput root xs)) <$> walk fs root

/-- The paths and modification times of the entries visited, in order. -/
def records (xs : List (RelPath × Entry)) : List (RelPath × Int) :=
  xs.map fun x => (x.1, x.2.modTime)

/-! ## Shape of the walk -/

instance : IsTotal (RelPath × Entry) walkLE := ⟨fun _ _ => le_total _ _⟩

instance : IsTrans (RelPath × Entry) walkLE := ⟨fun _ _ _ => le_trans⟩

theorem walkKey_injective : Function.Injective walkKey :=
  List.map_injective_iff.mpr fun _ _ h => String.ext h

theorem walk_eq_ok {fs : FileSystem} {root : String} {xs : List (RelPath × Entry)}
    (h : walk fs root = .ok xs) :
    xs = (fs.entries.filter fun x => reached fs root x.1).insertionSort walkLE := by
  unfold walk at h
  split at h <;> cases h
  rfl

theorem walk_of_lookup {fs : FileSystem} {e : Entry} (h : fs.lookup [] = some e) (root : String) :
    walk fs root = .ok ((fs.entries.filter fun x => reached fs root x.1).insertionSort walkLE) := by
  simp [walk, h]

theorem mem_walk {fs : FileSystem} {root : String} {xs : List (RelPath × Entry)}
    (h : walk fs root = .ok xs) {x : RelPath × Entry} :
    x ∈ xs ↔ x ∈ fs.entries ∧ reached fs root x.1 = true := by
  rw [walk_eq_ok h, (List.perm_insertionSort _ _).mem_iff, List.mem_filter]

/-- Sorted by the walk's order, entries of a directory are in strictly
increasing order of their name lists. -/
theorem pairwise_insertionSort (fs : FileSystem) (keep : RelPath × Entry → Bool) :
    ((fs.entries.filter keep).insertionSort walkLE).Pairwise walkLT := by
  have hperm := List.perm_insertionSort walkLE (fs.entries.filter keep)
  have hsorted := List.sorted_insertionSort walkLE (fs.entries.filter keep)
  have hnodup := (hperm.map Prod.fst).nodup_iff.mpr (fs.nodup.sublist ((List.filter_sublist _).map _))
  exact (hsorted.and (List.pairwise_map.mp hnodup)).imp fun hxy =>
    lt_of_le_of_ne hxy.1 fun heq => hxy.2 (walkKey_injective heq)

/-- The walk visits entries in strictly increasing order of their name lists. -/
theorem walk_sorted {fs : FileSystem} {root : String} {xs : List (RelPath × Entry)}
    (h : walk fs root = .ok xs) : (xs.map fun x => walkKey x.1).Pairwise (· < ·) := by
  rw [List.pairwise_map, walk_eq_ok h]
  exact pairwise_insertionSort fs _

theorem reached_take {fs : FileSystem} {root : String} {p : RelPath} (h : reached fs root p = true)
    (k : Nat) : reached fs root (p.take k) = true := by
  simp only [reached, List.all_eq_true, List.mem_inits] at h ⊢
  exact fun q hq => h q (hq.trans (List.take_prefix k p))

/-- Every directory on the way to a visited entry is visited. -/
theorem walk_ancestor {fs : FileSystem} {root : String} {xs : List (RelPath × Entry)}
    (h : walk fs root = .ok xs) {x : RelPath × Entry} (hx : x ∈ xs) {k : Nat} (hk : k ≤ x.1.length) :
    ∃ y ∈ xs, y.1 = x.1.take k := by
  obtain ⟨hmem, hreach⟩ := (mem_walk h).mp hx
  obtain ⟨d, hd⟩ := fs.exists_take_mem hmem hk
  exact ⟨(x.1.take k, d), (mem_walk h).mpr ⟨hd, reached_take hreach k⟩, rfl⟩

private theorem foldl_join {acc : List Char} (hacc : ∃ d m, Path.NameElem m ∧ acc = Path.join d m)
    {ns : RelPath} (hns : ∀ n ∈ ns, ValidName n) :
    ns.foldl (fun dir n => Path.join dir n.data) acc = acc ++ (ns.map fun n => '/' :: n.data).flatten := by
  induction ns generalizing acc with
  | nil => simp
  | cons n ns ih =>
    obtain ⟨d, m, hm, rfl⟩ := hacc
    have hn := ValidName.nameElem (hns n (List.mem_cons_self n ns))
    rw [List.foldl_cons, ih ⟨_, _, hn, rfl⟩ fun x hx => hns x (List.mem_cons_of_mem n hx),
      Path.join_join d hm hn]
    simp

/-- **Printed paths**: below the root, the walk prints the cleaned root's
prefix, then the names joined with `/`. -/
theorem walkPath_eq (root : String) {p : RelPath} (hp : p ≠ []) (hv : ∀ n ∈ p, ValidName n) :
    walkPath root p = Path.dirPrefix (Path.clean root.data) ++ ['/'].intercalate (walkKey p) := by
  obtain ⟨n, ns, rfl⟩ := List.exists_cons_of_ne_nil hp
  have hn := ValidName.nameElem (hv n (List.mem_cons_self n ns))
  rw [walkPath, List.foldl_cons, foldl_join ⟨_, _, hn, rfl⟩ fun x hx => hv x (List.mem_cons_of_mem n hx),
    Path.join_name _ hn, walkKey, List.map_cons, Path.intercalate_cons, List.map_map]
  simp [Function.comp_def]

/-! ## What the walk does not see -/

instance : IsAntisymm (RelPath × Entry) walkLT := ⟨fun _ _ hxy hyx => absurd hyx (lt_asymm hxy)⟩

/-- Directories that hash the same entries are walked alike. -/
theorem walk_eq_of_reached_iff {fs fs' : FileSystem} {root : String}
    (hroot : (fs'.lookup []).isSome = (fs.lookup []).isSome)
    (hsame : ∀ x, (x ∈ fs'.entries ∧ reached fs' root x.1 = true) ↔
      (x ∈ fs.entries ∧ reached fs root x.1 = true)) :
    walk fs' root = walk fs root := by
  unfold walk
  cases h' : fs'.lookup [] <;> cases h : fs.lookup [] <;>
    simp only [h, h', Option.isSome, Bool.false_eq_true, Bool.true_eq_false, Except.ok.injEq] at hroot ⊢
  have hnodup : ∀ fs : FileSystem, fs.entries.Nodup := fun fs => List.Nodup.of_map _ fs.nodup
  have hperm : (fs'.entries.filter fun x => reached fs' root x.1).Perm
      (fs.entries.filter fun x => reached fs root x.1) := by
    rw [List.perm_ext_iff_of_nodup ((hnodup fs').filter _) ((hnodup fs).filter _)]
    intro x
    simpa only [List.mem_filter] using hsame x
  exact List.eq_of_perm_of_sorted
    (((List.perm_insertionSort _ _).trans hperm).trans (List.perm_insertionSort _ _).symm)
    (pairwise_insertionSort fs' _) (pairwise_insertionSort fs _)

private theorem reached_congr {fs fs' : FileSystem} {root : String} {p : RelPath}
    (h : ∀ q, q <+: p → fs'.lookup q = fs.lookup q) : reached fs' root p = reached fs root p := by
  unfold reached
  rw [Bool.eq_iff_iff, List.all_eq_true, List.all_eq_true]
  exact forall₂_congr fun q hq => by rw [h q ((List.mem_inits _ _).mp hq)]

/-- An entry in (or at) the run-data directory is not hashed when that is a directory. -/
theorem not_reached_runData {fs : FileSystem} {root : String} {x : RelPath × Entry}
    (hx : x ∈ fs.entries) (hhead : x.1.head? = some RunDataDir)
    (hdir : (fs.lookup [RunDataDir]).all Entry.isDir) : reached fs root x.1 = false := by
  obtain ⟨n, ns, hxn⟩ : ∃ n ns, x.1 = n :: ns := by
    cases h : x.1 with
    | nil => simp [h] at hhead
    | cons n ns => exact ⟨n, ns, rfl⟩
  have hn : n = RunDataDir := by simpa [hxn] using hhead
  obtain ⟨d, hd⟩ := fs.exists_take_mem hx (k := 1) (by simp [hxn])
  rw [hxn, hn] at hd
  have hlookup := FileSystem.lookup_eq_some_iff.mpr (by simpa using hd)
  rw [hlookup] at hdir
  simp only [reached, List.all_eq_false, List.mem_inits, hxn, hn]
  refine ⟨[RunDataDir], by simp, ?_⟩
  simp [hlookup, skipDir, entryName, Option.all] at hdir ⊢
  exact hdir

/-- **The walk does not see inside the run-data directory**: two directories
that agree everywhere else, with the run-data directory a directory (or absent)
in both, are walked alike. -/
theorem walk_eq_of_agree_outside {fs fs' : FileSystem} {root : String}
    (hagree : ∀ q, q.head? ≠ some RunDataDir → fs'.lookup q = fs.lookup q)
    (hdir : (fs.lookup [RunDataDir]).all Entry.isDir) (hdir' : (fs'.lookup [RunDataDir]).all Entry.isDir) :
    walk fs' root = walk fs root := by
  refine walk_eq_of_reached_iff (by rw [hagree [] (by simp)]) fun x => ?_
  by_cases hhead : x.1.head? = some RunDataDir
  · constructor
    · rintro ⟨hx, hr⟩; simp [not_reached_runData hx hhead hdir'] at hr
    · rintro ⟨hx, hr⟩; simp [not_reached_runData hx hhead hdir] at hr
  · have hprefix : ∀ q, q <+: x.1 → fs'.lookup q = fs.lookup q := by
      intro q hq
      refine hagree q fun hq' => hhead ?_
      obtain ⟨t, ht⟩ := hq
      rw [← ht, List.head?_append_of_ne_nil _ (by rintro rfl; simp at hq')]
      exact hq'
    have hmem : x ∈ fs'.entries ↔ x ∈ fs.entries := by
      have hiff : ∀ fs : FileSystem, x ∈ fs.entries ↔ fs.lookup x.1 = some x.2 :=
        fun _ => FileSystem.lookup_eq_some_iff.symm
      rw [hiff, hiff, hagree x.1 hhead]
    rw [hmem, reached_congr hprefix]

/-- Below a skipped directory nothing is hashed. -/
theorem reached_below_skipped {fs : FileSystem} {root : String} {q r : RelPath} {e : Entry}
    (he : fs.lookup q = some e) (hskip : skipDir (entryName root q) e = true) (hq : q <+: r) :
    reached fs root r = false := by
  simp only [reached, List.all_eq_false]
  exact ⟨q, (List.mem_inits _ _).mpr hq, by simp [he, hskip]⟩

theorem fingerprint_ignores_writes_below_skipped_dirs (sha256 : List Char → String) {fs fs' : FileSystem}
    {root : String} {p q : RelPath} {c : Content} {t : Int} (hq : q <+: p.dropLast)
    (hdir : fs.lookup q = some (.dir t))
    (hname : entryName root q = RunDataDir.data ∨ entryName root q = ".git".data)
    (hw : fs.writeFile p c = .ok fs') : fingerprint sha256 fs' root = fingerprint sha256 fs root := by
  suffices walk fs' root = walk fs root by rw [fingerprint, fingerprint, this]
  have hskip : skipDir (entryName root q) (.dir t) = true := by simpa [skipDir, Entry.isDir] using hname
  obtain ⟨-, -, hframe⟩ := FileSystem.writeFile_frame hw
  have hqp : q ≠ p := by
    rintro rfl
    unfold FileSystem.writeFile at hw
    split at hw <;> simp_all
  have hp : p ≠ [] := by
    rintro rfl
    exact hqp (List.prefix_nil.mp hq)
  -- away from the skipped directory nothing changed, and it is skipped in both
  have hout : ∀ r, ¬ q <+: r → fs'.lookup r = fs.lookup r := by
    intro r hr
    have hrs : r ≠ p.dropLast := fun h => hr (h ▸ hq)
    rw [hframe r fun h => hr (h ▸ hq.trans (List.dropLast_prefix p))]
    simp [hrs]
  obtain ⟨e', he', hskip'⟩ : ∃ e', fs'.lookup q = some e' ∧ skipDir (entryName root q) e' = true := by
    rw [hframe q hqp, hdir]
    exact ⟨_, rfl, by split_ifs <;> simpa [skipDir] using hskip⟩
  refine walk_eq_of_reached_iff (by rw [hframe [] hp.symm, Option.isSome_map']) fun x => ?_
  by_cases hx : q <+: x.1
  · simp [reached_below_skipped hdir hskip hx, reached_below_skipped he' hskip' hx]
  · have hmem : x ∈ fs'.entries ↔ x ∈ fs.entries := by
      rw [← FileSystem.lookup_eq_some_iff, ← FileSystem.lookup_eq_some_iff, hout x.1 hx]
    rw [hmem, reached_congr fun r hr => hout r fun hqr => hx (hqr.trans hr)]

/-- A project with a `.git` directory holding `HEAD`, and one source file. -/
def gitProject : FileSystem where
  entries := [([], .dir 1), ([".git"], .dir 1), ([".git", "HEAD"], .file 1 (.text "ref: refs/heads/main")),
    (["main.go"], .file 1 (.text "package main"))]
  now := 2
  nodup := by decide
  parent_dir := by decide
  valid_names := by decide

/-- Switching branches rewrites `.git/HEAD`, and the fingerprint of
`gitProject` is as it was. -/
theorem branch_switch_keeps_fingerprint :
    [".git"] <+: [".git", "HEAD"].dropLast ∧ gitProject.lookup [".git"] = some (.dir 1) ∧
      (entryName "/srv/demo" [".git"] = RunDataDir.data ∨ entryName "/srv/demo" [".git"] = ".git".data) ∧
      gitProject.writeFile [".git", "HEAD"] (.text "ref: refs/heads/dev") =
        .ok (gitProject.rewriteAt [".git", "HEAD"] (.text "ref: refs/heads/dev")) ∧
      fingerprint String.mk (gitProject.rewriteAt [".git", "HEAD"] (.text "ref: refs/heads/dev")) "/srv/demo" =
        fingerprint String.mk gitProject "/srv/demo" :=
  have hq : [".git"] <+: [".git", "HEAD"].dropLast := by decide
  have hdir : gitProject.lookup [".git"] = some (.dir 1) := by decide
  have hname : entryName "/srv/demo" [".git"] = RunDataDir.data ∨ entryName "/srv/demo" [".git"] = ".git".data :=
    .inr rfl
  have hhead : gitProject.lookup [".git", "HEAD"] = some (.file 1 (.text "ref: refs/heads/main")) := by decide
  have hw := FileSystem.writeFile_of_file hhead (.text "ref: refs/heads/dev")
  ⟨hq, hdir, hname, hw, fingerprint_ignores_writes_below_skipped_dirs String.mk hq hdir hname hw⟩

/-- Entries rewritten in place, each keeping its kind, are walked in place. -/
theorem walk_map (fs : FileSystem) (f : RelPath → Entry → Entry) (hf : ∀ p e, (f p e).isDir = e.isDir)
    (root : String) :
    walk (fs.map f hf) root = (List.map fun x => (x.1, f x.1 x.2)) <$> walk fs root := by
  have hreached : ∀ p, reached (fs.map f hf) root p = reached fs root p := by
    intro p
    simp only [reached, FileSystem.lookup_map]
    congr 1
    funext q
    cases fs.lookup q <;> simp [skipDir, hf]
  unfold walk
  rw [FileSystem.lookup_map]
  cases fs.lookup [] with
  | none => rfl
  | some e =>
    simp only [Option.map_some', Functor.map, Except.map]
    rw [List.map_insertionSort walkLE walkLE (fun x : RelPath × Entry => (x.1, f x.1 x.2)) _
      fun _ _ _ _ => Iff.rfl]
    have hentries : (fs.map f hf).entries = fs.entries.map fun x => (x.1, f x.1 x.2) := rfl
    simp only [hreached, hentries, List.filter_map, Function.comp_def]

/-- Rewriting a file that already carries the clock's time changes nothing
the walk records. -/
theorem records_walk_rewriteAt {fs : FileSystem} {p : RelPath} {c0 : Content} (c : Content)
    (he : fs.lookup p = some (.file fs.now c0)) (root : String) :
    (records <$> walk (fs.rewriteAt p c) root) = (records <$> walk fs root) := by
  rw [FileSystem.rewriteAt, walk_map]
  cases hwalk : walk fs root with
  | error e => rfl
  | ok xs =>
    simp only [Functor.map, Except.map, records, List.map_map, Function.comp_def, Except.ok.injEq]
    refine List.map_congr_left fun x hx => ?_
    have hlookup := FileSystem.lookup_eq_some_iff.mpr ((mem_walk hwalk).mp hx).1
    split_ifs with hx1
    · rw [hx1, he, Option.some_inj] at hlookup
      simp [← hlookup, hx1, Entry.rewrite, Entry.modTime]
    · rfl

/-- **Writing the build stamp is not seen by the walk.** -/
theorem walk_writeFile_stamp {fs fs' : FileSystem} {c : Content} (root : String)
    (h : fs.writeFile [RunDataDir, buildstamp] c = .ok fs') : walk fs' root = walk fs root := by
  obtain ⟨-, -, hframe⟩ := FileSystem.writeFile_frame h
  have hparent : (fs.lookup [RunDataDir]).any Entry.isDir = true := by
    simpa using FileSystem.writeFile_parent h (List.cons_ne_nil _ _)
  have hrun : fs'.lookup [RunDataDir] = (fs.lookup [RunDataDir]).map fun d =>
      if fs.lookup [RunDataDir, buildstamp] = none then d.touch fs.now else d := by
    simpa using hframe [RunDataDir] (by simp)
  have hdir : (fs.lookup [RunDataDir]).all Entry.isDir := by
    revert hparent
    cases fs.lookup [RunDataDir] <;> simp
  refine walk_eq_of_agree_outside (fun q hq => ?_) hdir ?_
  · have hstamp : q ≠ [RunDataDir, buildstamp] := by rintro rfl; exact hq rfl
    have hdirq : q ≠ [RunDataDir] := by rintro rfl; exact hq rfl
    simpa [hdirq] using hframe q hstamp
  · rw [hrun]
    revert hdir
    cases fs.lookup [RunDataDir] with
    | none => simp
    | some d => split <;> simp

end Staleness

end KnFunc
