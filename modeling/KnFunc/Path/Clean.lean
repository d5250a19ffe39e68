import Mathlib.Data.List.Basic

/-!
# Go's lexical path functions: `Clean`, `Join`, `Abs`, and the base name

`filepath.Walk` names every entry it visits `filepath.Join(dir, name)`, and
`Join` cleans its result; the fingerprint prints those names. So what the
fingerprint hashes depends on `Clean`: below a root that cleans to `.`, the
entries are named `a`, `a/b`, with no prefix at all. `Create` resolves the
root with `filepath.Abs`, and `os.Lstat` names the root by its base name,
which decides whether the walk skips the root itself.

Paths are `List Char`. `clean` follows `Clean`'s rules: split at `/`, drop
empty and `.` elements, let `..` remove the element before it (or stay, at the
start of a relative path; or vanish, at the start of a rooted one), join the
rest with `/`, and write the empty result as `.`.

What is proved: **idempotence** (`clean_clean`), and the shape of a join with
a name a directory can list (`join_name`, `join_join`): the cleaned directory,
a `/` unless that is `.` (or already `/`), then the name. Iterated, this is
how the walk spells every path below its root.
-/

namespace KnFunc.Path

/-- Whether a path is rooted (starts with `/`). -/
def rooted (path : List Char) : Bool := path.head? = some '/'

/-- One element of `Clean`'s scan, against the elements kept so far (the last
kept first). -/
def cleanStep (rooted : Bool) (kept : List (List Char)) (e : List Char) : List (List Char) :=
  if e = [] ∨ e = ['.'] then kept
  else if e = ['.', '.'] then
    match kept with
    | top :: rest => if top = ['.', '.'] then e :: kept else rest
    | [] => if rooted then [] else [e]
  else e :: kept

/-- The elements `Clean` keeps of a path, the last one first. -/
def cleanElems (path : List Char) : List (List Char) :=
  (path.splitOn '/').foldl (cleanStep (rooted path)) []

/-- The path `Clean` writes for the elements it kept. -/
def render (rooted : Bool) (kept : List (List Char)) : List Char :=
  let body := ['/'].intercalate kept.reverse
  if rooted then '/' :: body else if body = [] then ['.'] else body

/-- `filepath.Clean`. -/
def clean (path : List Char) : List Char :=
  if path = [] then ['.'] else render (rooted path) (cleanElems path)

/-- `filepath.Join(dir, name)`: empty leading elements are ignored, and the
result is cleaned. -/
def join (dir name : List Char) : List Char :=
  if dir ≠ [] then clean (dir ++ '/' :: name) else if name ≠ [] then clean name else []

/-- `filepath.Abs`, with `cwd` the working directory `os.Getwd` reports. -/
def abs (cwd path : List Char) : List Char :=
  if rooted path then clean path else join cwd path

/-- The name `os.Lstat` reports for a path: trailing slashes dropped (the
first character kept), then what follows the last `/`. -/
def baseName (path : List Char) : List Char :=
  match path with
  | [] => []
  | c :: cs =>
    let trimmed := c :: (cs.reverse.dropWhile (· = '/')).reverse
    match trimmed.reverse with
    | [] => []
    | last :: before => (last :: before.takeWhile (· ≠ '/')).reverse

example : clean "./a/../b//c/".data = "b/c".data := by decide
example : baseName "/srv/.git/".data = ".git".data := by decide

/-- What `Join` writes before a name joined to a directory that cleans to `c`. -/
def dirPrefix (c : List Char) : List Char :=
  if c = ['.'] then [] else if c = ['/'] then ['/'] else c ++ ['/']

/-- An element `Clean` keeps as it is: not empty, not `.` or `..`, without
`/`. Every name a directory lists is one. -/
def NameElem (e : List Char) : Prop := e ≠ [] ∧ e ≠ ['.'] ∧ e ≠ ['.', '.'] ∧ '/' ∉ e

/-- What `Clean` can have kept, last element first: names, after the `..`
elements a relative path cannot cancel (none when the path is rooted). -/
def Kept (rooted : Bool) (kept : List (List Char)) : Prop :=
  ∃ names k, kept = names ++ List.replicate k ['.', '.'] ∧ (rooted → k = 0) ∧
    ∀ e ∈ names, NameElem e

/-! ## Splitting and joining at `/` -/

private theorem intercalate_cons_cons (a b : List Char) (l : List (List Char)) :
    ['/'].intercalate (a :: b :: l) = a ++ '/' :: ['/'].intercalate (b :: l) := by
  simp [List.intercalate, List.intersperse]

private theorem intercalate_append_singleton {l : List (List Char)} (hl : l ≠ []) (a : List Char) :
    ['/'].intercalate (l ++ [a]) = ['/'].intercalate l ++ '/' :: a := by
  induction l with
  | nil => exact absurd rfl hl
  | cons x l ih =>
    cases l with
    | nil => simp [List.intercalate]
    | cons y l =>
      have := ih (List.cons_ne_nil y l)
      rw [List.cons_append] at this
      rw [List.cons_append, List.cons_append, intercalate_cons_cons, this, intercalate_cons_cons]
      simp

private theorem head?_intercalate {e : List Char} (he : e ≠ []) (l : List (List Char)) :
    (['/'].intercalate (e :: l)).head? = e.head? := by
  cases l with
  | nil => simp [List.intercalate]
  | cons b l => rw [intercalate_cons_cons, List.head?_append_of_ne_nil _ he]

theorem intercalate_cons (a : List Char) (l : List (List Char)) :
    ['/'].intercalate (a :: l) = a ++ (l.map ('/' :: ·)).flatten := by
  induction l generalizing a with
  | nil => simp [List.intercalate]
  | cons b l ih => rw [intercalate_cons_cons, ih]; simp

theorem not_mem_of_mem_splitOn {l e : List Char} (h : e ∈ l.splitOn '/') : '/' ∉ e := by
  induction l generalizing e with
  | nil => simp_all
  | cons c l ih =>
    simp only [List.splitOn, List.splitOnP_cons] at h ih
    split_ifs at h with hc
    · rcases List.mem_cons.mp h with rfl | h
      · simp
      · exact ih h
    · obtain ⟨hd, tl, hsplit⟩ := List.exists_cons_of_ne_nil (List.splitOnP_ne_nil _ l)
      rw [hsplit, List.modifyHead_cons] at h
      rcases List.mem_cons.mp h with rfl | h
      · simp only [beq_iff_eq] at hc
        simpa [Ne.symm hc] using ih (hsplit ▸ List.mem_cons_self hd tl)
      · exact ih (hsplit ▸ List.mem_cons_of_mem hd h)

theorem splitOn_append_cons (a b : List Char) :
    (a ++ '/' :: b).splitOn '/' = a.splitOn '/' ++ b.splitOn '/' := by
  induction a with
  | nil => simp [List.splitOn]
  | cons c a ih =>
    simp only [List.splitOn, List.splitOnP_cons, List.cons_append] at ih ⊢
    split_ifs
    · rw [ih]; rfl
    · obtain ⟨hd, tl, hsplit⟩ := List.exists_cons_of_ne_nil (List.splitOnP_ne_nil (· == '/') a)
      rw [ih, hsplit]; rfl

theorem splitOn_name {e : List Char} (he : '/' ∉ e) : e.splitOn '/' = [e] :=
  List.splitOnP_eq_single _ _ fun _ hx hsep => he (eq_of_beq hsep ▸ hx)

/-! ## The kept elements -/

@[simp] theorem cleanStep_nil (r : Bool) (kept : List (List Char)) : cleanStep r kept [] = kept := by
  simp [cleanStep]

theorem cleanStep_name {e : List Char} (he : NameElem e) (r : Bool) (kept : List (List Char)) :
    cleanStep r kept e = e :: kept := by
  obtain ⟨h0, h1, h2, -⟩ := he
  simp [cleanStep, h0, h1, h2]

theorem kept_nil (r : Bool) : Kept r [] := ⟨[], 0, rfl, fun _ => rfl, by simp⟩

theorem Kept.mem {r : Bool} {kept : List (List Char)} (hk : Kept r kept) {e : List Char}
    (he : e ∈ kept) : e ≠ [] ∧ e ≠ ['.'] ∧ '/' ∉ e := by
  obtain ⟨names, k, rfl, -, hn⟩ := hk
  rcases List.mem_append.mp he with he | he
  · exact ⟨(hn e he).1, (hn e he).2.1, (hn e he).2.2.2⟩
  · rw [List.eq_of_mem_replicate he]; simp

/-- One step of the scan keeps the shape of what is kept. -/
theorem Kept.step {r : Bool} {kept : List (List Char)} (hk : Kept r kept) {e : List Char}
    (he : '/' ∉ e) : Kept r (cleanStep r kept e) := by
  obtain ⟨names, k, rfl, hr, hn⟩ := hk
  by_cases h1 : e = [] ∨ e = ['.']
  · unfold KnFunc.Path.cleanStep
    rw [if_pos h1]
    exact ⟨names, k, rfl, hr, hn⟩
  by_cases h2 : e = ['.', '.']
  · subst h2
    cases names with
    | cons n ns =>
      have hn' : n ≠ ['.', '.'] := (hn n (List.mem_cons_self n ns)).2.2.1
      simp only [KnFunc.Path.cleanStep, if_neg h1, if_true, List.cons_append, hn', if_false]
      exact ⟨ns, k, rfl, hr, fun e he => hn e (List.mem_cons_of_mem n he)⟩
    | nil =>
      cases k with
      | zero =>
        cases r
        · exact ⟨[], 1, by decide, by simp, by simp⟩
        · exact ⟨[], 0, by decide, fun _ => rfl, by simp⟩
      | succ k =>
        have hr' : r = false := by cases r <;> simp_all
        refine ⟨[], k + 2, ?_, by simp [hr'], by simp⟩
        simp [KnFunc.Path.cleanStep, List.replicate_succ]
  · have hname : NameElem e := ⟨fun h => h1 (.inl h), fun h => h1 (.inr h), h2, he⟩
    unfold KnFunc.Path.cleanStep
    rw [if_neg h1, if_neg h2]
    exact ⟨e :: names, k, rfl, hr, by simpa [hname] using hn⟩

theorem Kept.foldl {r : Bool} {es : List (List Char)} (hes : ∀ e ∈ es, '/' ∉ e) :
    ∀ {kept : List (List Char)}, Kept r kept → Kept r (es.foldl (KnFunc.Path.cleanStep r) kept) := by
  induction es with
  | nil => exact id
  | cons e es ih =>
    intro kept hk
    exact ih (fun x hx => hes x (List.mem_cons_of_mem e hx))
      (hk.step (hes e (List.mem_cons_self e es)))

theorem kept_cleanElems (path : List Char) : Kept (rooted path) (cleanElems path) :=
  Kept.foldl (fun _ he => not_mem_of_mem_splitOn he) (kept_nil _)

private theorem foldl_dots {r : Bool} {k : Nat} (hr : r → k = 0) :
    (List.replicate k ['.', '.']).foldl (cleanStep r) [] = List.replicate k ['.', '.'] := by
  induction k with
  | zero => rfl
  | succ k ih =>
    have hr' : r = false := by cases r <;> simp_all
    subst hr'
    have hsucc : (List.replicate (k + 1) ['.', '.']).foldl (cleanStep false) [] =
        cleanStep false (List.replicate k ['.', '.']) ['.', '.'] := by
      rw [List.replicate_succ', List.foldl_append, ih (by simp)]
      rfl
    rw [hsucc]
    cases k <;> simp [cleanStep, List.replicate_succ]

private theorem foldl_names {r : Bool} {names : List (List Char)} (hn : ∀ e ∈ names, NameElem e)
    (acc : List (List Char)) : names.reverse.foldl (cleanStep r) acc = names ++ acc := by
  induction names with
  | nil => rfl
  | cons n ns ih =>
    rw [List.reverse_cons, List.foldl_append, ih fun e he => hn e (List.mem_cons_of_mem n he)]
    simp [cleanStep_name (hn n (List.mem_cons_self n ns))]

/-- Scanning what was kept, in path order, keeps it all again. -/
theorem Kept.foldl_reverse {r : Bool} {kept : List (List Char)} (hk : Kept r kept) :
    kept.reverse.foldl (KnFunc.Path.cleanStep r) [] = kept := by
  obtain ⟨names, k, rfl, hr, hn⟩ := hk
  rw [List.reverse_append, List.reverse_replicate, List.foldl_append, foldl_dots hr,
    foldl_names hn]

/-! ## Idempotence -/

private theorem intercalate_reverse_ne_nil {r : Bool} {kept : List (List Char)} (hk : Kept r kept)
    (hne : kept ≠ []) :
    ∃ e rest, kept.reverse = e :: rest ∧ e ≠ [] ∧ e ≠ ['.'] ∧ '/' ∉ e ∧
      (['/'].intercalate kept.reverse).head? = e.head? := by
  obtain ⟨e, rest, he⟩ := List.exists_cons_of_ne_nil (List.reverse_ne_nil_iff.mpr hne)
  have hmem := hk.mem (List.mem_reverse.mp (he ▸ List.mem_cons_self e rest))
  exact ⟨e, rest, he, hmem.1, hmem.2.1, hmem.2.2, he ▸ head?_intercalate hmem.1 rest⟩

/-- `Clean` reads back what it wrote: the same rootedness, the same elements. -/
theorem cleanElems_render {r : Bool} {kept : List (List Char)} (hk : Kept r kept) :
    rooted (render r kept) = r ∧ cleanElems (render r kept) = kept := by
  rcases eq_or_ne kept [] with rfl | hne
  · cases r <;> decide
  obtain ⟨e, rest, he, he0, -, hes, hhead⟩ := intercalate_reverse_ne_nil hk hne
  have hsplit : (['/'].intercalate kept.reverse).splitOn '/' = kept.reverse :=
    List.splitOn_intercalate _ '/' (fun l hl => (hk.mem (List.mem_reverse.mp hl)).2.2)
      (List.reverse_ne_nil_iff.mpr hne)
  have hbody : ['/'].intercalate kept.reverse ≠ [] := by
    intro h; rw [h] at hhead; exact he0 (List.head?_eq_none_iff.mp hhead.symm)
  cases r
  · have hroot : rooted (['/'].intercalate kept.reverse) = false := by
      obtain ⟨c, cs, rfl⟩ := List.exists_cons_of_ne_nil he0
      simp only [rooted, hhead, List.head?_cons, Option.some.injEq, decide_eq_false_iff_not]
      rintro rfl; exact hes (List.mem_cons_self _ _)
    simp only [render, hbody, if_false, Bool.false_eq_true]
    exact ⟨hroot, by rw [cleanElems, hroot, hsplit, hk.foldl_reverse]⟩
  · simp only [render, if_true]
    refine ⟨rfl, ?_⟩
    simp only [cleanElems, rooted, List.head?_cons, decide_True, List.splitOn, List.splitOnP_cons,
      beq_self_eq_true, if_true, List.foldl_cons, cleanStep_nil]
    exact (congrArg (List.foldl (cleanStep true) []) hsplit).trans hk.foldl_reverse

theorem render_ne_nil (r : Bool) (kept : List (List Char)) : render r kept ≠ [] := by
  unfold render
  cases r
  · by_cases h : ['/'].intercalate kept.reverse = [] <;> simp [h]
  · simp

/-- **Idempotence**: a clean path is its own `Clean`. -/
theorem clean_clean (path : List Char) : clean (clean path) = clean path := by
  rcases eq_or_ne path [] with rfl | hne
  · decide
  have hk := kept_cleanElems path
  obtain ⟨hroot, helems⟩ := cleanElems_render hk
  simp only [clean, hne, if_false, render_ne_nil, hroot, helems]

/-- `Abs` is empty only when the working directory is. -/
theorem abs_eq_nil {cwd path : List Char} (h : abs cwd path = []) : cwd = [] := by
  unfold abs join clean at h
  split_ifs at h <;> simp_all [render_ne_nil]

/-! ## Joining a name -/

private theorem rooted_append {d : List Char} (hd : d ≠ []) (s : List Char) :
    rooted (d ++ s) = rooted d := by
  simp [rooted, List.head?_append_of_ne_nil _ hd]

theorem cleanElems_append_name {d n : List Char} (hd : d ≠ []) (hn : NameElem n) :
    cleanElems (d ++ '/' :: n) = n :: cleanElems d := by
  rw [cleanElems, rooted_append hd, splitOn_append_cons, splitOn_name hn.2.2.2, List.foldl_append,
    List.foldl_cons, List.foldl_nil, cleanStep_name hn]
  rfl

private theorem render_ne {r : Bool} {kept : List (List Char)} (hk : Kept r kept) (hne : kept ≠ []) :
    render r kept ≠ ['.'] ∧ render r kept ≠ ['/'] := by
  obtain ⟨e, rest, he, he0, hdot, hes, hhead⟩ := intercalate_reverse_ne_nil hk hne
  have hbody : ['/'].intercalate kept.reverse ≠ [] := by
    intro h; rw [h] at hhead; exact he0 (List.head?_eq_none_iff.mp hhead.symm)
  cases r
  · simp only [render, hbody, if_false, Bool.false_eq_true]
    rw [he] at hhead ⊢
    cases rest with
    | nil =>
      simp only [List.intercalate, List.intersperse, List.flatten, List.append_nil]
      refine ⟨hdot, fun h => hes (h ▸ List.mem_singleton_self _)⟩
    | cons b rest =>
      rw [intercalate_cons_cons]
      have hlen : 2 ≤ (e ++ '/' :: ['/'].intercalate (b :: rest)).length := by
        have : e.length ≠ 0 := by simpa using he0
        simp only [List.length_append, List.length_cons]
        omega
      exact ⟨fun h => by simp [h] at hlen, fun h => by simp [h] at hlen⟩
  · simp [render, hbody]

/-- A name cleans onto the end of what `Clean` kept. -/
theorem render_cons_name {r : Bool} {kept : List (List Char)} (hk : Kept r kept) {n : List Char}
    (hn : NameElem n) : render r (n :: kept) = dirPrefix (render r kept) ++ n := by
  rcases eq_or_ne kept [] with rfl | hne
  · cases r
    · simp [render, dirPrefix, List.intercalate, hn.1]
    · simp [render, dirPrefix, List.intercalate]
  obtain ⟨hdot, hslash⟩ := render_ne hk hne
  rw [dirPrefix, if_neg hdot, if_neg hslash]
  have hbody : ['/'].intercalate kept.reverse ≠ [] := by
    obtain ⟨e, rest, he, he0, -, -, hhead⟩ := intercalate_reverse_ne_nil hk hne
    intro h; rw [h] at hhead; exact he0 (List.head?_eq_none_iff.mp hhead.symm)
  have hrev : (n :: kept).reverse = kept.reverse ++ [n] := List.reverse_cons n kept
  cases r <;> simp [render, hrev, intercalate_append_singleton (List.reverse_ne_nil_iff.mpr hne),
    hbody]

/-- **Joining a name**: the cleaned directory, a `/` unless it is `.` (or
already `/`), then the name. -/
theorem join_name (d : List Char) {n : List Char} (hn : NameElem n) :
    join d n = dirPrefix (clean d) ++ n := by
  rcases eq_or_ne d [] with rfl | hd
  · have hn0 : n ≠ [] := hn.1
    have hroot : rooted n = false := by
      obtain ⟨c, cs, rfl⟩ := List.exists_cons_of_ne_nil hn0
      simp only [rooted, List.head?_cons, Option.some.injEq, decide_eq_false_iff_not]
      rintro rfl; exact hn.2.2.2 (List.mem_cons_self _ _)
    have helems : cleanElems n = [n] := by
      rw [cleanElems, splitOn_name hn.2.2.2, List.foldl_cons, List.foldl_nil, cleanStep_name hn]
    have hjoin : join [] n = render false [n] := by simp [join, hn0, clean, hroot, helems]
    rw [hjoin, render_cons_name (kept_nil false) hn]
    rfl
  · have hk := kept_cleanElems d
    simp only [join, ne_eq, hd, not_false_eq_true, if_true, clean, List.append_eq_nil,
      List.cons_ne_nil, and_false, if_false, rooted_append hd, cleanElems_append_name hd hn,
      render_cons_name hk hn]

theorem clean_join (d : List Char) {n : List Char} (hn : NameElem n) : clean (join d n) = join d n := by
  unfold join
  split_ifs with h1 h2
  · exact clean_clean _
  · exact clean_clean _
  · exact absurd (not_not.mp h2) hn.1

private theorem dirPrefix_append_name (x : List Char) {n : List Char} (hn : NameElem n) :
    dirPrefix (x ++ n) = x ++ n ++ ['/'] := by
  have hsingle : ∀ c, x ++ n = [c] → n = [c] := by
    intro c h
    rcases List.append_eq_cons_iff.mp h with ⟨-, h⟩ | ⟨a', -, h⟩
    · exact h
    · exact absurd (List.append_eq_nil.mp h.symm).2 hn.1
  have hdot : x ++ n ≠ ['.'] := fun h => hn.2.1 (hsingle _ h)
  have hslash : x ++ n ≠ ['/'] := fun h => hn.2.2.2 (hsingle _ h ▸ List.mem_singleton_self _)
  simp only [dirPrefix, hdot, hslash, if_false]

/-- A name joined to a join: the first join, `/`, the name. -/
theorem join_join (d : List Char) {n m : List Char} (hn : NameElem n) (hm : NameElem m) :
    join (join d n) m = join d n ++ '/' :: m := by
  rw [join_name _ hm, clean_join d hn, join_name d hn, dirPrefix_append_name _ hn]
  simp

end KnFunc.Path
