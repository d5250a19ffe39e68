import KnFunc.Staleness.Fingerprint

/-!
# What the hash input says about the tree

The walk function writes `"path:mtime:"` with no escaping, and names may hold
`:` and digits. Still, below a root that does not clean to `.`, what is
written determines the entries visited and their modification times
(`hashInput_injective`). Every path below the root starts with the same
prefix `P`, which holds a `/`; the times hold neither `:` nor `/`. When two
inputs first differ in a path, one path is the other extended by `:w`. If `w`
holds a `/`, the longer path has an ancestor the walk must have visited
earlier, yet it sorts after the shorter path: impossible in walk order. If
not, the rest of one input is the rest of the other after a block without
`/`, and a prefix holding `/` cannot repeat behind such a block.

Below a root that cleans to `.` there is no prefix, and two trees collide:
files `a` (modified at 1) and `b` (at 2) write exactly what one file `a:1:b`
(at 2) writes (`fingerprint_collides_below_dot`).
-/

namespace KnFunc.Staleness

/-! ## Lists split at a separator -/

private theorem append_sep_cases {a b u v : List Char} {c : Char} (h : a ++ c :: u = b ++ c :: v) :
    a = b ∨ (∃ w, b = a ++ c :: w ∧ u = w ++ c :: v) ∨ (∃ w, a = b ++ c :: w ∧ v = w ++ c :: u) := by
  rcases List.append_eq_append_iff.mp h with ⟨a', rfl, hrest⟩ | ⟨c', rfl, hrest⟩
  · cases a' with
    | nil => exact .inl (List.append_nil a).symm
    | cons x w =>
      obtain ⟨rfl, hu⟩ := List.cons.inj hrest
      exact .inr (.inl ⟨w, rfl, hu⟩)
  · cases c' with
    | nil => exact .inl (List.append_nil b)
    | cons x w =>
      obtain ⟨rfl, hv⟩ := List.cons.inj hrest
      exact .inr (.inr ⟨w, rfl, hv⟩)

private theorem eq_of_append_sep {a b u v : List Char} {c : Char} (h : a ++ c :: u = b ++ c :: v)
    (ha : c ∉ a) (hb : c ∉ b) : a = b ∧ u = v := by
  rcases append_sep_cases h with rfl | ⟨w, rfl, -⟩ | ⟨w, rfl, -⟩
  · exact ⟨rfl, List.cons.inj (List.append_cancel_left h) |>.2⟩
  · simp at hb
  · simp at ha

/-- A block without `/` cannot stand before a prefix holding `/` and repeat it. -/
private theorem not_prefix_shift {X : List Char} (hX : X ≠ []) (hXs : '/' ∉ X) :
    ∀ n (P : List Char), P.length = n → '/' ∈ P → ¬ P <+: X ++ P := by
  intro n
  induction n using Nat.strong_induction_on with
  | _ n ih =>
    intro P hlen hP hpre
    by_cases hle : P.length ≤ X.length
    · exact hXs ((List.prefix_of_prefix_length_le hpre (List.prefix_append X P) hle).subset hP)
    · obtain ⟨P1, rfl⟩ : X <+: P :=
        List.prefix_of_prefix_length_le (List.prefix_append X P) hpre (by omega)
      have hP1 : '/' ∈ P1 := (List.mem_append.mp hP).resolve_left hXs
      have hshort : P1.length < n := by
        have := List.length_pos.mpr hX
        simp only [List.length_append] at hlen
        omega
      exact ih _ hshort P1 rfl hP1 ((List.prefix_append_right_inj X).mp hpre)

/-! ## Below the root, by name lists -/

private theorem lt_append_of_ne_nil {α : Type} [LinearOrder α] (l : List α) {m : List α}
    (hm : m ≠ []) : l < l ++ m := by
  induction l with
  | nil =>
    obtain ⟨a, m, rfl⟩ := List.exists_cons_of_ne_nil hm
    exact List.Lex.nil
  | cons a l ih => exact List.Lex.cons ih

private theorem intercalate_append_last (l : List (List Char)) (a b : List Char) :
    ['/'].intercalate (l ++ [a]) ++ b = ['/'].intercalate (l ++ [a ++ b]) := by
  cases l <;> simp [Path.intercalate_cons]

private theorem intercalate_inj {x y : List (List Char)} (hx : x ≠ []) (hy : y ≠ [])
    (hxn : ∀ e ∈ x, '/' ∉ e) (hyn : ∀ e ∈ y, '/' ∉ e)
    (h : ['/'].intercalate x = ['/'].intercalate y) : x = y := by
  rw [← List.splitOn_intercalate x '/' hxn hx, h, List.splitOn_intercalate y '/' hyn hy]

section Encoding

variable (P : List Char)

/-- What the walk function writes for an entry below the root, by its name
list and time, when paths below the root start with `P`. -/
def keyRecord (x : List (List Char) × Int) : List Char :=
  P ++ ['/'].intercalate x.1 ++ ':' :: formatInt x.2 ++ [':']

/-- What is written for the entries below the root, in order. -/
def keyInput (xs : List (List (List Char) × Int)) : List Char := (xs.map (keyRecord P)).flatten

/-- A walk below its root, after the name lists `H` visited before it: name
lists strictly increasing, each non-empty with non-empty names free of `/`, and
every ancestor listed, earlier or in `H`. -/
structure Shaped (H : List (List (List Char))) (xs : List (List (List Char) × Int)) : Prop where
  sorted : (H ++ xs.map Prod.fst).Pairwise (· < ·)
  names : ∀ x ∈ xs, x.1 ≠ [] ∧ ∀ e ∈ x.1, e ≠ [] ∧ '/' ∉ e
  ancestors : ∀ x ∈ xs, ∀ k, 0 < k → k < x.1.length → x.1.take k ∈ H ++ xs.map Prod.fst

theorem Shaped.tail {H : List (List (List Char))} {x : List (List Char) × Int}
    {xs : List (List (List Char) × Int)} (h : Shaped H (x :: xs)) : Shaped (H ++ [x.1]) xs where
  sorted := by rw [List.append_assoc, List.singleton_append]; exact h.sorted
  names := fun y hy => h.names y (List.mem_cons_of_mem x hy)
  ancestors := fun y hy k hk hlt => by
    rw [List.append_assoc, List.singleton_append]; exact h.ancestors y (List.mem_cons_of_mem x hy) k hk hlt

theorem keyInput_cons (x : List (List Char) × Int) (xs : List (List (List Char) × Int)) :
    keyInput P (x :: xs) =
      (P ++ ['/'].intercalate x.1) ++ ':' :: (formatInt x.2 ++ ':' :: keyInput P xs) := by
  simp [keyInput, keyRecord]

theorem keyInput_cons_ne_nil (x : List (List Char) × Int) (xs : List (List (List Char) × Int)) :
    keyInput P (x :: xs) ≠ [] := by
  rw [keyInput_cons]; simp

private theorem prefix_keyInput {xs : List (List (List Char) × Int)} (hxs : xs ≠ []) :
    P <+: keyInput P xs := by
  obtain ⟨x, xs, rfl⟩ := List.exists_cons_of_ne_nil hxs
  rw [keyInput_cons, List.append_assoc]
  exact List.prefix_append _ _

/-- The input below the root never is a block without `/` followed by another
such input. -/
private theorem keyInput_ne_shift (hP : '/' ∈ P) {X : List Char} (hX : X ≠ []) (hXs : '/' ∉ X)
    (xs ys : List (List (List Char) × Int)) : keyInput P xs ≠ X ++ keyInput P ys := by
  intro h
  rcases eq_or_ne xs [] with rfl | hxs
  · exact hX (List.append_eq_nil.mp h.symm).1
  have hPx := prefix_keyInput P hxs
  rcases eq_or_ne ys [] with rfl | hys
  · rw [h, keyInput, List.map_nil, List.flatten_nil, List.append_nil] at hPx
    exact hXs (hPx.subset hP)
  · have hXP : X ++ P <+: keyInput P xs := h ▸ (List.prefix_append_right_inj X).mpr (prefix_keyInput P hys)
    exact not_prefix_shift hX hXs _ P rfl hP
      (List.prefix_of_prefix_length_le hPx hXP (by simp))

/-- A list holding `c` is a block without `c`, then its first `c`. -/
private theorem split_first {c : Char} : ∀ {w : List Char}, c ∈ w → ∃ w0 r, w = w0 ++ c :: r ∧ c ∉ w0
  | d :: w, h => by
    by_cases hd : d = c
    · exact ⟨[], w, by rw [hd]; rfl, List.not_mem_nil _⟩
    · obtain ⟨w0, r, rfl, hw0⟩ := split_first ((List.mem_cons.mp h).resolve_left fun e => hd e.symm)
      exact ⟨d :: w0, r, rfl, by simp [hw0, Ne.symm hd]⟩

/-- A name list written as another's, then `:` and a rest holding `/`, has an
ancestor that sorts after the other. -/
private theorem ancestor_after {x y : List (List Char)} (hx : x ≠ []) (hxn : ∀ e ∈ x, '/' ∉ e)
    (hyn : ∀ e ∈ y, '/' ∉ e) {w : List Char} (hw : '/' ∈ w)
    (h : ['/'].intercalate y = ['/'].intercalate x ++ ':' :: w) :
    ∃ k, 0 < k ∧ k < y.length ∧ x < y.take k := by
  obtain ⟨w0, rest, rfl, hw0⟩ := split_first hw
  obtain ⟨xs, a, rfl⟩ : ∃ xs a, x = xs ++ [a] :=
    ⟨x.dropLast, x.getLast hx, (List.dropLast_append_getLast hx).symm⟩
  -- the names of `y` up to the first `/` after the `:`
  set q0 := xs ++ [a ++ ':' :: w0]
  have hq0n : ∀ e ∈ q0, '/' ∉ e := by
    intro e he
    rcases List.mem_append.mp he with he | he
    · exact hxn e (List.mem_append_left _ he)
    · rw [List.eq_of_mem_singleton he]
      simp only [List.mem_append, List.mem_cons, not_or]
      exact ⟨hxn a (by simp), by decide, hw0⟩
  have hJ : ['/'].intercalate y = ['/'].intercalate q0 ++ '/' :: rest := by
    rw [h, ← intercalate_append_last xs a (':' :: w0)]
    simp
  have hy : y = q0 ++ rest.splitOn '/' := by
    have hy0 : y ≠ [] := by rintro rfl; simp [List.intercalate] at hJ
    rw [← List.splitOn_intercalate y '/' hyn hy0, hJ, Path.splitOn_append_cons,
      List.splitOn_intercalate q0 '/' hq0n (by simp [q0])]
  have hlen : q0.length < y.length := by
    have hsum : y.length = q0.length + (rest.splitOn '/').length := by
      rw [hy, List.length_append]
    have : 0 < (rest.splitOn '/').length := List.length_pos.mpr (List.splitOnP_ne_nil _ _)
    omega
  have hlast : List.Lex (· < ·) [a] [a ++ ':' :: w0] :=
    List.Lex.rel (lt_append_of_ne_nil a (List.cons_ne_nil _ _))
  refine ⟨q0.length, by simp [q0], hlen, ?_⟩
  rw [hy, List.take_left]
  exact List.Lex.append_left _ hlast xs

/-- Two walks from the same history cannot differ by one path extending
another with `:` and a rest holding `/`. -/
private theorem deeper_absurd {H : List (List (List Char))} {x y : List (List Char) × Int}
    {xs ys : List (List (List Char) × Int)} (hx : Shaped H (x :: xs)) (hy : Shaped H (y :: ys))
    {w : List Char} (hw : '/' ∈ w) (h : ['/'].intercalate y.1 = ['/'].intercalate x.1 ++ ':' :: w) :
    False := by
  have hxn := hx.names x (List.mem_cons_self x xs)
  have hyn := hy.names y (List.mem_cons_self y ys)
  obtain ⟨k, hk, hklt, hlt⟩ :=
    ancestor_after hxn.1 (fun e he => (hxn.2 e he).2) (fun e he => (hyn.2 e he).2) hw h
  have hanc := hy.ancestors y (List.mem_cons_self y ys) k hk hklt
  have hprefix : y.1.take k < y.1 := by
    conv_rhs => rw [← List.take_append_drop k y.1]
    exact lt_append_of_ne_nil _ (by simp; omega)
  rcases List.mem_append.mp hanc with hH | hys
  · have := List.pairwise_append.mp hx.sorted
    exact lt_asymm hlt (this.2.2 _ hH x.1 (List.mem_cons_self _ _))
  · rw [List.map_cons, List.mem_cons] at hys
    rcases hys with heq | hlater
    · exact absurd (congrArg List.length heq) (by simp; omega)
    · have hsorted := (List.pairwise_append.mp hy.sorted).2.1
      rw [List.map_cons, List.pairwise_cons] at hsorted
      exact lt_asymm hprefix (hsorted.1 _ hlater)

/-- Nor by one path extending another with `:` and a rest free of `/`. -/
private theorem shift_absurd (hP : '/' ∈ P) {fx fy w : List Char}
    (xs ys : List (List (List Char) × Int)) (hfx : ':' ∉ fx) (hfy : '/' ∉ fy) (hw : '/' ∉ w)
    (h : fx ++ ':' :: keyInput P xs = w ++ ':' :: (fy ++ ':' :: keyInput P ys)) : False := by
  rcases append_sep_cases h with rfl | ⟨w', rfl, hrest⟩ | ⟨w', rfl, -⟩
  · have hrest := (List.append_cancel_left h)
    rw [List.cons.injEq] at hrest
    exact keyInput_ne_shift P hP (X := fy ++ [':']) (by simp) (by simpa using hfy) xs ys
      (by simpa using hrest.2)
  · have hw' : '/' ∉ w' := fun h => hw (by simp [h])
    exact keyInput_ne_shift P hP (X := w' ++ ':' :: fy ++ [':']) (by simp)
      (by simp [hw', hfy]) xs ys (by simpa using hrest)
  · simp at hfx

/-- Two walks from the same history that write the same input start with the
same entry. -/
private theorem head_eq (hP : '/' ∈ P) {H : List (List (List Char))} {x y : List (List Char) × Int}
    {xs ys : List (List (List Char) × Int)} (hx : Shaped H (x :: xs)) (hy : Shaped H (y :: ys))
    (h : keyInput P (x :: xs) = keyInput P (y :: ys)) : x = y ∧ keyInput P xs = keyInput P ys := by
  have hxn := hx.names x (List.mem_cons_self x xs)
  have hyn := hy.names y (List.mem_cons_self y ys)
  rw [keyInput_cons, keyInput_cons] at h
  rcases append_sep_cases h with hpath | ⟨w, hext, hrest⟩ | ⟨w, hext, hrest⟩
  · have hkey := intercalate_inj hxn.1 hyn.1 (fun e he => (hxn.2 e he).2) (fun e he => (hyn.2 e he).2)
      (List.append_cancel_left hpath)
    rw [hpath] at h
    obtain ⟨htime, hrest⟩ := eq_of_append_sep (List.cons.inj (List.append_cancel_left h)).2
      (colon_not_mem_formatInt x.2).1 (colon_not_mem_formatInt y.2).1
    exact ⟨Prod.ext hkey (formatInt_injective htime), hrest⟩
  · rw [List.append_assoc] at hext
    have hext := List.append_cancel_left hext
    by_cases hw : '/' ∈ w
    · exact (deeper_absurd hx hy hw hext).elim
    · exact (shift_absurd P hP xs ys (colon_not_mem_formatInt x.2).1
        (colon_not_mem_formatInt y.2).2 hw hrest).elim
  · rw [List.append_assoc] at hext
    have hext := List.append_cancel_left hext
    by_cases hw : '/' ∈ w
    · exact (deeper_absurd hy hx hw hext).elim
    · exact (shift_absurd P hP ys xs (colon_not_mem_formatInt y.2).1
        (colon_not_mem_formatInt x.2).2 hw hrest).elim

/-- What is written below the root determines the walk there. -/
theorem keyInput_injective (hP : '/' ∈ P) :
    ∀ {H : List (List (List Char))} {xs ys : List (List (List Char) × Int)},
      Shaped H xs → Shaped H ys → keyInput P xs = keyInput P ys → xs = ys
  | _, [], [], _, _, _ => rfl
  | _, [], y :: ys, _, _, h => (keyInput_cons_ne_nil P y ys (h.symm.trans rfl)).elim
  | _, x :: xs, [], _, _, h => (keyInput_cons_ne_nil P x xs (h.trans rfl)).elim
  | _, x :: xs, y :: ys, hx, hy, h => by
    obtain ⟨rfl, htail⟩ := head_eq P hP hx hy h
    rw [keyInput_injective hP hx.tail hy.tail htail]

end Encoding

/-! ## The walk's input -/

/-- The name lists and times of entries below the root. -/
def keyed (xs : List (RelPath × Entry)) : List (List (List Char) × Int) :=
  xs.map fun x => (walkKey x.1, x.2.modTime)

/-- A walk that visits anything visits the root first, and only then entries below it. -/
theorem walk_root_first {fs : FileSystem} {root : String} {xs : List (RelPath × Entry)}
    (h : walk fs root = .ok xs) : xs = [] ∨ ∃ e rest, xs = ([], e) :: rest ∧ ∀ x ∈ rest, x.1 ≠ [] := by
  rcases xs with _ | ⟨z, rest⟩
  · exact .inl rfl
  have hsorted := walk_sorted h
  rw [List.map_cons, List.pairwise_cons] at hsorted
  have hz : z.1 = [] := by
    obtain ⟨y, hy, hroot⟩ := walk_ancestor h (List.mem_cons_self z rest) (Nat.zero_le _)
    rw [List.take_zero] at hroot
    rcases List.mem_cons.mp hy with rfl | hy
    · exact hroot
    · have := hsorted.1 _ (List.mem_map_of_mem _ hy)
      rw [hroot] at this
      exact absurd this (List.Lex.not_nil_right _ _)
  refine .inr ⟨z.2, rest, by rw [← hz], fun x hx hx0 => ?_⟩
  have := hsorted.1 _ (List.mem_map_of_mem _ hx)
  rw [hz, hx0] at this
  exact List.Lex.not_nil_right _ _ this

/-- Below the root, a walk has the shape `keyInput_injective` asks for. -/
theorem shaped_walk {fs : FileSystem} {root : String} {e : Entry} {rest : List (RelPath × Entry)}
    (h : walk fs root = .ok (([], e) :: rest)) (hrest : ∀ x ∈ rest, x.1 ≠ []) :
    Shaped [] (keyed rest) where
  sorted := by
    have := walk_sorted h
    rw [List.map_cons, List.pairwise_cons] at this
    simpa [keyed, Function.comp_def] using this.2
  names := by
    simp only [keyed, List.mem_map, forall_exists_index, and_imp]
    rintro _ x hx rfl
    have hvalid := fs.valid_names x ((mem_walk h).mp (List.mem_cons_of_mem _ hx)).1
    refine ⟨by simpa [walkKey] using hrest x hx, ?_⟩
    simp only [walkKey, List.mem_map, forall_exists_index, and_imp]
    rintro _ n hn rfl
    exact ⟨(ValidName.nameElem (hvalid n hn)).1, (ValidName.nameElem (hvalid n hn)).2.2.2⟩
  ancestors := by
    simp only [keyed, List.mem_map, forall_exists_index, and_imp]
    rintro _ x hx rfl k hk hlt
    simp only [walkKey, List.length_map] at hlt
    obtain ⟨y, hy, hyk⟩ := walk_ancestor h (List.mem_cons_of_mem _ hx) hlt.le
    have hy0 : y.1 ≠ [] := by rw [hyk]; simp [hrest x hx]; omega
    rcases List.mem_cons.mp hy with rfl | hy
    · exact absurd rfl hy0
    · simp only [List.nil_append, List.map_map, Function.comp_def, List.mem_map]
      exact ⟨y, hy, by simp [walkKey, hyk, List.map_take]⟩

theorem hashInput_below_root (root : String) (fs : FileSystem) {xs : List (RelPath × Entry)}
    (hxs : ∀ x ∈ xs, x.1 ≠ [] ∧ x ∈ fs.entries) :
    hashInput root xs = keyInput (Path.dirPrefix (Path.clean root.data)) (keyed xs) := by
  induction xs with
  | nil => rfl
  | cons x xs ih =>
    have hx := hxs x (List.mem_cons_self x xs)
    rw [keyed, List.map_cons, keyInput_cons, ← keyed, ← ih fun y hy => hxs y (List.mem_cons_of_mem x hy)]
    simp [hashInput, record, walkPath_eq root hx.1 (fs.valid_names x hx.2)]

private theorem slash_mem_dirPrefix {c : List Char} (hc : c ≠ ['.']) : '/' ∈ Path.dirPrefix c := by
  unfold Path.dirPrefix
  rw [if_neg hc]
  split_ifs <;> simp

/-- The walk writes the root first, as spelled. -/
theorem hashInput_root_cons (root : String) (e : Entry) (rest : List (RelPath × Entry)) :
    hashInput root (([], e) :: rest) =
      root.data ++ ':' :: (formatInt e.modTime ++ ':' :: hashInput root rest) := by
  simp [hashInput, record, walkPath]

/-- **The hash input is injective** below a root that does not clean to `.`:
two walks from that root that write the same input visit the same paths with
the same modification times. -/
theorem hashInput_injective {fs1 fs2 : FileSystem} {root : String} {xs ys : List (RelPath × Entry)}
    (hroot : Path.clean root.data ≠ ['.']) (h1 : walk fs1 root = .ok xs)
    (h2 : walk fs2 root = .ok ys) (h : hashInput root xs = hashInput root ys) :
    records xs = records ys := by
  rcases walk_root_first h1 with rfl | ⟨e1, r1, rfl, hr1⟩ <;>
    rcases walk_root_first h2 with rfl | ⟨e2, r2, rfl, hr2⟩
  · rfl
  · rw [hashInput_root_cons] at h; simp [hashInput] at h
  · rw [hashInput_root_cons] at h; simp [hashInput] at h
  rw [hashInput_root_cons, hashInput_root_cons] at h
  obtain ⟨htime, hrest⟩ := eq_of_append_sep (List.cons.inj (List.append_cancel_left h)).2
    (colon_not_mem_formatInt _).1 (colon_not_mem_formatInt _).1
  have hbelow1 := hashInput_below_root root fs1 fun x hx =>
    ⟨hr1 x hx, ((mem_walk h1).mp (List.mem_cons_of_mem _ hx)).1⟩
  have hbelow2 := hashInput_below_root root fs2 fun x hx =>
    ⟨hr2 x hx, ((mem_walk h2).mp (List.mem_cons_of_mem _ hx)).1⟩
  have hkeyed := keyInput_injective _ (slash_mem_dirPrefix hroot) (shaped_walk h1 hr1)
    (shaped_walk h2 hr2) (hbelow1 ▸ hbelow2 ▸ hrest)
  have hmap : ∀ zs : List (RelPath × Entry), keyed zs = (records zs).map (Prod.map walkKey id) := by
    intro zs; simp [keyed, records, Function.comp_def]
  rw [hmap, hmap] at hkeyed
  have hinj : Function.Injective (Prod.map walkKey (id : Int → Int)) :=
    Prod.map_injective.mpr ⟨walkKey_injective, Function.injective_id⟩
  simp only [records, List.map_cons] at hkeyed ⊢
  rw [formatInt_injective htime, List.map_injective_iff.mpr hinj hkeyed]

/-- What is written depends only on the paths and times visited. -/
theorem hashInput_eq_of_records {root : String} {xs ys : List (RelPath × Entry)}
    (h : records xs = records ys) : hashInput root xs = hashInput root ys := by
  have hfac : ∀ zs : List (RelPath × Entry), hashInput root zs =
      ((records zs).map fun r => walkPath root r.1 ++ ':' :: formatInt r.2 ++ [':']).flatten := by
    intro zs; rw [records, List.map_map]; rfl
  rw [hfac, hfac, h]

/-- What the walk records decides the fingerprint, whatever the digest. -/
theorem fingerprint_congr_records {sha256 : List Char → String} {root : String} {fs1 fs2 : FileSystem}
    (h : (records <$> walk fs1 root) = (records <$> walk fs2 root)) :
    fingerprint sha256 fs1 root = fingerprint sha256 fs2 root := by
  unfold fingerprint
  cases h1 : walk fs1 root <;> cases h2 : walk fs2 root <;>
    simp only [h1, h2, Functor.map, Except.map, Except.error.injEq, Except.ok.injEq, reduceCtorEq] at h ⊢
  · exact h
  · rw [hashInput_eq_of_records h]

/-- **Fingerprints are equal exactly when the walks are**, for a digest
without collisions and a root that does not clean to `.`. -/
theorem fingerprint_eq_iff {sha256 : List Char → String} (hinj : Function.Injective sha256)
    {root : String} (hroot : Path.clean root.data ≠ ['.']) (fs1 fs2 : FileSystem) :
    fingerprint sha256 fs1 root = fingerprint sha256 fs2 root ↔
      (records <$> walk fs1 root) = (records <$> walk fs2 root) := by
  refine ⟨fun h => ?_, fingerprint_congr_records⟩
  unfold fingerprint at h
  cases h1 : walk fs1 root <;> cases h2 : walk fs2 root <;>
    simp only [h1, h2, Functor.map, Except.map, Except.error.injEq, Except.ok.injEq, reduceCtorEq] at h ⊢
  · exact h
  · exact hashInput_injective hroot h1 h2 (hinj h)

/-! ## Below a root that cleans to `.` -/

/-- A project directory with files `a` and `b`, modified at 1 and 2. -/
def splitTree : FileSystem where
  entries := [([], .dir 0), (["a"], .file 1 (.text "")), (["b"], .file 2 (.text ""))]
  now := 3
  nodup := by decide
  parent_dir := by decide
  valid_names := by decide

/-- The same directory with one file `a:1:b`, modified at 2. -/
def mergedTree : FileSystem where
  entries := [([], .dir 0), (["a:1:b"], .file 2 (.text ""))]
  now := 3
  nodup := by decide
  parent_dir := by decide
  valid_names := by decide

/-- Walked from `.`, both directories write `.:0:a:1:b:2:`, so they have one
fingerprint, whatever the digest, though they differ in their entries. -/
theorem fingerprint_collides_below_dot (sha256 : List Char → String) :
    fingerprint sha256 splitTree "." = fingerprint sha256 mergedTree "." ∧
      (records <$> walk splitTree ".") ≠ (records <$> walk mergedTree ".") := by
  have hsplit : walk splitTree "." =
      .ok [([], .dir 0), (["a"], .file 1 (.text "")), (["b"], .file 2 (.text ""))] := by decide
  have hmerged : walk mergedTree "." = .ok [([], .dir 0), (["a:1:b"], .file 2 (.text ""))] := by
    decide
  have hinput : hashInput "." [([], .dir 0), (["a"], .file 1 (.text "")), (["b"], .file 2 (.text ""))] =
      hashInput "." [([], .dir 0), (["a:1:b"], .file 2 (.text ""))] := by decide
  refine ⟨?_, by rw [hsplit, hmerged]; decide⟩
  rw [fingerprint, fingerprint, hsplit, hmerged]
  exact congrArg (fun s => Except.ok (sha256 s)) hinput

/-! ## The root as spelled -/

/-- A root not named `.func` or `.git` is hashed first whenever it is there. -/
theorem walk_of_root {fs : FileSystem} {root : String} {e : Entry} (he : fs.lookup [] = some e)
    (hname : Path.baseName root.data ∉ [RunDataDir.data, ".git".data]) :
    ∃ rest, walk fs root = .ok (([], e) :: rest) := by
  have hreached : reached fs root [] = true := by
    simp only [List.mem_cons, List.mem_singleton, List.not_mem_nil, or_false, not_or] at hname
    simp [reached, he, entryName, skipDir, hname]
  have hw := walk_of_lookup he root
  have hmem := (mem_walk hw).mpr ⟨FileSystem.lookup_eq_some_iff.mp he, hreached⟩
  rcases walk_root_first hw with h | ⟨e1, rest, h, -⟩
  · rw [h] at hmem
    exact absurd hmem (List.not_mem_nil _)
  · have he1 : fs.lookup [] = some e1 :=
      FileSystem.lookup_eq_some_iff.mpr ((mem_walk hw).mp (by rw [h]; exact List.mem_cons_self _ _)).1
    rw [he, Option.some_inj] at he1
    exact ⟨rest, by rw [hw, h, he1]⟩

/-- Where the project directory is missing, the walk's error names the root
as spelled. -/
private theorem lstat_error_inj {r1 r2 : String}
    (h : (s!"lstat {r1}: no such file or directory" : String) = s!"lstat {r2}: no such file or directory") :
    r1 = r2 := by
  have h' : ("lstat " ++ r1 ++ ": no such file or directory").data =
      ("lstat " ++ r2 ++ ": no such file or directory").data := congrArg String.data h
  simp only [String.data_append, List.append_assoc] at h'
  exact String.ext (List.append_cancel_right (List.append_cancel_left h'))

/-- **The fingerprint depends on how the root is spelled.** The walk prints
the root as it is given, so for a digest without collisions, two spellings of
the root that hold no `:` and do not name a skipped directory give a
directory one fingerprint only when they are one string; where there is no
directory, the walk's error names the root. -/
theorem fingerprint_depends_on_spelling {sha256 : List Char → String}
    (hinj : Function.Injective sha256) {r1 r2 : String} (hc1 : ':' ∉ r1.data) (hc2 : ':' ∉ r2.data)
    (hn1 : Path.baseName r1.data ∉ [RunDataDir.data, ".git".data])
    (hn2 : Path.baseName r2.data ∉ [RunDataDir.data, ".git".data]) (fs : FileSystem) :
    fingerprint sha256 fs r1 = fingerprint sha256 fs r2 ↔ r1 = r2 := by
  refine ⟨fun h => ?_, fun h => h ▸ rfl⟩
  unfold fingerprint at h
  cases he : fs.lookup [] with
  | none =>
    simp only [walk, he] at h
    exact lstat_error_inj (Fault.error.inj (Except.error.inj h))
  | some e =>
    obtain ⟨rest1, hw1⟩ := walk_of_root he hn1
    obtain ⟨rest2, hw2⟩ := walk_of_root he hn2
    rw [hw1, hw2] at h
    have hinput := hinj (Except.ok.inj h)
    rw [hashInput_root_cons, hashInput_root_cons] at hinput
    exact String.ext (eq_of_append_sep hinput hc1 hc2).1

end KnFunc.Staleness
