import Mathlib

/-!
File paths the way Go's `path/filepath` package treats them on Unix: as texts that are cut at their
slashes, without a look at the file system. A path names a position in the tree of directories, and
the operations on texts are described by what they do to the positions.
-/

namespace Hysteron

abbrev Path := List Char

namespace FilePath

/-! ## The operations -/

/--
Append one element to a cleaned path, whose last element is the first one of `stack`. An empty
element and a single dot say nothing, two dots take the last element back. A path that does not
start at the root keeps the ones that lead out of it.
-/
def step (rooted : Bool) (stack : List Path) (name : Path) : List Path :=
  if name = [] ∨ name = ['.'] then stack
  else if name = ['.', '.'] then
    match stack with
    | [] => if rooted then [] else [name]
    | top :: rest => if top = ['.', '.'] then name :: top :: rest else rest
  else name :: stack

def isAbs (path : Path) : Bool := path.head? == some '/'

def names (path : Path) : List Path :=
  ((path.splitOn '/').foldl (step (isAbs path)) []).reverse

def clean (path : Path) : Path :=
  if isAbs path then '/' :: ['/'].intercalate (names path)
  else if names path = [] then ['.']
  else ['/'].intercalate (names path)

def join (elems : List Path) : Path :=
  match elems.dropWhile (· == []) with
  | [] => []
  | rest => clean (['/'].intercalate rest)

def dir (path : Path) : Path :=
  clean (path.reverse.dropWhile (· != '/')).reverse

def base (path : Path) : Path :=
  if path = [] then ['.']
  else
    match (path.reverse.dropWhile (· == '/')).takeWhile (· != '/') with
    | [] => ['/']
    | last => last.reverse

def relNames (basenames targnames : List Path) : Option Path :=
  match basenames, targnames with
  | b :: bs, t :: ts =>
    if b = t then relNames bs ts
    else if b = ['.', '.'] then none
    else some (['/'].intercalate ((b :: bs).map (fun _ => ['.', '.']) ++ t :: ts))
  | bs, ts => some (['/'].intercalate (bs.map (fun _ => ['.', '.']) ++ ts))

/--
`Rel`. A target that is the working directory takes part as the element `.`, a base is then empty.
-/
def rel (basepath targpath : Path) : Option Path :=
  if clean targpath = clean basepath then some ['.']
  else if isAbs basepath ≠ isAbs targpath then none
  else
    relNames (names basepath)
      (if isAbs targpath = false ∧ names targpath = [] then [['.']] else names targpath)

/-! ## Positions -/

def absolute (cwd path : Path) : Path :=
  if isAbs path then path else '/' :: cwd ++ '/' :: path

def position (cwd path : Path) : List Path := names (absolute cwd path)

def Within (cwd path ancestor : Path) : Prop := position cwd ancestor <+: position cwd path

instance (cwd path ancestor : Path) : Decidable (Within cwd path ancestor) :=
  inferInstanceAs (Decidable (_ <+: _))

def Overlap (cwd path other : Path) : Prop := Within cwd path other ∨ Within cwd other path

instance (cwd path other : Path) : Decidable (Overlap cwd path other) :=
  inferInstanceAs (Decidable (_ ∨ _))

variable {cwd path other ancestor region : Path}

theorem Within.trans (h : Within cwd path other) (h' : Within cwd other ancestor)
    : Within cwd path ancestor :=
  List.IsPrefix.trans h' h

theorem Overlap.symm (h : Overlap cwd path other) : Overlap cwd other path := Or.symm h

theorem Overlap.of_within (h : Within cwd path region) (h' : Within cwd path other)
    : Overlap cwd region other := by
  rcases Nat.le_total (position cwd region).length (position cwd other).length with hle | hle
  . exact .inr (List.prefix_of_prefix_length_le h h' hle)
  . exact .inl (List.prefix_of_prefix_length_le h' h hle)

theorem Overlap.of_overlap (h : Within cwd path region) (h' : Overlap cwd path other)
    : Overlap cwd region other := by
  rcases h' with h' | h'
  . exact .of_within h h'
  . exact .inr (h'.trans h)

/-! ## Elements -/

structure IsName (name : Path) : Prop where
  ne_nil : name ≠ []
  ne_dot : name ≠ ['.']
  no_slash : '/' ∉ name

theorem no_slash_of_mem_splitOn {name : Path} (h : name ∈ path.splitOn '/') : '/' ∉ name := by
  induction path generalizing name with
  | nil =>
    rw [List.splitOn_nil, List.mem_singleton] at h
    simp [h]
  | cons c cs ih =>
    rw [List.splitOn_cons_eq_if_modifyHead] at h
    split at h
    next =>
      rcases List.mem_cons.mp h with rfl | h
      . simp
      . exact ih h
    next hc =>
      obtain ⟨first, rest, hsplit⟩ := List.exists_cons_of_ne_nil (List.splitOn_ne_nil '/' cs)
      rw [hsplit, List.modifyHead_cons] at h
      rcases List.mem_cons.mp h with rfl | h
      . have hne : '/' ≠ c := fun heq => hc (by simp [← heq])
        have hfirst := ih (hsplit ▸ List.mem_cons_self)
        simp [hne, hfirst]
      . exact ih (hsplit ▸ List.mem_cons_of_mem _ h)

section Step

variable {rooted : Bool} {stack : List Path} {name : Path}

theorem step_skip (h : name = [] ∨ name = ['.']) : step rooted stack name = stack := by
  unfold step
  rw [if_pos h]

@[simp]
theorem step_nil : step rooted stack [] = stack := step_skip (.inl rfl)

@[simp]
theorem step_dot : step rooted stack ['.'] = stack := step_skip (.inr rfl)

theorem step_name (h : IsName name) (hup : name ≠ ['.', '.'])
    : step rooted stack name = name :: stack := by
  unfold step
  rw [if_neg (by simp [h.ne_nil, h.ne_dot]), if_neg hup]

theorem step_cases (rooted : Bool) (stack : List Path) (name : Path)
    : ((name = [] ∨ name = ['.']) ∧ step rooted stack name = stack)
        ∨
      (name = ['.', '.'] ∧ rooted = true ∧ stack = [] ∧ step rooted stack name = [])
        ∨
      (∃ top, name = ['.', '.'] ∧ top ≠ ['.', '.'] ∧ stack = top :: step rooted stack name)
        ∨
      (name ≠ [] ∧ name ≠ ['.'] ∧ (rooted = true → name = ['.', '.'] → ['.', '.'] ∈ stack)
        ∧ step rooted stack name = name :: stack) := by
  by_cases hskip : name = [] ∨ name = ['.']
  . exact .inl ⟨hskip, step_skip hskip⟩
  obtain ⟨hnil, hdot⟩ := not_or.mp hskip
  by_cases hup : name = ['.', '.']
  . subst hup
    cases stack with
    | nil =>
      cases rooted with
      | true => exact .inr (.inl ⟨rfl, rfl, rfl, by simp [step]⟩)
      | false => exact .inr (.inr (.inr ⟨hnil, hdot, by simp, by simp [step]⟩))
    | cons top rest =>
      by_cases htop : top = ['.', '.']
      . exact .inr (.inr (.inr ⟨hnil, hdot, by simp [htop], by simp [step, htop]⟩))
      . exact .inr (.inr (.inl ⟨top, rfl, htop, by simp [step, htop]⟩))
  . refine .inr (.inr (.inr ⟨hnil, hdot, fun _ h => absurd h hup, ?_⟩))
    unfold step
    rw [if_neg hskip, if_neg hup]

def Cleaned (rooted : Bool) (stack : List Path) : Prop :=
  ∀ name ∈ stack, IsName name ∧ (rooted = true → name ≠ ['.', '.'])

theorem Cleaned.step (h : Cleaned rooted stack) (hname : '/' ∉ name)
    : Cleaned rooted (step rooted stack name) := by
  rcases step_cases rooted stack name with ⟨-, heq⟩ | ⟨-, -, -, heq⟩ | ⟨top, -, -, heq⟩
      | ⟨hnil, hdot, hup, heq⟩
  . rw [heq]
    exact h
  . rw [heq]
    exact fun _ hmem => absurd hmem List.not_mem_nil
  . exact fun other hmem => h other (heq ▸ List.mem_cons_of_mem _ hmem)
  . rw [heq]
    intro other hmem
    rcases List.mem_cons.mp hmem with rfl | hmem
    . exact ⟨⟨hnil, hdot, hname⟩, fun hrooted hother => (h _ (hup hrooted hother)).2 hrooted rfl⟩
    . exact h other hmem

theorem Cleaned.foldl {elems : List Path} (helems : ∀ name ∈ elems, '/' ∉ name)
    (h : Cleaned rooted stack)
    : Cleaned rooted (elems.foldl (FilePath.step rooted) stack) := by
  induction elems generalizing stack with
  | nil => exact h
  | cons name rest ih =>
    exact ih (fun other hmem => helems other (List.mem_cons_of_mem _ hmem))
      (h.step (helems name List.mem_cons_self))

theorem foldl_cleaned {elems : List Path} (helems : ∀ name ∈ elems, '/' ∉ name)
    (start : List Path) (hstart : rooted = true → start = [])
    : (elems.foldl (step rooted) []).reverse.foldl (step true) start
        =
      elems.foldl (step true) start := by
  induction elems using List.reverseRecOn with
  | nil => rfl
  | append_singleton elems name ih =>
    have hinit : ∀ other ∈ elems, '/' ∉ other :=
      fun other hmem => helems other (List.mem_append_left _ hmem)
    have hclean : Cleaned rooted (elems.foldl (step rooted) []) :=
      Cleaned.foldl hinit (fun _ hmem => absurd hmem List.not_mem_nil)
    specialize ih hinit
    rw [List.foldl_concat, List.foldl_concat, ← ih]
    generalize elems.foldl (step rooted) [] = stack at hclean
    rcases step_cases rooted stack name with ⟨hskip, heq⟩ | ⟨hup, hrooted, hstack, heq⟩
        | ⟨top, hup, htop, heq⟩ | ⟨-, -, -, heq⟩
    . rw [heq, step_skip hskip]
    . rw [heq, hstack, hup, hstart hrooted]
      rfl
    . -- the element that is taken back was the last one
      have hmem : top ∈ stack := heq ▸ List.mem_cons_self
      have hpush : stack.reverse.foldl (step true) start
          = top :: (step rooted stack name).reverse.foldl (step true) start := by
        conv_lhs => rw [heq, List.reverse_cons, List.foldl_concat]
        exact step_name (hclean top hmem).1 htop
      rw [hpush, hup]
      simp [step, htop]
    . rw [heq, List.reverse_cons, List.foldl_concat]

theorem foldl_names {elems : List Path} (h : Cleaned true elems)
    : elems.foldl (step rooted) stack = elems.reverse ++ stack := by
  induction elems generalizing stack with
  | nil => rfl
  | cons name rest ih =>
    obtain ⟨hname, hup⟩ := h name List.mem_cons_self
    rw [List.foldl_cons, step_name hname (hup rfl),
      ih (fun other hmem => h other (List.mem_cons_of_mem _ hmem))]
    simp

end Step

theorem cleaned_names (path : Path) : Cleaned (isAbs path) (names path) := by
  have hfold : Cleaned (isAbs path) ((path.splitOn '/').foldl (step (isAbs path)) []) :=
    Cleaned.foldl (fun _ => no_slash_of_mem_splitOn) (fun _ h => absurd h List.not_mem_nil)
  exact fun name hmem => hfold name (List.mem_reverse.mp hmem)

/-! ## Cleaned paths -/

@[simp]
theorem isAbs_cons (path : Path) : isAbs ('/' :: path) = true := rfl

theorem isAbs_append (h : path ≠ []) (tail : Path) : isAbs (path ++ tail) = isAbs path := by
  cases path with
  | nil => exact absurd rfl h
  | cons c cs => rfl

theorem exists_cons_of_isAbs (h : isAbs path = true) : ∃ tail, path = '/' :: tail := by
  cases path with
  | nil => simp [isAbs] at h
  | cons c cs => exact ⟨cs, by simpa [isAbs] using h⟩

theorem isAbs_intercalate {elems : List Path} (h : ∀ name ∈ elems, IsName name)
    : isAbs (['/'].intercalate elems) = false := by
  cases elems with
  | nil => rfl
  | cons name rest =>
    have hname := h name List.mem_cons_self
    have hhead : isAbs name = false := by
      by_contra habs
      obtain ⟨tail, htail⟩ := exists_cons_of_isAbs (by simpa using habs)
      exact hname.no_slash (htail ▸ List.mem_cons_self)
    cases rest with
    | nil => simpa using hhead
    | cons next rest =>
      rw [List.intercalate_cons_cons, List.append_assoc, isAbs_append hname.ne_nil, hhead]

@[simp]
theorem isAbs_clean (path : Path) : isAbs (clean path) = isAbs path := by
  unfold clean
  split
  next habs => rw [isAbs_cons, habs]
  next habs =>
    split
    next => simp [isAbs] at habs ⊢; exact habs
    next =>
      rw [isAbs_intercalate (fun name hmem => (cleaned_names path name hmem).1)]
      simpa using habs

theorem splitOn_of_no_slash {name : Path} (h : '/' ∉ name) : name.splitOn '/' = [name] :=
  List.splitOn_eq_singleton h

theorem foldl_splitOn_clean (rooted : Bool) (start : List Path) (path : Path)
    : ((clean path).splitOn '/').foldl (step rooted) start
        =
      (names path).foldl (step rooted) start := by
  have hsplit : names path ≠ []
      → (['/'].intercalate (names path)).splitOn '/' = names path :=
    List.splitOn_intercalate '/' (fun name hmem => (cleaned_names path name hmem).1.no_slash)
  unfold clean
  split
  next =>
    rw [List.splitOn_cons_eq_if_modifyHead, if_pos (by rfl), List.foldl_cons, step_nil]
    by_cases hnil : names path = []
    . simp [hnil]
    . rw [hsplit hnil]
  next =>
    split
    next hnil =>
      rw [hnil, splitOn_of_no_slash (by decide), List.foldl_cons, step_dot]
    next hnil => rw [hsplit hnil]

theorem splitOn_append (path tail : Path)
    : (path ++ '/' :: tail).splitOn '/' = path.splitOn '/' ++ tail.splitOn '/' :=
  List.splitOnP_append_cons path tail (by rfl)

theorem names_of_isAbs (h : isAbs path = true)
    : names path = ((path.splitOn '/').foldl (step true) []).reverse := by
  rw [names, h]

theorem names_rooted {elems : List Path} (h : Cleaned true elems)
    : names ('/' :: ['/'].intercalate elems) = elems := by
  rw [names_of_isAbs (isAbs_cons _), List.splitOn_cons_eq_if_modifyHead, if_pos (by rfl),
    List.foldl_cons, step_nil]
  by_cases hnil : elems = []
  . simp [hnil]
  . rw [List.splitOn_intercalate '/' (fun name hmem => (h name hmem).1.no_slash) hnil,
      foldl_names h, List.append_nil, List.reverse_reverse]

theorem names_append (h : isAbs path = true) (tail : Path)
    : names (path ++ '/' :: tail)
        =
      ((tail.splitOn '/').foldl (step true) (names path).reverse).reverse := by
  have hne : path ≠ [] := fun hnil => by simp [hnil, isAbs] at h
  rw [names_of_isAbs (by rw [isAbs_append hne, h]), splitOn_append, List.foldl_append,
    names_of_isAbs h, List.reverse_reverse]

/-! ## The positions of the results -/

theorem position_of_isAbs (h : isAbs path = true) : position cwd path = names path := by
  rw [position, absolute, if_pos h]

theorem position_eq_foldl (cwd path : Path)
    : position cwd path
        =
      ((path.splitOn '/').foldl (step true)
        (if isAbs path then [] else (names ('/' :: cwd)).reverse)).reverse := by
  by_cases h : isAbs path = true
  . rw [position_of_isAbs h, if_pos h, names_of_isAbs h]
  . rw [if_neg h, position, absolute, if_neg h]
    exact names_append (isAbs_cons cwd) path

@[simp]
theorem position_clean (cwd path : Path) : position cwd (clean path) = position cwd path := by
  have hnames (start : List Path) (hstart : isAbs path = true → start = [])
      : (names path).foldl (step true) start = (path.splitOn '/').foldl (step true) start :=
    foldl_cleaned (fun _ => no_slash_of_mem_splitOn) start hstart
  rw [position_eq_foldl, position_eq_foldl cwd path, isAbs_clean, foldl_splitOn_clean, hnames]
  exact fun habs => if_pos habs

theorem names_clean (h : isAbs path = true) : names (clean path) = names path := by
  have hposition := position_clean [] path
  rwa [position_of_isAbs h, position_of_isAbs (by rw [isAbs_clean, h])] at hposition

theorem position_append (h : path ≠ []) (cwd tail : Path)
    : position cwd (path ++ '/' :: tail)
        =
      ((tail.splitOn '/').foldl (step true) (position cwd path).reverse).reverse := by
  rw [position_eq_foldl, position_eq_foldl cwd path, isAbs_append h, splitOn_append,
    List.foldl_append, List.reverse_reverse]

theorem position_append_name {name : Path} (cwd : Path) (h : path ≠ []) (hname : IsName name)
    (hup : name ≠ ['.', '.'])
    : position cwd (path ++ '/' :: name) = position cwd path ++ [name] := by
  rw [position_append h, splitOn_of_no_slash hname.no_slash, List.foldl_cons, List.foldl_nil,
    step_name hname hup, List.reverse_cons, List.reverse_reverse]

theorem intercalate_concat {elems : List Path} (h : elems ≠ []) (last : Path)
    : ['/'].intercalate (elems ++ [last]) = ['/'].intercalate elems ++ '/' :: last := by
  induction elems with
  | nil => exact absurd rfl h
  | cons first rest ih =>
    cases rest with
    | nil => simp
    | cons next rest =>
      rw [List.cons_append, List.cons_append, List.intercalate_cons_cons, ← List.cons_append,
        ih (List.cons_ne_nil _ _), List.intercalate_cons_cons]
      simp

theorem intercalate_cons_ne_nil {first : Path} (h : first ≠ []) (rest : List Path)
    : ['/'].intercalate (first :: rest) ≠ [] := by
  cases rest with
  | nil => simpa using h
  | cons next rest => simp [List.intercalate_cons_cons, h]

theorem join_cons {first : Path} (h : first ≠ []) (rest : List Path)
    : join (first :: rest) = clean (['/'].intercalate (first :: rest)) := by
  rw [join, List.dropWhile_cons_of_neg (by simpa using h)]

theorem exists_join_eq_clean {elems : List Path} (h : ∃ elem ∈ elems, elem ≠ [])
    : ∃ text, join elems = clean text := by
  induction elems with
  | nil => simp at h
  | cons first rest ih =>
    by_cases hfirst : first = []
    . subst hfirst
      exact ih (by simpa using h)
    . exact ⟨_, join_cons hfirst rest⟩

theorem isAbs_join_cons {first : Path} (h : isAbs first = true) (rest : List Path)
    : isAbs (join (first :: rest)) = true := by
  obtain ⟨tail, rfl⟩ := exists_cons_of_isAbs h
  rw [join_cons (List.cons_ne_nil _ _), isAbs_clean]
  cases rest with
  | nil => simp
  | cons next rest => simp [List.intercalate_cons_cons]

theorem position_join_concat {elems : List Path} {name : Path} (cwd : Path)
    (h : ∃ elem ∈ elems, elem ≠ []) (hname : IsName name) (hup : name ≠ ['.', '.'])
    : position cwd (join (elems ++ [name])) = position cwd (join elems) ++ [name] := by
  induction elems with
  | nil => simp at h
  | cons first rest ih =>
    by_cases hfirst : first = []
    . -- empty elements at the front are left out
      subst hfirst
      exact ih (by simpa using h)
    . rw [List.cons_append, join_cons hfirst, join_cons hfirst, ← List.cons_append,
        intercalate_concat (List.cons_ne_nil _ _), position_clean, position_clean,
        position_append_name cwd (intercalate_cons_ne_nil hfirst rest) hname hup]

/-! ## Paths from the root -/

theorem exists_clean_eq_append (h : isAbs path = true) {init : List Path} {last : Path}
    (hnames : names path = init ++ [last])
    : ∃ parent,
        clean path = parent ++ '/' :: last
          ∧
        isAbs (parent ++ ['/']) = true
          ∧
        names (parent ++ ['/']) = init := by
  have hclean : clean path = '/' :: ['/'].intercalate (init ++ [last]) := by
    rw [clean, if_pos h, hnames]
  have hinit : Cleaned true init := by
    have hcleaned := cleaned_names path
    rw [h, hnames] at hcleaned
    exact fun name hmem => hcleaned name (List.mem_append_left _ hmem)
  cases init with
  | nil => exact ⟨[], by simpa using hclean, rfl, rfl⟩
  | cons first rest =>
    refine ⟨'/' :: ['/'].intercalate (first :: rest), ?_, rfl, ?_⟩
    . rw [hclean, intercalate_concat (List.cons_ne_nil first rest)]
      rfl
    . rw [names_append (isAbs_cons _), names_rooted hinit, List.splitOn_nil, List.foldl_cons,
        step_nil, List.foldl_nil, List.reverse_reverse]

theorem reverse_append_slash (parent name : Path)
    : (parent ++ '/' :: name).reverse = name.reverse ++ '/' :: parent.reverse := by
  simp

theorem ne_slash_of_mem_reverse {name : Path} (h : '/' ∉ name)
    : ∀ c ∈ name.reverse, (c != '/') = true := by
  intro c hmem
  have hne : c ≠ '/' := fun heq => h (heq ▸ List.mem_reverse.mp hmem)
  simpa using hne

theorem dir_append {name : Path} (h : '/' ∉ name) (parent : Path)
    : dir (parent ++ '/' :: name) = clean (parent ++ ['/']) := by
  rw [dir, reverse_append_slash, List.dropWhile_append_of_pos (ne_slash_of_mem_reverse h),
    List.dropWhile_cons_of_neg (by simp), List.reverse_cons, List.reverse_reverse]

theorem base_append {name : Path} (hname : IsName name) (parent : Path)
    : base (parent ++ '/' :: name) = name := by
  have hkept := ne_slash_of_mem_reverse hname.no_slash
  obtain ⟨c, cs, hrev⟩ := List.exists_cons_of_ne_nil (mt List.reverse_eq_nil_iff.mp hname.ne_nil)
  have hc : (c == '/') = false := by simpa using hkept c (hrev ▸ List.mem_cons_self)
  have hcut : ((parent ++ '/' :: name).reverse.dropWhile (· == '/')).takeWhile (· != '/')
      = name.reverse := by
    rw [reverse_append_slash, hrev, List.cons_append, List.dropWhile_cons_of_neg (by simp [hc]),
      ← List.cons_append, ← hrev, List.takeWhile_append_of_pos hkept,
      List.takeWhile_cons_of_neg (by simp), List.append_nil]
  rw [base, if_neg (by simp), hcut, hrev]
  exact List.reverse_eq_iff.mpr hrev.symm

theorem clean_eq_slash (h : isAbs path = true) (hnil : names path = []) : clean path = ['/'] := by
  rw [clean, if_pos h, hnil]
  rfl

theorem exists_dir_clean (h : isAbs path = true)
    : ∃ parent, dir (clean path) = clean parent
        ∧
      isAbs parent = true
        ∧
      names parent = (names path).dropLast := by
  rcases List.eq_nil_or_concat' (names path) with hnil | ⟨init, last, hnames⟩
  . refine ⟨['/'], ?_, rfl, by rw [hnil]; rfl⟩
    rw [clean_eq_slash h hnil]
    rfl
  . obtain ⟨parent, hclean, habs, hparent⟩ := exists_clean_eq_append h hnames
    have hlast := (cleaned_names path last (by simp [hnames])).1
    refine ⟨parent ++ ['/'], ?_, habs, by rw [hparent, hnames, List.dropLast_concat]⟩
    rw [hclean, dir_append hlast.no_slash]

theorem base_clean (h : isAbs path = true)
    : base (clean path) = ['/'] ∨ base (clean path) ∈ names path := by
  rcases List.eq_nil_or_concat' (names path) with hnil | ⟨init, last, hnames⟩
  . left
    rw [clean_eq_slash h hnil]
    rfl
  . right
    obtain ⟨parent, hclean, -, -⟩ := exists_clean_eq_append h hnames
    have hmem : last ∈ names path := by simp [hnames]
    rw [hclean, base_append (cleaned_names path last hmem).1]
    exact hmem

theorem base_ne_nil (path : Path) : base path ≠ [] := by
  unfold base
  split
  next => simp
  next =>
    split
    next => simp
    next hne => exact fun hnil => hne (List.reverse_eq_nil_iff.mp hnil)

/-! ## Relative paths -/

theorem relNames_append (bs ts : List Path)
    : relNames bs (bs ++ ts) = some (['/'].intercalate ts) := by
  induction bs with
  | nil => cases ts <;> simp [relNames]
  | cons b bs ih => simp [relNames, ih]

theorem relNames_of_not_isPrefix {bs ts : List Path} (hbs : Cleaned true bs) (h : ¬ bs <+: ts)
    : ∃ rest, relNames bs ts = some (['/'].intercalate (['.', '.'] :: rest)) := by
  induction bs generalizing ts with
  | nil => exact absurd List.nil_prefix h
  | cons b bs ih =>
    cases ts with
    | nil => exact ⟨bs.map (fun _ => ['.', '.']), by simp [relNames]⟩
    | cons t ts =>
      by_cases hbt : b = t
      . rw [relNames, if_pos hbt]
        refine ih (fun name hmem => hbs name (List.mem_cons_of_mem _ hmem)) fun hprefix => h ?_
        exact List.cons_prefix_cons.mpr ⟨hbt, hprefix⟩
      . have hup := (hbs b List.mem_cons_self).2 rfl
        exact ⟨bs.map (fun _ => ['.', '.']) ++ t :: ts, by simp [relNames, hbt, hup]⟩

section Rel

variable (hbase : isAbs other = true) (htarg : isAbs path = true)

include hbase htarg

theorem rel_eq_relNames (hne : clean path ≠ clean other)
    : rel other path = relNames (names other) (names path) := by
  rw [rel, if_neg hne, if_neg (by rw [hbase, htarg]; simp), if_neg (by simp [htarg])]

theorem rel_of_isPrefix (h : names other <+: names path)
    : rel other path = some ['.']
        ∨
      ∃ first rest, rel other path = some (['/'].intercalate (first :: rest))
        ∧ Cleaned true (first :: rest) := by
  by_cases hclean : clean path = clean other
  . left
    rw [rel, if_pos hclean]
  . right
    obtain ⟨tail, htail⟩ := h
    have hcleaned := cleaned_names path
    rw [htarg, ← htail] at hcleaned
    cases tail with
    | nil =>
      refine absurd ?_ hclean
      rw [clean, clean, if_pos htarg, if_pos hbase, ← htail, List.append_nil]
    | cons first rest =>
      refine ⟨first, rest, ?_, fun name hmem => hcleaned name (List.mem_append_right _ hmem)⟩
      rw [rel_eq_relNames hbase htarg hclean, ← htail, relNames_append]

theorem rel_of_not_isPrefix (h : ¬ names other <+: names path)
    : ∃ rest, rel other path = some (['/'].intercalate (['.', '.'] :: rest)) := by
  have hclean : clean path ≠ clean other := by
    intro hclean
    apply h
    rw [← names_clean htarg, hclean, names_clean hbase]
  have hcleaned := cleaned_names other
  rw [hbase] at hcleaned
  rw [rel_eq_relNames hbase htarg hclean]
  exact relNames_of_not_isPrefix hcleaned h

end Rel

end FilePath
end Hysteron
