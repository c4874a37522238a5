import Mathlib.Data.List.Basic
import Mathlib.Data.List.Pairwise

/-! # Lexical path processing of Go's `path/filepath` on Unix

The reloader resolves manifest references with `filepath.IsLocal`, `filepath.Dir` and
`filepath.Join`, and the watcher resolves configured files with `filepath.Abs`. Each of them
reduces to `Clean`, which reads a path element by element into a stack: empty and `.`
elements vanish, `..` removes the name before it, and a rooted path drops a leading `..`.
Paths are character lists inside this module; the Go functions take and return strings.
-/

namespace EmbedSpiceDB.Path

/-- One element of a path, between two separators. -/
abbrev Element := List Char

/-- The parent-directory element `..`. -/
def dotDot : Element := ['.', '.']

/-- A path is rooted when it begins with the separator (`os.IsPathSeparator(path[0])`). -/
def rooted (path : List Char) : Bool := path.head? == some '/'

/-- One element of `Clean`'s scan, pushed onto the output read so far (its last element first). -/
def push (isRooted : Bool) (stack : List Element) (element : Element) : List Element :=
  if element = [] ∨ element = ['.'] then stack
  else if element = dotDot then
    match stack with
    | top :: rest => if top = dotDot then dotDot :: stack else rest
    | [] => if isRooted then [] else [dotDot]
  else element :: stack

/-- The elements `Clean` keeps, the last one first. -/
def stack (path : List Char) : List Element :=
  (path.splitOn '/').foldl (push (rooted path)) []

/-- Writes a stack back as a path: `/` for a rooted path, the elements joined by `/`, and `.`
when nothing is left. -/
def render (isRooted : Bool) (stack : List Element) : List Char :=
  let out := (if isRooted then ['/'] else []) ++ ['/'].intercalate stack.reverse
  if out = [] then ['.'] else out

/-- `filepath.Clean`. -/
def clean (path : String) : String := ⟨render (rooted path.data) (stack path.data)⟩

/-- The elements of a path after `Clean`, in order. -/
def elements (path : String) : List Element := (stack path.data).reverse

/-- `filepath.IsAbs`: `strings.HasPrefix(path, "/")`. -/
def isAbs (path : String) : Bool := rooted path.data

/-- `filepath.Dir`: everything up to the final separator, cleaned. -/
def dir (path : String) : String := clean ⟨(path.data.reverse.dropWhile (· ≠ '/')).reverse⟩

/-- `filepath.Join` of two elements: empty leading elements are skipped, the rest joined by `/`
and cleaned. -/
def join (first second : String) : String :=
  if first ≠ "" then clean (first ++ "/" ++ second)
  else if second ≠ "" then clean second else ""

/-- `filepath.IsLocal` on Unix (`unixIsLocal`): a relative, non-empty path that does not
leave its directory. `Clean` runs only when some element is `.` or `..`. -/
def isLocal (path : String) : Bool :=
  if isAbs path || path == "" then false
  else
    let hasDots := (path.data.splitOn '/').any fun part => part == ['.'] || part == dotDot
    let cleaned := if hasDots then (clean path).data else path.data
    !(cleaned == dotDot || ['.', '.', '/'].isPrefixOf cleaned)

/-- `filepath.Ext`: the suffix from the final `.` of the final element, or nothing. -/
def ext (path : String) : String :=
  let base := path.data.reverse.takeWhile (· ≠ '/')
  if '.' ∈ base then ⟨'.' :: (base.takeWhile (· ≠ '.')).reverse⟩ else ""

/-- `filepath.Abs`, with `cwd` the working directory `os.Getwd` returns. -/
def abs (cwd path : String) : String := if isAbs path then clean path else join cwd path

/-- A target lies lexically inside a base directory: after `Clean`, the target is the base
followed by zero or more elements, none of which is `..`. -/
def Within (base target : String) : Prop :=
  rooted (clean target).data = rooted (clean base).data ∧
    ∃ extra, elements (clean target) = elements (clean base) ++ extra ∧ dotDot ∉ extra

/-! ## Splitting -/

private theorem modifyHead_append {α : Type} (f : α → α) {xs : List α} (ys : List α)
    (nonempty : xs ≠ []) : (xs ++ ys).modifyHead f = xs.modifyHead f ++ ys := by
  cases xs with
  | nil => exact absurd rfl nonempty
  | cons x rest => rfl

/-- Splitting at a separator between two paths splits each path on its own. -/
theorem splitOn_append_slash (first second : List Char) :
    (first ++ '/' :: second).splitOn '/' = first.splitOn '/' ++ second.splitOn '/' := by
  induction first with
  | nil => simp [List.splitOn]
  | cons c rest ih =>
    simp only [List.splitOn, List.cons_append, List.splitOnP_cons] at ih ⊢
    split
    · simp [ih]
    · rw [ih, modifyHead_append _ _ (List.splitOnP_ne_nil _ _)]

/-- No element of a split path contains the separator. -/
theorem slash_not_mem_of_mem_splitOn {path : List Char} {element : Element}
    (member : element ∈ path.splitOn '/') : '/' ∉ element := by
  induction path generalizing element with
  | nil => simp_all [List.splitOn]
  | cons c rest ih =>
    simp only [List.splitOn, List.splitOnP_cons] at member ih
    split at member
    · rcases List.mem_cons.mp member with rfl | member
      · simp
      · exact ih member
    · rename_i separator
      obtain ⟨head, tail, split⟩ := List.exists_cons_of_ne_nil (List.splitOnP_ne_nil (· == '/') rest)
      rw [split] at member ih
      rcases List.mem_cons.mp member with rfl | member
      · simp only [List.mem_cons, not_or]
        exact ⟨fun same => separator (by subst same; rfl), ih (List.mem_cons_self _ _)⟩
      · exact ih (List.mem_cons_of_mem _ member)

/-! ## The stack invariant -/

/-- What every stack of `Clean` satisfies: its elements are never empty, `.` or contain `/`;
below a `..` there is only `..`; and a rooted stack holds no `..`. -/
structure Canonical (isRooted : Bool) (stack : List Element) : Prop where
  named : ∀ element ∈ stack, element ≠ [] ∧ element ≠ ['.'] ∧ '/' ∉ element
  dotsBelow : stack.Pairwise fun upper lower => upper = dotDot → lower = dotDot
  noDotsWhenRooted : isRooted = true → dotDot ∉ stack

theorem canonical_nil (isRooted : Bool) : Canonical isRooted [] :=
  ⟨by simp, .nil, by simp⟩

theorem Canonical.tail {isRooted : Bool} {top : Element} {rest : List Element}
    (canonical : Canonical isRooted (top :: rest)) : Canonical isRooted rest :=
  ⟨fun element member => canonical.named element (List.mem_cons_of_mem _ member),
    (List.pairwise_cons.mp canonical.dotsBelow).2,
    fun rooted member => canonical.noDotsWhenRooted rooted (List.mem_cons_of_mem _ member)⟩

theorem push_skip {isRooted : Bool} {stack : List Element} {element : Element}
    (skip : element = [] ∨ element = ['.']) : push isRooted stack element = stack := by
  simp [push, skip]

theorem push_name {isRooted : Bool} {stack : List Element} {element : Element}
    (skip : ¬(element = [] ∨ element = ['.'])) (name : element ≠ dotDot) :
    push isRooted stack element = element :: stack := by
  simp [push, skip, name]

@[simp] theorem push_dotDot_nil (isRooted : Bool) :
    push isRooted [] dotDot = if isRooted then [] else [dotDot] := rfl

@[simp] theorem push_dotDot_cons (isRooted : Bool) (top : Element) (rest : List Element) :
    push isRooted (top :: rest) dotDot = if top = dotDot then dotDot :: top :: rest else rest := rfl

/-- Pushing an element without a separator keeps a stack canonical. -/
theorem Canonical.push {isRooted : Bool} {stack : List Element} {element : Element}
    (canonical : Canonical isRooted stack) (noSlash : '/' ∉ element) :
    Canonical isRooted (push isRooted stack element) := by
  by_cases skip : element = [] ∨ element = ['.']
  · rwa [push_skip skip]
  by_cases isDots : element = dotDot
  · subst isDots
    cases stack with
    | nil => rw [push_dotDot_nil]; cases isRooted <;> exact ⟨by simp [dotDot], by simp, by simp⟩
    | cons top rest =>
      rw [push_dotDot_cons]
      split_ifs with topDots
      · subst topDots
        have below := (List.pairwise_cons.mp canonical.dotsBelow).1
        refine ⟨by simpa [dotDot] using canonical.named, .cons (by simpa using below)
          canonical.dotsBelow, fun rooted => ?_⟩
        exact absurd (List.mem_cons_self _ _) (canonical.noDotsWhenRooted rooted)
      · exact canonical.tail
  · rw [push_name skip isDots]
    simp only [not_or] at skip
    refine ⟨by simpa [skip.1, skip.2, noSlash] using canonical.named,
      .cons (fun _ _ same => absurd same isDots) canonical.dotsBelow, fun rooted member => ?_⟩
    rcases List.mem_cons.mp member with same | member
    · exact isDots same.symm
    · exact canonical.noDotsWhenRooted rooted member

/-- Every stack `Clean` builds is canonical. -/
theorem canonical_stack (path : List Char) : Canonical (rooted path) (stack path) := by
  suffices ∀ (parts : List Element) (acc : List Element), Canonical (rooted path) acc →
      (∀ part ∈ parts, '/' ∉ part) → Canonical (rooted path) (parts.foldl (push (rooted path)) acc) from
    this _ [] (canonical_nil _) fun _ => slash_not_mem_of_mem_splitOn
  intro parts
  induction parts with
  | nil => exact fun _ canonical _ => canonical
  | cons part rest ih =>
    intro acc canonical noSlash
    exact ih _ (canonical.push (noSlash part (List.mem_cons_self _ _)))
      fun other member => noSlash other (List.mem_cons_of_mem _ member)

/-! ## Joining a path that stays below its start -/

theorem mem_push {isRooted : Bool} {kept : List Element} {element other : Element}
    (member : other ∈ push isRooted kept element) : other = element ∨ other ∈ kept := by
  by_cases skip : element = [] ∨ element = ['.']
  · rw [push_skip skip] at member
    exact .inr member
  by_cases isDots : element = dotDot
  · subst isDots
    cases kept with
    | nil => cases isRooted <;> simp_all
    | cons top rest =>
      rw [push_dotDot_cons] at member
      split_ifs at member
      · simp_all
      · exact .inr (List.mem_cons_of_mem _ member)
  · rw [push_name skip isDots] at member
    exact List.mem_cons.mp member

/-- `Clean` keeps a `..` only when the path has one. -/
theorem dotDot_mem_splitOn_of_mem_stack {path : List Char} (member : dotDot ∈ stack path) :
    dotDot ∈ path.splitOn '/' := by
  suffices ∀ (parts : List Element) (acc : List Element), dotDot ∈ parts.foldl (push (rooted path)) acc →
      dotDot ∈ acc ∨ dotDot ∈ parts from (this _ [] member).resolve_left (by simp)
  intro parts
  induction parts with
  | nil => exact fun _ member => .inl member
  | cons part rest ih =>
    intro acc member
    rcases ih _ member with pushed | later
    · rcases mem_push pushed with same | earlier
      · exact .inr (same ▸ List.mem_cons_self _ _)
      · exact .inl earlier
    · exact .inr (List.mem_cons_of_mem _ later)

/-- A `..` already read is never removed again. -/
theorem dotDot_mem_push {isRooted : Bool} {kept : List Element} (element : Element)
    (member : dotDot ∈ kept) : dotDot ∈ push isRooted kept element := by
  by_cases skip : element = [] ∨ element = ['.']
  · rwa [push_skip skip]
  by_cases isDots : element = dotDot
  · subst isDots
    cases kept with
    | nil => simp at member
    | cons top rest =>
      rw [push_dotDot_cons]
      split_ifs with topDots
      · exact List.mem_cons_self _ _
      · exact (List.mem_cons.mp member).resolve_left fun same => topDots same.symm
  · rw [push_name skip isDots]
    exact List.mem_cons_of_mem _ member

theorem dotDot_mem_foldl {isRooted : Bool} {kept : List Element} (parts : List Element)
    (member : dotDot ∈ kept) : dotDot ∈ parts.foldl (push isRooted) kept := by
  induction parts generalizing kept with
  | nil => exact member
  | cons part rest ih => exact ih (dotDot_mem_push part member)

/-- An element that does not climb out of the upper part of a stack leaves the lower part alone. -/
theorem push_append {isRooted : Bool} {above : List Element} (below : List Element)
    {element : Element} (stays : dotDot ∉ push false above element) :
    push isRooted (above ++ below) element = push false above element ++ below := by
  by_cases skip : element = [] ∨ element = ['.']
  · rw [push_skip skip, push_skip skip]
  by_cases isDots : element = dotDot
  · subst isDots
    cases above with
    | nil => simp at stays
    | cons top rest =>
      rw [push_dotDot_cons] at stays
      rw [List.cons_append, push_dotDot_cons, push_dotDot_cons]
      split_ifs at stays ⊢
      · simp at stays
      · rfl
  · rw [push_name skip isDots, push_name skip isDots, List.cons_append]

theorem foldl_push_append {isRooted : Bool} (parts : List Element) {above : List Element}
    (below : List Element) (stays : dotDot ∉ parts.foldl (push false) above) :
    parts.foldl (push isRooted) (above ++ below) = parts.foldl (push false) above ++ below := by
  induction parts generalizing above with
  | nil => rfl
  | cons part rest ih =>
    have first : dotDot ∉ push false above part := fun member => stays (dotDot_mem_foldl rest member)
    simp only [List.foldl_cons, push_append below first]
    exact ih stays

/-- The stack of `first/second`, for a relative `second` that never climbs above its start, is
the stack of `second` on top of the stack of `first`. -/
theorem stack_append_slash {first second : List Char} (nonempty : first ≠ [])
    (relative : rooted second = false) (stays : dotDot ∉ stack second) :
    stack (first ++ '/' :: second) = stack second ++ stack first := by
  have sameRoot : rooted (first ++ '/' :: second) = rooted first := by
    cases first with
    | nil => exact absurd rfl nonempty
    | cons c rest => rfl
  unfold stack at stays ⊢
  rw [relative] at stays
  rw [sameRoot, relative, splitOn_append_slash, List.foldl_append]
  simpa using @foldl_push_append (rooted first) (second.splitOn '/') []
    ((first.splitOn '/').foldl (push (rooted first)) []) stays

/-! ## Cleaning a clean path -/

private theorem intercalate_cons (element : Element) (rest : List Element) :
    ['/'].intercalate (element :: rest) =
      element ++ if rest = [] then [] else '/' :: ['/'].intercalate rest := by
  cases rest with
  | nil => simp [List.intercalate]
  | cons next more => simp [List.intercalate, List.intersperse_cons_cons]

/-- Reading a canonical stack back from its elements in order rebuilds it. -/
theorem foldl_push_reverse {isRooted : Bool} {kept : List Element}
    (canonical : Canonical isRooted kept) : kept.reverse.foldl (push isRooted) [] = kept := by
  induction kept with
  | nil => rfl
  | cons top rest ih =>
    rw [List.reverse_cons, List.foldl_append, ih canonical.tail, List.foldl_cons, List.foldl_nil]
    obtain ⟨nonempty, notDot, _⟩ := canonical.named top (List.mem_cons_self _ _)
    by_cases isDots : top = dotDot
    · subst isDots
      have relative : isRooted = false := by
        cases isRooted
        · rfl
        · exact absurd (List.mem_cons_self _ _) (canonical.noDotsWhenRooted rfl)
      subst relative
      cases rest with
      | nil => rfl
      | cons next more =>
        have nextDots : next = dotDot :=
          (List.pairwise_cons.mp canonical.dotsBelow).1 next (List.mem_cons_self _ _) rfl
        simp [nextDots]
    · exact push_name (by simp [nonempty, notDot]) isDots

private theorem splitOn_intercalate_reverse {isRooted : Bool} {kept : List Element}
    (canonical : Canonical isRooted kept) (nonempty : kept ≠ []) :
    (['/'].intercalate kept.reverse).splitOn '/' = kept.reverse :=
  List.splitOn_intercalate kept.reverse '/' (fun element member => (canonical.named element
    (List.mem_reverse.mp member)).2.2) (by simpa using nonempty)

/-- A relative canonical stack renders to its joined elements, which start with a name or `..`. -/
private theorem render_relative {isRooted : Bool} {kept : List Element}
    (canonical : Canonical isRooted kept) (nonempty : kept ≠ []) :
    render false kept = ['/'].intercalate kept.reverse ∧
      rooted (['/'].intercalate kept.reverse) = false := by
  obtain ⟨first, rest, split⟩ := List.exists_cons_of_ne_nil (by simpa using nonempty : kept.reverse ≠ [])
  obtain ⟨firstNonempty, _, noSlash⟩ := canonical.named first (List.mem_reverse.mp (split ▸ List.mem_cons_self _ _))
  obtain ⟨c, chars, rfl⟩ := List.exists_cons_of_ne_nil firstNonempty
  have slash : c ≠ '/' := fun same => noSlash (same ▸ List.mem_cons_self _ _)
  simp [render, split, intercalate_cons, rooted, slash]

/-- `Clean` reads its own output back to the same root and stack. -/
theorem stack_render {isRooted : Bool} {kept : List Element} (canonical : Canonical isRooted kept) :
    rooted (render isRooted kept) = isRooted ∧ stack (render isRooted kept) = kept := by
  by_cases empty : kept = []
  · subst empty
    cases isRooted <;> exact ⟨rfl, rfl⟩
  cases isRooted with
  | false =>
    obtain ⟨rendered, relative⟩ := render_relative canonical empty
    rw [rendered]
    refine ⟨relative, ?_⟩
    rw [stack, relative, splitOn_intercalate_reverse canonical empty, foldl_push_reverse canonical]
  | true =>
    have rendered : render true kept = '/' :: ['/'].intercalate kept.reverse := by simp [render]
    rw [rendered]
    refine ⟨rfl, ?_⟩
    have split := splitOn_append_slash [] (['/'].intercalate kept.reverse)
    simp only [List.nil_append] at split
    rw [stack, split, splitOn_intercalate_reverse canonical empty]
    simpa using foldl_push_reverse canonical

@[simp] theorem rooted_clean (path : String) : rooted (clean path).data = rooted path.data :=
  (stack_render (canonical_stack _)).1

@[simp] theorem stack_clean (path : String) : stack (clean path).data = stack path.data :=
  (stack_render (canonical_stack _)).2

@[simp] theorem elements_clean (path : String) : elements (clean path) = elements path := by
  simp [elements]

/-- `Clean` is idempotent. -/
theorem clean_clean (path : String) : clean (clean path) = clean path := by
  rw [clean, rooted_clean, stack_clean, ← clean]

theorem clean_ne_empty (path : String) : clean path ≠ "" := by
  intro empty
  have := congrArg String.data empty
  simp only [clean, render] at this
  split_ifs at this <;> simp_all

/-! ## `IsLocal` -/

/-- In a relative canonical stack holding a `..`, the first element is `..`. -/
private theorem reverse_eq_dotDot_cons {kept : List Element} (canonical : Canonical false kept)
    (member : dotDot ∈ kept) : ∃ rest, kept.reverse = dotDot :: rest := by
  induction kept with
  | nil => simp at member
  | cons top rest ih =>
    by_cases later : dotDot ∈ rest
    · obtain ⟨tail, split⟩ := ih canonical.tail later
      exact ⟨tail ++ [top], by simp [split]⟩
    · have topDots : top = dotDot := by
        rcases List.mem_cons.mp member with same | member
        · exact same.symm
        · exact absurd member later
      have empty : rest = [] := by
        cases rest with
        | nil => rfl
        | cons next more =>
          have := (List.pairwise_cons.mp canonical.dotsBelow).1 next (List.mem_cons_self _ _) topDots
          exact absurd (this ▸ List.mem_cons_self _ _) later
      exact ⟨[], by simp [topDots, empty]⟩

private theorem splitOn_dotDot_slash (rest : List Char) :
    (dotDot ++ '/' :: rest).splitOn '/' = dotDot :: rest.splitOn '/' := by
  rw [splitOn_append_slash]
  rfl

/-- A cleaned relative path is `..` or starts with `../` exactly when its stack keeps a `..`. -/
theorem render_climbs_iff {kept : List Element} (canonical : Canonical false kept) :
    (render false kept = dotDot ∨ ['.', '.', '/'].isPrefixOf (render false kept) = true) ↔
      dotDot ∈ kept := by
  by_cases empty : kept = []
  · subst empty
    simp [render, dotDot, List.intercalate]
  obtain ⟨rendered, -⟩ := render_relative canonical empty
  have split := splitOn_intercalate_reverse canonical empty
  rw [rendered]
  constructor
  · rintro (same | leading)
    · rw [same] at split
      have : dotDot ∈ kept.reverse := by rw [← split]; exact List.mem_cons_self _ _
      simpa using this
    · obtain ⟨rest, same⟩ := List.isPrefixOf_iff_prefix.mp leading
      rw [← same, show ['.', '.', '/'] ++ rest = dotDot ++ '/' :: rest from rfl,
        splitOn_dotDot_slash] at split
      have : dotDot ∈ kept.reverse := by rw [← split]; exact List.mem_cons_self _ _
      simpa using this
  · intro member
    obtain ⟨rest, split⟩ := reverse_eq_dotDot_cons canonical member
    rw [split, intercalate_cons]
    split_ifs
    · exact .inl (List.append_nil _)
    · exact .inr (by simp [dotDot])

/-- `IsLocal` holds exactly for non-empty relative paths whose cleaned form keeps no `..`. -/
theorem isLocal_iff (path : String) :
    isLocal path = true ↔ rooted path.data = false ∧ path ≠ "" ∧ dotDot ∉ stack path.data := by
  cases relative : rooted path.data
  · by_cases empty : path = ""
    · simp [isLocal, empty, isAbs]
    have notDots : ¬(dotDot ∈ stack path.data) ↔
        ¬(render false (stack path.data) = dotDot ∨
          ['.', '.', '/'].isPrefixOf (render false (stack path.data)) = true) := by
      rw [render_climbs_iff (relative ▸ canonical_stack path.data)]
    simp only [isLocal, isAbs, relative, Bool.false_or, beq_iff_eq, empty, if_false,
      Bool.not_eq_true', Bool.or_eq_false_iff, beq_eq_false_iff_ne, ne_eq, not_false_eq_true,
      true_and]
    split_ifs with hasDots
    · simp only [clean, relative, notDots, not_or, Bool.not_eq_true]
    · simp only [List.any_eq_true, Bool.or_eq_true, beq_iff_eq, not_exists, not_and] at hasDots
      have noDotDot : dotDot ∉ stack path.data := fun member =>
        hasDots dotDot (dotDot_mem_splitOn_of_mem_stack member) (.inr rfl)
      refine iff_of_true ⟨fun same => ?_, ?_⟩ noDotDot
      · exact hasDots dotDot (by rw [same]; exact List.mem_singleton_self _) (.inr rfl)
      · cases leading : ['.', '.', '/'].isPrefixOf path.data
        · rfl
        · obtain ⟨rest, same⟩ := List.isPrefixOf_iff_prefix.mp leading
          have split := splitOn_dotDot_slash rest
          rw [show dotDot ++ '/' :: rest = ['.', '.', '/'] ++ rest from rfl, same] at split
          exact absurd (.inr rfl) (hasDots dotDot (by rw [split]; exact List.mem_cons_self _ _))
  · simp [isLocal, isAbs, relative]

/-- Joining a non-empty directory with a local reference stays inside the directory. -/
theorem within_join {base ref : String} (nonempty : base ≠ "") (isLocalRef : isLocal ref = true) :
    Within base (join base ref) := by
  obtain ⟨relative, -, stays⟩ := (isLocal_iff ref).mp isLocalRef
  have baseData : base.data ≠ [] := fun empty => nonempty (String.ext empty)
  have joined : join base ref = clean (base ++ "/" ++ ref) := if_pos nonempty
  have data : (base ++ "/" ++ ref).data = base.data ++ '/' :: ref.data := by simp
  have sameRoot : rooted (base.data ++ '/' :: ref.data) = rooted base.data := by
    obtain ⟨c, rest, split⟩ := List.exists_cons_of_ne_nil baseData
    simp [split, rooted]
  refine ⟨by simp [joined, data, sameRoot], (stack ref.data).reverse, ?_, by simpa using stays⟩
  simp [joined, elements, data, stack_append_slash baseData relative stays]

example : clean "a/../../b" = "../b" := by decide
example : clean "/../a//b/./c/" = "/a/b/c" := by decide

end EmbedSpiceDB.Path
