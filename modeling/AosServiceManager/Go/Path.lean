/-
Module: AosServiceManager.Go.Path
Layer: Core and Proofs
Purpose: The parts of Go's `path` package and of `os.Stat` that the device walk of the launcher
  uses. `path.Clean` follows the rules its documentation states: drop empty and `.` elements,
  let `..` remove the element before it, drop `..` at the root, keep it at the start of a
  relative path. `path.Join` of two elements cleans them joined by a slash, and `baseName` is
  the name `os.Stat` reports. A cleaned path is determined by the elements it keeps; joining a
  plain name pushes the name onto them, so along a chain of joins each join adds exactly a
  slash and the name to the text.
Imports: Mathlib.Data.List.Basic, Mathlib.Data.List.Chain
Trusted boundary: path.Clean as its documentation states it; basename of os/path_unix.go.
Main exports: splitPath, cleanStep, keptOf, renderKept, pathClean, pathJoin, baseName,
  PlainName, NormalKept, keptOf_renderKept, pathJoin_eq_renderKept, pathJoin_pathJoin
-/
import Mathlib.Data.List.Basic
import Mathlib.Data.List.Chain

namespace AosServiceManager.Go

/-! ### `path.Clean` and `path.Join` -/

/-- The elements of a path between its slashes, `strings.Split(path, "/")`. -/
def splitPath (path : List Char) : List (List Char) := path.splitOn '/'

/-- Whether a path starts at the root. -/
def isRooted (path : List Char) : Bool := path.head? = some '/'

/-- One element of the pass of `path.Clean` over the elements kept so far, last first. An empty
or `.` element is dropped; `..` removes the element before it unless that is `..` too, is
dropped at the root, and is kept at the start of a relative path. -/
def cleanStep (rooted : Bool) (kept : List (List Char)) (element : List Char) :
    List (List Char) :=
  if element = [] ∨ element = ['.'] then kept
  else if element = ['.', '.'] then
    match kept with
    | last :: before => if last = ['.', '.'] then element :: kept else before
    | [] => if rooted then [] else [element]
  else element :: kept

/-- The elements `path.Clean` keeps of a path, last first. -/
def keptOf (path : List Char) : List (List Char) :=
  (splitPath path).foldl (cleanStep (isRooted path)) []

/-- The text of kept elements: a leading slash for a rooted path, the elements joined by
slashes. -/
def renderKept (rooted : Bool) (kept : List (List Char)) : List Char :=
  (if rooted then ['/'] else []) ++ ['/'].intercalate kept.reverse

/-- `path.Clean`: the kept elements, or `.` when nothing is left. -/
def pathClean (path : String) : String :=
  match renderKept (isRooted path.data) (keptOf path.data) with
  | [] => "."
  | text => ⟨text⟩

/-- `path.Join(elem, name)`: the elements from the first nonempty one on, joined by a slash and
cleaned; `""` when both are empty. -/
def pathJoin (elem name : String) : String :=
  if elem.data ≠ [] then pathClean ⟨elem.data ++ '/' :: name.data⟩
  else if name.data ≠ [] then pathClean name
  else ""

/-- `basename` of `os.Stat` (os/path_unix.go): trailing slashes removed, but for the first
character, then the text after the last slash before the final character. -/
def baseName (name : String) : String :=
  match dropSlashes name.data.reverse with
  | [] => ""
  | last :: before => ⟨(last :: before.takeWhile (· ≠ '/')).reverse⟩
where
  /-- The trailing slashes, read from the end, but for the first character of the name. -/
  dropSlashes : List Char → List Char
    | '/' :: c :: rest => dropSlashes (c :: rest)
    | rest => rest

/-! ### Elements -/

/-- A name a directory lists: not empty, without a slash, neither `.` nor `..`. -/
def PlainName (name : List Char) : Prop :=
  name ≠ [] ∧ '/' ∉ name ∧ name ≠ ['.'] ∧ name ≠ ['.', '.']

instance (name : List Char) : Decidable (PlainName name) := by
  unfold PlainName; infer_instance

/-- An element `path.Clean` can keep: not empty, without a slash, not `.`. -/
def Kept (element : List Char) : Prop :=
  element ≠ [] ∧ '/' ∉ element ∧ element ≠ ['.']

/-- The elements `path.Clean` keeps, last first: each can be kept, a `..` comes only after
`..`, and a rooted path keeps none. -/
structure NormalKept (rooted : Bool) (kept : List (List Char)) : Prop where
  elements : ∀ element ∈ kept, Kept element
  dots : kept.Chain' fun later earlier => later = ['.', '.'] → earlier = ['.', '.']
  root : rooted = true → ['.', '.'] ∉ kept

theorem splitPath_append (front back : List Char) :
    splitPath (front ++ '/' :: back) = splitPath front ++ splitPath back := by
  unfold splitPath List.splitOn
  induction front with
  | nil => simp
  | cons c front ih =>
    rw [List.cons_append, List.splitOnP_cons, List.splitOnP_cons, ih]
    split
    · rfl
    · obtain ⟨first, rest, split⟩ := List.exists_cons_of_ne_nil (List.splitOnP_ne_nil _ front)
      rw [split]
      rfl

theorem splitPath_of_not_mem {element : List Char} (noSlash : '/' ∉ element) :
    splitPath element = [element] :=
  List.splitOnP_eq_single _ _ fun c member same => noSlash (by rwa [beq_iff_eq.1 same] at member)

theorem not_mem_of_mem_splitPath : ∀ {path element : List Char}, element ∈ splitPath path →
    '/' ∉ element := by
  intro path
  unfold splitPath List.splitOn
  induction path with
  | nil => simp
  | cons c rest ih =>
    intro element member
    rw [List.splitOnP_cons] at member
    split at member
    · rcases List.mem_cons.1 member with empty | later
      · rw [empty]; exact List.not_mem_nil _
      · exact ih later
    · rename_i other
      obtain ⟨first, others, split⟩ := List.exists_cons_of_ne_nil (List.splitOnP_ne_nil _ rest)
      rw [split] at member ih
      rcases List.mem_cons.1 member with head | later
      · rw [head, List.mem_cons, not_or]
        exact ⟨fun same => other (by rw [← same]; rfl), ih (List.mem_cons_self _ _)⟩
      · exact ih (List.mem_cons_of_mem _ later)

/-! ### The normal form -/

theorem kept_of_plainName {name : List Char} (plain : PlainName name) : Kept name :=
  ⟨plain.1, plain.2.1, plain.2.2.1⟩

theorem normalKept_nil (rooted : Bool) : NormalKept rooted [] :=
  ⟨fun _ member => (nomatch member), List.chain'_nil, fun _ member => (nomatch member)⟩

/-- Pushing a plain name keeps the form. -/
theorem NormalKept.push {rooted : Bool} {kept : List (List Char)} (normal : NormalKept rooted kept)
    {name : List Char} (plain : PlainName name) : NormalKept rooted (name :: kept) where
  elements := List.forall_mem_cons.2 ⟨kept_of_plainName plain, normal.elements⟩
  dots := List.chain'_cons'.2 ⟨fun _ _ dots => absurd dots plain.2.2.2, normal.dots⟩
  root := fun rooted member =>
    (List.mem_cons.1 member).elim (fun same => plain.2.2.2 same.symm) (normal.root rooted)

theorem NormalKept.tail {rooted : Bool} {element : List Char} {kept : List (List Char)}
    (normal : NormalKept rooted (element :: kept)) : NormalKept rooted kept :=
  ⟨fun e member => normal.elements e (List.mem_cons_of_mem _ member), normal.dots.tail,
    fun rooted member => normal.root rooted (List.mem_cons_of_mem _ member)⟩

/-- Each step of the pass keeps the form. -/
theorem cleanStep_normal {rooted : Bool} {kept : List (List Char)}
    (normal : NormalKept rooted kept) {element : List Char} (noSlash : '/' ∉ element) :
    NormalKept rooted (cleanStep rooted kept element) := by
  unfold cleanStep
  by_cases skipped : element = [] ∨ element = ['.']
  · rw [if_pos skipped]
    exact normal
  rw [if_neg skipped]
  by_cases dots : element = ['.', '.']
  · rw [if_pos dots]
    subst dots
    cases kept with
    | cons last before =>
      dsimp only
      by_cases again : last = ['.', '.']
      · rw [if_pos again]
        subst again
        refine ⟨List.forall_mem_cons.2 ⟨⟨by simp, by simp, by simp⟩, normal.elements⟩,
          List.chain'_cons'.2 ⟨fun _ _ _ => by simp_all, normal.dots⟩, fun rooted => ?_⟩
        exact absurd (List.mem_cons_self _ _) (normal.root rooted)
      · rw [if_neg again]
        exact normal.tail
    | nil =>
      dsimp only
      cases rooted
      · exact ⟨by simp [Kept], List.chain'_singleton _, fun rooted => nomatch rooted⟩
      · exact normalKept_nil true
  · rw [if_neg dots]
    exact normal.push ⟨fun empty => skipped (.inl empty), noSlash, fun dot => skipped (.inr dot),
      dots⟩

theorem foldl_cleanStep_normal (rooted : Bool) : ∀ (elements : List (List Char))
    (kept : List (List Char)), NormalKept rooted kept → (∀ e ∈ elements, '/' ∉ e) →
    NormalKept rooted (elements.foldl (cleanStep rooted) kept)
  | [], _, normal, _ => normal
  | element :: elements, _, normal, noSlash =>
    foldl_cleanStep_normal rooted elements _
      (cleanStep_normal normal (noSlash element (List.mem_cons_self _ _)))
      fun e member => noSlash e (List.mem_cons_of_mem _ member)

/-- What `path.Clean` keeps of any path is in normal form. -/
theorem normalKept_keptOf (path : List Char) : NormalKept (isRooted path) (keptOf path) :=
  foldl_cleanStep_normal _ _ _ (normalKept_nil _) fun _ member => not_mem_of_mem_splitPath member

/-- On a normal form, the pass keeps the last element. -/
theorem cleanStep_of_normal {rooted : Bool} {element : List Char} {kept : List (List Char)}
    (normal : NormalKept rooted (element :: kept)) :
    cleanStep rooted kept element = element :: kept := by
  obtain ⟨nonempty, _, notDot⟩ := normal.elements element (List.mem_cons_self _ _)
  unfold cleanStep
  rw [if_neg (by simp [nonempty, notDot])]
  by_cases dots : element = ['.', '.']
  · rw [if_pos dots]
    cases kept with
    | cons last before =>
      dsimp only
      rw [if_pos ((List.chain'_cons.1 normal.dots).1 dots)]
    | nil =>
      dsimp only
      cases rooted
      · rw [if_neg Bool.false_ne_true, dots]
      · exact absurd (dots ▸ List.mem_cons_self _ _) (normal.root rfl)
  · rw [if_neg dots]

/-- Re-reading the kept elements in order gives them back. -/
theorem foldl_cleanStep_reverse {rooted : Bool} : ∀ {kept : List (List Char)},
    NormalKept rooted kept → kept.reverse.foldl (cleanStep rooted) [] = kept
  | [], _ => rfl
  | element :: kept, normal => by
    rw [List.reverse_cons, List.foldl_append, foldl_cleanStep_reverse normal.tail, List.foldl_cons,
      List.foldl_nil, cleanStep_of_normal normal]

/-! ### Re-reading and joining -/

theorem splitPath_intercalate {elements : List (List Char)} (nonempty : elements ≠ [])
    (noSlash : ∀ e ∈ elements, '/' ∉ e) : splitPath (['/'].intercalate elements) = elements :=
  List.splitOn_intercalate elements '/' noSlash nonempty

theorem cleanStep_of_plainName (rooted : Bool) (kept : List (List Char)) {name : List Char}
    (plain : PlainName name) : cleanStep rooted kept name = name :: kept := by
  unfold cleanStep
  rw [if_neg (by simp [plain.1, plain.2.2.1]), if_neg plain.2.2.2]

theorem isRooted_of_not_mem {path : List Char} (noSlash : '/' ∉ path) :
    isRooted path = false := by
  cases path with
  | nil => rfl
  | cons c rest =>
    simpa [isRooted] using fun same : c = '/' => noSlash (same ▸ List.mem_cons_self c rest)

theorem isRooted_intercalate {element : List Char} (nonempty : element ≠ [])
    (rest : List (List Char)) :
    isRooted (['/'].intercalate (element :: rest)) = isRooted element := by
  cases rest <;> simp [isRooted, List.intercalate, List.head?_append_of_ne_nil _ nonempty]

theorem intercalate_append_single {elements : List (List Char)} (nonempty : elements ≠ [])
    (last : List Char) :
    ['/'].intercalate (elements ++ [last]) = ['/'].intercalate elements ++ '/' :: last := by
  induction elements with
  | nil => exact absurd rfl nonempty
  | cons first rest ih =>
    cases rest with
    | nil => simp [List.intercalate]
    | cons second rest =>
      simp only [List.cons_append, List.intercalate, List.intersperse_cons₂, List.flatten_cons,
        List.append_assoc] at ih ⊢
      rw [ih (List.cons_ne_nil _ _)]

/-- A path written from a normal form is read back to it, with the same root. -/
theorem keptOf_renderKept {rooted : Bool} {kept : List (List Char)}
    (normal : NormalKept rooted kept) :
    isRooted (renderKept rooted kept) = rooted ∧ keptOf (renderKept rooted kept) = kept := by
  have back : (splitPath (['/'].intercalate kept.reverse)).foldl (cleanStep rooted) [] = kept := by
    cases kept with
    | nil => rfl
    | cons element rest =>
      rw [splitPath_intercalate (by simp) fun e member =>
        (normal.elements e (List.mem_reverse.1 member)).2.1, foldl_cleanStep_reverse normal]
  cases rooted with
  | true =>
    have rootedText : isRooted (renderKept true kept) = true := rfl
    refine ⟨rootedText, ?_⟩
    rw [keptOf, rootedText, renderKept, if_pos rfl, List.singleton_append,
      show '/' :: ['/'].intercalate kept.reverse = [] ++ '/' :: ['/'].intercalate kept.reverse
        from rfl, splitPath_append]
    exact back
  | false =>
    have relative : isRooted (renderKept false kept) = false := by
      cases reversed : kept.reverse with
      | nil => simp [renderKept, reversed, isRooted, List.intercalate]
      | cons element rest =>
        have kept' :=
          normal.elements element (List.mem_reverse.1 (reversed ▸ List.mem_cons_self _ _))
        rw [renderKept, reversed, if_neg Bool.false_ne_true, List.nil_append,
          isRooted_intercalate kept'.1]
        exact isRooted_of_not_mem kept'.2.1
    refine ⟨relative, ?_⟩
    rw [keptOf, relative]
    exact back

/-- Joining a plain name to a nonempty path pushes the name onto what the path keeps. -/
theorem keptOf_append {front name : List Char} (nonempty : front ≠ []) (plain : PlainName name) :
    isRooted (front ++ '/' :: name) = isRooted front ∧
      keptOf (front ++ '/' :: name) = name :: keptOf front := by
  have rooted : isRooted (front ++ '/' :: name) = isRooted front := by
    obtain ⟨c, rest, split⟩ := List.exists_cons_of_ne_nil nonempty
    rw [split]
    rfl
  refine ⟨rooted, ?_⟩
  rw [keptOf, keptOf, rooted, splitPath_append, splitPath_of_not_mem plain.2.1, List.foldl_append,
    List.foldl_cons, List.foldl_nil, cleanStep_of_plainName _ _ plain]

theorem pathClean_of_ne_nil {path : String}
    (nonempty : renderKept (isRooted path.data) (keptOf path.data) ≠ []) :
    pathClean path = ⟨renderKept (isRooted path.data) (keptOf path.data)⟩ := by
  unfold pathClean
  split
  · contradiction
  · rfl

theorem renderKept_cons_ne_nil (rooted : Bool) {name : List Char} (nonempty : name ≠ [])
    (kept : List (List Char)) : renderKept rooted (name :: kept) ≠ [] := by
  simp only [renderKept, List.reverse_cons, ne_eq, List.append_eq_nil, not_and]
  intro _
  cases reversed : kept.reverse with
  | nil => simpa [List.intercalate] using nonempty
  | cons first rest =>
    rw [intercalate_append_single (List.cons_ne_nil _ _)]
    simp

/-- `path.Join` of a path and a plain name: the name pushed onto what the path keeps. -/
theorem pathJoin_eq_renderKept (elem name : String) (plain : PlainName name.data) :
    pathJoin elem name = ⟨renderKept (isRooted elem.data) (name.data :: keptOf elem.data)⟩ := by
  unfold pathJoin
  by_cases empty : elem.data = []
  · rw [if_neg (not_not.2 empty), if_pos plain.1, empty]
    have alone : keptOf name.data = [name.data] := by
      rw [keptOf, splitPath_of_not_mem plain.2.1, List.foldl_cons, List.foldl_nil,
        cleanStep_of_plainName _ _ plain]
    rw [pathClean_of_ne_nil (by
      rw [alone]; exact renderKept_cons_ne_nil _ plain.1 []), alone, isRooted_of_not_mem plain.2.1]
    rfl
  · rw [if_pos empty]
    obtain ⟨rooted, kept⟩ := keptOf_append empty plain
    rw [pathClean_of_ne_nil (by
      dsimp only; rw [rooted, kept]; exact renderKept_cons_ne_nil _ plain.1 _)]
    dsimp only
    rw [rooted, kept]

example : pathJoin "/dev/../dev/" "sda" = "/dev/sda" := by decide

example : pathJoin "a/../.." "b" = "../b" := by decide

/-- Along a chain of joins, each join of a plain name adds a slash and the name. -/
theorem pathJoin_pathJoin (elem : String) {first name : String} (firstPlain : PlainName first.data)
    (plain : PlainName name.data) :
    pathJoin (pathJoin elem first) name = ⟨(pathJoin elem first).data ++ '/' :: name.data⟩ := by
  obtain ⟨rooted, kept⟩ := keptOf_renderKept ((normalKept_keptOf elem.data).push firstPlain)
  rw [pathJoin_eq_renderKept _ _ plain, pathJoin_eq_renderKept _ _ firstPlain]
  dsimp only
  rw [rooted, kept, renderKept, renderKept, List.reverse_cons, List.reverse_cons,
    intercalate_append_single (by simp), List.append_assoc]

end AosServiceManager.Go
