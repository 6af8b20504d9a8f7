/-
Module: AosServiceManager.Launcher.SystemdUnit
Layer: Core and Proofs
Purpose: The unit file `createSystemdService` writes (launcher.go:1748-1776): the template split
  after each newline, comment lines dropped, and `${RUNC}`, `${ID}` and `${SERVICEPATH}` replaced
  by three `strings.Replace` calls in turn, so text a value brings in is scanned by the later
  calls. Beside it, `onePassUnitFile` is the file written in one simultaneous pass over the
  template, each variable replaced by its value and no value scanned again. The two agree
  on every line made of `$`-free text and the three variables when no value contains `$`, which
  covers the shipped `serviceTemplate` (launcher.go:82-105); a value that contains a later
  variable is expanded again.
Imports: AosServiceManager.Go.Basic, Mathlib.Data.List.Basic
Trusted boundary: os.Create and filepath.Abs, taken as calls that succeed or fail.
Main exports: stringsReplace, splitAfterNewline, unitFileText, createSystemdService,
  onePassUnitFile, unitFileText_eq_onePass, serviceTemplate_unitFileText_eq_onePass,
  createSystemdService_expands_substituted_id
-/
import AosServiceManager.Go.Basic
import Mathlib.Data.List.Basic

namespace AosServiceManager.Launcher

/-! ### The `strings` functions -/

/-- `strings.Replace(s, old, new, -1)` on the characters of `s` for a non-empty `old`: scanning from
the left, each occurrence of `old` is replaced by `new`, and the scan resumes after it; `skip`
counts the characters of the occurrence just replaced that are still to be dropped. -/
def replaceScan (old new : List Char) : Nat → List Char → List Char
  | _, [] => []
  | skip + 1, _ :: rest => replaceScan old new skip rest
  | 0, c :: rest =>
    if old.isPrefixOf (c :: rest) then new ++ replaceScan old new (old.length - 1) rest
    else c :: replaceScan old new 0 rest

/-- `strings.Replace(s, old, new, -1)`: an empty `old` matches before every character and at the
end. -/
def stringsReplace (s old new : String) : String :=
  if old.isEmpty then ⟨new.data ++ s.data.flatMap (· :: new.data)⟩
  else ⟨replaceScan old.data new.data 0 s.data⟩

/-- `strings.SplitAfter(s, "\n")`: the lines of `s`, each with its newline; the text after the
last newline, possibly empty, is the last element. -/
def splitAfterNewline : List Char → List (List Char)
  | [] => [[]]
  | c :: rest =>
    if c = '\n' then [c] :: splitAfterNewline rest
    else match splitAfterNewline rest with
      | [] => [[c]]
      | line :: lines => (c :: line) :: lines

/-- `strings.HasPrefix(line, "#")`. -/
def isComment (line : List Char) : Bool :=
  "#".data.isPrefixOf line

/-! ### The unit file -/

/-- `serviceTemplate` (launcher.go:82-105), the template written when none exists. -/
def serviceTemplate : String :=
  "# This is template file used to launch AOS services\n# Known variables:\n# * ${ID}            - service id\n# * ${SERVICEPATH}   - path to service dir\n# * ${RUNC}          - path to runc\n[Unit]\nDescription=AOS Service\nAfter=network.target\n\n[Service]\nType=forking\nRestart=always\nRestartSec=1\nExecStartPre=${RUNC} delete -f ${ID}\nExecStart=${RUNC} run -d --pid-file ${SERVICEPATH}/.pid -b ${SERVICEPATH} ${ID}\n\nExecStop=${RUNC} kill ${ID} SIGKILL\nExecStopPost=${RUNC} delete -f ${ID}\nPIDFile=${SERVICEPATH}/.pid\nSuccessExitStatus=SIGKILL\n\n[Install]\nWantedBy=multi-user.target\n"

/-- One line as `createSystemdService` writes it: the three `strings.Replace` calls in turn. -/
def replaceLine (runcPath id absServicePath : String) (line : List Char) : List Char :=
  (stringsReplace (stringsReplace (stringsReplace ⟨line⟩ "${RUNC}" runcPath) "${ID}" id)
    "${SERVICEPATH}" absServicePath).data

/-- The text `createSystemdService` writes for `launcher.serviceTemplate`. -/
def unitFileText (template runcPath id absServicePath : String) : String :=
  ⟨(splitAfterNewline template.data).flatMap fun line =>
    if isComment line then [] else replaceLine runcPath id absServicePath line⟩

/-- `createSystemdService` (launcher.go:1748-1776): `create` is how `os.Create` ends and `abs` what
`filepath.Abs(installDir)` returns; the errors of the writes are not checked. -/
def createSystemdService (create : GoError) (abs : Except String String)
    (template runcPath id : String) : Except String String :=
  match create with
  | some err => .error err
  | none =>
    match abs with
    | .error err => .error err
    | .ok absServicePath => .ok (unitFileText template runcPath id absServicePath)

/-! ### One-pass substitution -/

/-- One-pass substitution: at each position the first variable whose name starts there is
replaced by its value and the scan resumes after the name, so values are never scanned. -/
def substituteScan (vars : List (List Char × List Char)) : Nat → List Char → List Char
  | _, [] => []
  | skip + 1, _ :: rest => substituteScan vars skip rest
  | 0, c :: rest =>
    match vars.find? (fun var => var.1.isPrefixOf (c :: rest)) with
    | some (name, value) => value ++ substituteScan vars (name.length - 1) rest
    | none => c :: substituteScan vars 0 rest

/-- The unit file with the three variables substituted in one pass. -/
def onePassUnitFile (template runcPath id absServicePath : String) : String :=
  ⟨(splitAfterNewline template.data).flatMap fun line =>
    if isComment line then []
    else substituteScan [("${RUNC}".data, runcPath.data), ("${ID}".data, id.data),
      ("${SERVICEPATH}".data, absServicePath.data)] 0 line⟩

/-! ### Lines of text and variables -/

/-- The three variables of the template. -/
inductive UnitVar where
  | runc
  | id
  | servicePath
deriving Repr, DecidableEq

/-- The text of a variable in the template. -/
def UnitVar.name : UnitVar → List Char
  | .runc => "${RUNC}".data
  | .id => "${ID}".data
  | .servicePath => "${SERVICEPATH}".data

/-- The variable's value: the runc path, the service ID or the install path. -/
def UnitVar.value (runcPath id absServicePath : List Char) : UnitVar → List Char
  | .runc => runcPath
  | .id => id
  | .servicePath => absServicePath

/-- The variables in the order of the `Replace` calls. -/
def UnitVar.all : List UnitVar := [.runc, .id, .servicePath]

/-- A piece of a template line: text, or a variable. -/
inductive Piece where
  | text (chars : List Char)
  | var (v : UnitVar)
deriving Repr, DecidableEq

/-- The characters of a piece. -/
def Piece.render : Piece → List Char
  | .text chars => chars
  | .var v => v.name

/-- Text pieces carry no `$`, so every `$` of the line starts a variable. -/
def Piece.dollarFree : Piece → Bool
  | .text chars => decide ('$' ∉ chars)
  | .var _ => true

/-- A piece with the variable `v` turned into the text `value`. -/
def Piece.subst (v : UnitVar) (value : List Char) : Piece → Piece
  | .var w => if w = v then .text value else .var w
  | piece => piece

/-- What one-pass substitution writes for a piece. -/
def Piece.value (runcPath id absServicePath : List Char) : Piece → List Char
  | .text chars => chars
  | .var v => v.value runcPath id absServicePath

/-- The line a list of pieces spells. -/
def renderPieces (pieces : List Piece) : List Char :=
  pieces.flatMap Piece.render

theorem name_head (v : UnitVar) : ∃ tail, v.name = '$' :: tail ∧ '$' ∉ tail := by
  cases v <;> exact ⟨_, rfl, by decide⟩

/-- A list whose first three characters differ from another's is not a prefix of it, whatever
follows. -/
theorem isPrefixOf_append_of_take {a b : List Char} (rest : List Char) (differ : a.take 3 ≠ b.take 3)
    (longA : 3 ≤ a.length) (longB : 3 ≤ b.length) : a.isPrefixOf (b ++ rest) = false := by
  refine Bool.eq_false_iff.2 fun isPrefix => differ ?_
  have taken := List.prefix_iff_eq_take.1 (List.isPrefixOf_iff_prefix.1 isPrefix)
  rw [taken, List.take_take, Nat.min_eq_left longA, List.take_append_of_le_length longB]

/-- A variable's name starts a line that begins with a variable exactly when it is that
variable. -/
theorem name_isPrefixOf (v w : UnitVar) (rest : List Char) :
    v.name.isPrefixOf (w.name ++ rest) = decide (v = w) := by
  by_cases same : v = w
  · subst same
    simp [List.isPrefixOf_iff_prefix]
  · rw [decide_eq_false same]
    cases v <;> cases w <;> first
      | exact absurd rfl same
      | exact isPrefixOf_append_of_take rest (by decide) (by decide) (by decide)

/-- No variable's name starts a line that begins with another character than `$`. -/
theorem name_isPrefixOf_of_ne (v : UnitVar) {c : Char} (other : c ≠ '$') (rest : List Char) :
    v.name.isPrefixOf (c :: rest) = false := by
  obtain ⟨tail, named, _⟩ := name_head v
  simp [named, List.isPrefixOf, Ne.symm other]

/-! ### The three `Replace` calls on such lines -/

section Replace

variable {new : List Char}

theorem replaceScan_skip (old xs rest : List Char) :
    replaceScan old new xs.length (xs ++ rest) = replaceScan old new 0 rest := by
  induction xs with
  | nil => rfl
  | cons _ xs ih => exact ih

theorem replaceScan_dollarFree (v : UnitVar) {text : List Char} (free : '$' ∉ text)
    (rest : List Char) :
    replaceScan v.name new 0 (text ++ rest) = text ++ replaceScan v.name new 0 rest := by
  induction text with
  | nil => rfl
  | cons c text ih =>
    have other : c ≠ '$' := fun same => free (same ▸ List.mem_cons_self _ _)
    simp only [List.cons_append, replaceScan, name_isPrefixOf_of_ne v other, Bool.false_eq_true,
      if_false]
    exact congrArg _ (ih fun member => free (List.mem_cons_of_mem _ member))

theorem replaceScan_var (v w : UnitVar) (rest : List Char) :
    replaceScan v.name new 0 (w.name ++ rest) =
      (if w = v then new else w.name) ++ replaceScan v.name new 0 rest := by
  obtain ⟨tail, named, free⟩ := name_head w
  have prefixed := name_isPrefixOf v w rest
  by_cases same : w = v
  · subst same
    rw [named, List.cons_append] at prefixed ⊢
    rw [replaceScan, prefixed, decide_eq_true rfl, if_pos rfl, if_pos rfl, List.length_cons,
      Nat.add_sub_cancel, replaceScan_skip]
  · rw [named, List.cons_append] at prefixed ⊢
    rw [replaceScan, prefixed, decide_eq_false (Ne.symm same), if_neg Bool.false_ne_true,
      if_neg same, List.cons_append, replaceScan_dollarFree v free]

/-- One `Replace` of a variable on a line of `$`-free text and variables replaces exactly that
variable's pieces. -/
theorem replaceScan_render (v : UnitVar) :
    ∀ pieces : List Piece, pieces.all Piece.dollarFree = true →
      replaceScan v.name new 0 (renderPieces pieces) =
        renderPieces (pieces.map (Piece.subst v new))
  | [], _ => rfl
  | .text chars :: pieces, free => by
    simp only [List.all_cons, Piece.dollarFree, Bool.and_eq_true, decide_eq_true_eq] at free
    simp only [renderPieces, List.flatMap_cons, Piece.render, List.map_cons, Piece.subst,
      replaceScan_dollarFree v free.1]
    exact congrArg _ (replaceScan_render v pieces free.2)
  | .var w :: pieces, free => by
    simp only [List.all_cons, Piece.dollarFree, Bool.true_and] at free
    simp only [renderPieces, List.flatMap_cons, Piece.render, List.map_cons, Piece.subst,
      replaceScan_var]
    by_cases same : w = v <;> simp only [same, if_true, if_false, Piece.render] <;>
      exact congrArg _ (replaceScan_render v pieces free)

theorem dollarFree_subst (v : UnitVar) (free : '$' ∉ new) (pieces : List Piece)
    (textFree : pieces.all Piece.dollarFree = true) :
    (pieces.map (Piece.subst v new)).all Piece.dollarFree = true := by
  simp only [List.all_map, List.all_eq_true, Function.comp_apply] at textFree ⊢
  intro piece member
  cases piece with
  | text => exact textFree _ member
  | var w =>
    by_cases same : w = v
    · simpa [Piece.subst, same, Piece.dollarFree] using free
    · simp [Piece.subst, same, Piece.dollarFree]

end Replace

/-- The three `Replace` calls of a line, each on the name of its variable. -/
theorem replaceLine_eq (runcPath id absServicePath : String) (line : List Char) :
    replaceLine runcPath id absServicePath line =
      replaceScan UnitVar.servicePath.name absServicePath.data 0
        (replaceScan UnitVar.id.name id.data 0 (replaceScan UnitVar.runc.name runcPath.data 0 line)) :=
  rfl

/-- On a line of `$`-free text and variables, the three `Replace` calls write each variable's
value once, when no value contains `$`. -/
theorem replaceLine_render (runcPath id absServicePath : String)
    (runcFree : '$' ∉ runcPath.data) (idFree : '$' ∉ id.data) (pieces : List Piece)
    (free : pieces.all Piece.dollarFree = true) :
    replaceLine runcPath id absServicePath (renderPieces pieces) =
      pieces.flatMap (Piece.value runcPath.data id.data absServicePath.data) := by
  have free1 := dollarFree_subst .runc runcFree pieces free
  rw [replaceLine_eq, replaceScan_render .runc pieces free, replaceScan_render .id _ free1,
    replaceScan_render .servicePath _ (dollarFree_subst .id idFree _ free1), renderPieces,
    List.flatMap_map, List.flatMap_map, List.flatMap_map]
  congr 1
  funext piece
  cases piece with
  | text => rfl
  | var v => cases v <;> rfl

/-! ### One-pass substitution on such lines -/

section OnePass

variable (runcPath id absServicePath : List Char)

/-- The three variables with their values, in the order `onePassUnitFile` lists them. -/
def unitVars : List (List Char × List Char) :=
  UnitVar.all.map fun v => (v.name, v.value runcPath id absServicePath)

theorem substituteScan_skip (vars : List (List Char × List Char)) (xs rest : List Char) :
    substituteScan vars xs.length (xs ++ rest) = substituteScan vars 0 rest := by
  induction xs with
  | nil => rfl
  | cons _ xs ih => exact ih

theorem substituteScan_dollarFree {text : List Char} (free : '$' ∉ text) (rest : List Char) :
    substituteScan (unitVars runcPath id absServicePath) 0 (text ++ rest) =
      text ++ substituteScan (unitVars runcPath id absServicePath) 0 rest := by
  induction text with
  | nil => rfl
  | cons c text ih =>
    have other : c ≠ '$' := fun same => free (same ▸ List.mem_cons_self _ _)
    have none : (unitVars runcPath id absServicePath).find?
        (fun var => var.1.isPrefixOf (c :: (text ++ rest))) = none := by
      simp [unitVars, UnitVar.all, name_isPrefixOf_of_ne _ other]
    rw [List.cons_append, substituteScan, none, List.cons_append,
      ih fun member => free (List.mem_cons_of_mem _ member)]

theorem substituteScan_var (w : UnitVar) (rest : List Char) :
    substituteScan (unitVars runcPath id absServicePath) 0 (w.name ++ rest) =
      w.value runcPath id absServicePath ++
        substituteScan (unitVars runcPath id absServicePath) 0 rest := by
  obtain ⟨tail, named, _⟩ := name_head w
  have found : (unitVars runcPath id absServicePath).find?
      (fun var => var.1.isPrefixOf (w.name ++ rest)) = some (w.name, w.value runcPath id absServicePath) := by
    cases w <;> simp [unitVars, UnitVar.all, name_isPrefixOf]
  rw [named, List.cons_append] at found ⊢
  rw [substituteScan, found]
  dsimp only
  rw [List.length_cons, Nat.add_sub_cancel, substituteScan_skip]

/-- One-pass substitution on a line of `$`-free text and variables writes each variable's value
once, whatever the values contain. -/
theorem substituteScan_render :
    ∀ pieces : List Piece, pieces.all Piece.dollarFree = true →
      substituteScan (unitVars runcPath id absServicePath) 0 (renderPieces pieces) =
        pieces.flatMap (Piece.value runcPath id absServicePath)
  | [], _ => rfl
  | .text chars :: pieces, free => by
    simp only [List.all_cons, Piece.dollarFree, Bool.and_eq_true, decide_eq_true_eq] at free
    simp only [renderPieces, List.flatMap_cons, Piece.render, Piece.value,
      substituteScan_dollarFree _ _ _ free.1]
    exact congrArg _ (substituteScan_render pieces free.2)
  | .var w :: pieces, free => by
    simp only [List.all_cons, Piece.dollarFree, Bool.true_and] at free
    simp only [renderPieces, List.flatMap_cons, Piece.render, Piece.value, substituteScan_var]
    exact congrArg _ (substituteScan_render pieces free)

end OnePass

/-- The lines of a template that are not comments, each spelled by `$`-free text and the three
variables. -/
def LinesOfPieces (template : String) : Prop :=
  ∀ line ∈ splitAfterNewline template.data, isComment line = false →
    ∃ pieces : List Piece, pieces.all Piece.dollarFree = true ∧ renderPieces pieces = line

/-- When every `$` of every line of the template starts a variable and neither the runc path nor
the service ID contains `$`, the three `Replace` calls write what one-pass substitution writes. -/
theorem unitFileText_eq_onePass {template : String} (lines : LinesOfPieces template)
    (runcPath id absServicePath : String) (runcFree : '$' ∉ runcPath.data)
    (idFree : '$' ∉ id.data) :
    unitFileText template runcPath id absServicePath =
      onePassUnitFile template runcPath id absServicePath := by
  refine congrArg String.mk (List.flatMap_congr fun line member => ?_)
  cases comment : isComment line with
  | true => rfl
  | false =>
    obtain ⟨pieces, free, rfl⟩ := lines line member comment
    simp only [Bool.false_eq_true, if_false]
    rw [replaceLine_render _ _ _ runcFree idFree pieces free]
    exact (substituteScan_render _ _ _ pieces free).symm

/-- The scan that cuts a line into variables and single characters of text. -/
def tokenize : Nat → List Char → List Piece
  | _, [] => []
  | skip + 1, _ :: rest => tokenize skip rest
  | 0, c :: rest =>
    match UnitVar.all.find? (fun v => v.name.isPrefixOf (c :: rest)) with
    | some v => .var v :: tokenize (v.name.length - 1) rest
    | none => .text [c] :: tokenize 0 rest

/-- Every `$` of the shipped template starts a variable. -/
theorem serviceTemplate_linesOfPieces : LinesOfPieces serviceTemplate := by
  have cut : ∀ line ∈ splitAfterNewline serviceTemplate.data, isComment line = false →
      (tokenize 0 line).all Piece.dollarFree = true ∧ renderPieces (tokenize 0 line) = line := by
    decide
  exact fun line member comment => ⟨_, cut line member comment⟩

/-- With the shipped template, the unit file is the one-pass substitution for every runc path
and service ID without `$` and every install path. -/
theorem serviceTemplate_unitFileText_eq_onePass (runcPath id absServicePath : String)
    (runcFree : '$' ∉ runcPath.data) (idFree : '$' ∉ id.data) :
    unitFileText serviceTemplate runcPath id absServicePath =
      onePassUnitFile serviceTemplate runcPath id absServicePath :=
  unitFileText_eq_onePass serviceTemplate_linesOfPieces runcPath id absServicePath runcFree idFree

theorem serviceTemplate_unitFileText_eq_onePass_for_runc :
    '$' ∉ "/usr/bin/runc".data ∧ '$' ∉ "service0".data ∧
      unitFileText serviceTemplate "/usr/bin/runc" "service0" "/srv/aos" =
        onePassUnitFile serviceTemplate "/usr/bin/runc" "service0" "/srv/aos" :=
  ⟨by decide, by decide, serviceTemplate_unitFileText_eq_onePass _ _ _ (by decide) (by decide)⟩

set_option maxRecDepth 4000 in
/-- A service ID that contains `${SERVICEPATH}` is expanded by the third `Replace`: the file
written is the one-pass substitution for the ID with the install path in its place, not for the
ID given. -/
theorem createSystemdService_expands_substituted_id :
    createSystemdService none (.ok "/srv/aos") serviceTemplate "/usr/bin/runc" "x${SERVICEPATH}" =
        .ok (unitFileText serviceTemplate "/usr/bin/runc" "x${SERVICEPATH}" "/srv/aos") ∧
      unitFileText serviceTemplate "/usr/bin/runc" "x${SERVICEPATH}" "/srv/aos" =
        onePassUnitFile serviceTemplate "/usr/bin/runc" "x/srv/aos" "/srv/aos" ∧
      unitFileText serviceTemplate "/usr/bin/runc" "x${SERVICEPATH}" "/srv/aos" ≠
        onePassUnitFile serviceTemplate "/usr/bin/runc" "x${SERVICEPATH}" "/srv/aos" :=
  ⟨rfl, by decide, by decide⟩

end AosServiceManager.Launcher
