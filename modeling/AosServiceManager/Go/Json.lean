/-
Module: AosServiceManager.Go.Json
Layer: Core and Proofs
Purpose: encoding/json on the `users` column of database.go (src/database/database.go:1081-1298).
  `AddServiceToUsers` and every query on the column key a row by `json.Marshal(users)`, and
  `GetUsersList` reads the column back with `json.Unmarshal` into a `[]string`. `Marshal` of a
  `[]string` writes `null` for a nil slice and each string between quotes, escaping `"`, `\`,
  control characters, `<`, `>`, `&`, U+2028 and U+2029; `Unmarshal` is given as a scanner over the
  text, with its whitespace, short and `\u` escapes and surrogate pairs. Every users list, nil
  included, reads back as itself, so two lists share a JSON text exactly when they are equal:
  the users table of Launcher.Basic, keyed by the lists themselves, is the table keyed by their
  JSON texts.
Imports: AosServiceManager.Go.Basic
Trusted boundary: encoding/json of the Go releases before 1.22, which write `\b` and `\f` as
  `\u0008` and `\u000c`; the text is valid UTF-8, as the text `Marshal` writes is, so it is given
  as characters.
Main exports: encodeChar, encodeString, marshalStrings, scan, unmarshalStrings,
  unmarshalStrings_marshalStrings
-/
import AosServiceManager.Go.Basic

namespace AosServiceManager.Go

/-! ### `json.Marshal` of a `[]string` -/

/-- The lower-case hexadecimal digit of `n < 16`: the `hex` table of encoding/json. -/
def hexDigit (n : Nat) : Char :=
  if n < 10 then Char.ofNat (48 + n) else Char.ofNat (87 + n)

/-- `htmlSafeSet` of encoding/json: the ASCII characters `Marshal` writes as they are. -/
def htmlSafe (c : Char) : Bool :=
  0x20 ≤ c.toNat && c.toNat < 0x80 && c != '"' && c != '\\' && c != '<' && c != '>' && c != '&'

/-- How `encodeState.string` writes one character, with `escapeHTML` set. -/
def encodeChar (c : Char) : List Char :=
  if htmlSafe c then [c]
  else if c.toNat < 0x80 then
    if c = '\\' then ['\\', '\\']
    else if c = '"' then ['\\', '"']
    else if c = '\n' then ['\\', 'n']
    else if c = '\r' then ['\\', 'r']
    else if c = '\t' then ['\\', 't']
    else ['\\', 'u', '0', '0', hexDigit (c.toNat / 16), hexDigit (c.toNat % 16)]
  else if c = '\u2028' ∨ c = '\u2029' then ['\\', 'u', '2', '0', '2', hexDigit (c.toNat % 16)]
  else [c]

/-- `encodeState.string`: the escaped characters between quotes. -/
def encodeString (s : String) : List Char :=
  '"' :: s.data.flatMap encodeChar ++ ['"']

/-- `json.Marshal` of a `[]string`: `null` for a nil slice, else the strings between brackets,
separated by commas. -/
def marshalStrings : Option (List String) → List Char
  | none => ['n', 'u', 'l', 'l']
  | some [] => ['[', ']']
  | some (s :: rest) =>
    '[' :: encodeString s ++ rest.flatMap (fun s => ',' :: encodeString s) ++ [']']

/-! ### `json.Unmarshal` into a `[]string` -/

/-- The whitespace of the JSON scanner. -/
def isJsonSpace (c : Char) : Bool :=
  c = ' ' || c = '\t' || c = '\n' || c = '\r'

/-- The value of a hexadecimal digit. -/
def hexValue (c : Char) : Option Nat :=
  if '0' ≤ c ∧ c ≤ '9' then some (c.toNat - 48)
  else if 'a' ≤ c ∧ c ≤ 'f' then some (c.toNat - 87)
  else if 'A' ≤ c ∧ c ≤ 'F' then some (c.toNat - 55)
  else none

/-- `getu4`: the value of four hexadecimal digits. -/
def hex4 (a b c d : Char) : Option Nat := do
  let a ← hexValue a
  let b ← hexValue b
  let c ← hexValue c
  let d ← hexValue d
  pure (((a * 16 + b) * 16 + c) * 16 + d)

/-- The character of a short escape, none for a character the scanner refuses after `\`. -/
def shortEscape (c : Char) : Option Char :=
  if c = '"' then some '"'
  else if c = '\\' then some '\\'
  else if c = '/' then some '/'
  else if c = 'b' then some '\x08'
  else if c = 'f' then some '\x0c'
  else if c = 'n' then some '\n'
  else if c = 'r' then some '\r'
  else if c = 't' then some '\t'
  else none

/-- The character of a `\u` escape that is not followed by the second half of a surrogate pair:
U+FFFD for a surrogate. -/
def escapeChar (n : Nat) : Char :=
  if n < 0xD800 ∨ 0xE000 ≤ n then Char.ofNat n else '\uFFFD'

/-- Where the scanner is in the text of a `[]string`: before the value; before an element, where
`]` may close an empty array; inside a string, with the elements before it and its characters so
far; after an element; after the value, with what it decoded. -/
inductive Scan where
  | top
  | element (done : List String) (first : Bool)
  | str (done : List String) (acc : List Char)
  | next (done : List String)
  | finished (result : Option (List String))

/-- `json.Unmarshal` into a `[]string` as a scan over the text: none for a text it refuses,
`some none` for `null`, `some (some users)` for an array of strings, where a `null` element is
the empty string. A `\u` escape of a surrogate takes the following `\u` escape with it when the
two are a pair, and is U+FFFD otherwise (`unquoteBytes`). -/
def scan : Scan → List Char → Option (Option (List String))
  | .finished result, [] => some result
  | .finished result, c :: rest => if isJsonSpace c then scan (.finished result) rest else none
  | .top, 'n' :: 'u' :: 'l' :: 'l' :: rest => scan (.finished none) rest
  | .top, '[' :: rest => scan (.element [] true) rest
  | .top, c :: rest => if isJsonSpace c then scan .top rest else none
  | .element done true, ']' :: rest => scan (.finished (some done)) rest
  | .element done _, '"' :: rest => scan (.str done []) rest
  | .element done _, 'n' :: 'u' :: 'l' :: 'l' :: rest => scan (.next (done ++ [""])) rest
  | .element done first, c :: rest =>
    if isJsonSpace c then scan (.element done first) rest else none
  | .str done acc, '"' :: rest => scan (.next (done ++ [String.mk acc])) rest
  | .str done acc, '\\' :: 'u' :: a :: b :: c :: d :: '\\' :: 'u' :: e :: f :: g :: h :: rest =>
    match hex4 a b c d, hex4 e f g h with
    | none, _ => none
    | some n, some m =>
      if n < 0xD800 ∨ 0xE000 ≤ n then scan (.str done (acc ++ [Char.ofNat n])) ('\\' :: 'u' :: e :: f :: g :: h :: rest)
      else if n < 0xDC00 ∧ 0xDC00 ≤ m ∧ m < 0xE000 then
        scan (.str done (acc ++ [Char.ofNat (0x10000 + (n - 0xD800) * 0x400 + (m - 0xDC00))])) rest
      else scan (.str done (acc ++ ['\uFFFD'])) ('\\' :: 'u' :: e :: f :: g :: h :: rest)
    | some n, none => scan (.str done (acc ++ [escapeChar n])) ('\\' :: 'u' :: e :: f :: g :: h :: rest)
  | .str done acc, '\\' :: 'u' :: a :: b :: c :: d :: rest =>
    match hex4 a b c d with
    | none => none
    | some n => scan (.str done (acc ++ [escapeChar n])) rest
  | .str done acc, '\\' :: e :: rest =>
    match shortEscape e with
    | some c => scan (.str done (acc ++ [c])) rest
    | none => none
  | .str done acc, c :: rest => if c.toNat < 0x20 then none else scan (.str done (acc ++ [c])) rest
  | .next done, ',' :: rest => scan (.element done false) rest
  | .next done, ']' :: rest => scan (.finished (some done)) rest
  | .next done, c :: rest => if isJsonSpace c then scan (.next done) rest else none
  | _, [] => none

/-- `json.Unmarshal(usersJSON, &users)` with `users` a nil `[]string`. -/
def unmarshalStrings (text : List Char) : Option (Option (List String)) :=
  scan .top text

example : unmarshalStrings " [ \"a\\u0041\\/\" , null ]\n".data = some (some ["aA/", ""]) ∧
    unmarshalStrings "[\"\\ud83d\\ude00\", \"\\ud83d\"]".data = some (some ["😀", "\uFFFD"]) ∧
    unmarshalStrings "[,]".data = none ∧ unmarshalStrings "null x".data = none := by
  decide

/-! ### Round trip -/

theorem hexValue_hexDigit : ∀ n < 16, hexValue (hexDigit n) = some n := by
  decide

section RoundTrip

variable {done : List String} {acc : List Char} {tail : List Char}

/-- A character that is neither a quote nor a backslash, and not a control character, stands for
itself in a string. -/
theorem scan_str_raw {c : Char} (quote : c ≠ '"') (backslash : c ≠ '\\')
    (printable : 0x20 ≤ c.toNat) :
    scan (.str done acc) (c :: tail) = scan (.str done (acc ++ [c])) tail := by
  rw [scan, if_neg (by omega)]
  · exact quote
  · exact fun _ _ _ _ _ _ _ _ _ same _ => backslash same
  · exact fun _ _ _ _ _ same _ => backslash same
  · exact fun _ _ same _ => backslash same

/-- A short escape stands for its character. -/
theorem scan_str_short {e c : Char} (notU : e ≠ 'u') (escaped : shortEscape e = some c) :
    scan (.str done acc) ('\\' :: e :: tail) = scan (.str done (acc ++ [c])) tail := by
  rw [scan, escaped]
  · exact fun _ _ _ _ _ _ _ _ _ isU _ => notU isU
  · exact fun _ _ _ _ _ isU _ => notU isU

/-- A `\u` escape of a character outside the surrogates stands for it, whatever follows. -/
theorem scan_str_unicode {a b c d : Char} {n : Nat} (value : hex4 a b c d = some n)
    (plain : n < 0xD800) :
    scan (.str done acc) ('\\' :: 'u' :: a :: b :: c :: d :: tail) =
      scan (.str done (acc ++ [Char.ofNat n])) tail := by
  have escaped : escapeChar n = Char.ofNat n := if_pos (.inl plain)
  by_cases ahead : ∃ e f g h rest, tail = '\\' :: 'u' :: e :: f :: g :: h :: rest
  · obtain ⟨e, f, g, h, rest, rfl⟩ := ahead
    rw [scan, value]
    cases hex4 e f g h
    · dsimp only
      rw [escaped]
    · dsimp only
      rw [if_pos (.inl plain)]
  · rw [scan, value]
    · dsimp only
      rw [escaped]
    · exact fun e f g h rest same => ahead ⟨e, f, g, h, rest, same⟩

theorem htmlSafe_raw {c : Char} (safe : htmlSafe c = true) :
    c ≠ '"' ∧ c ≠ '\\' ∧ 0x20 ≤ c.toNat := by
  simp only [htmlSafe, Bool.and_eq_true, decide_eq_true_eq, bne_iff_ne, ne_eq] at safe
  exact ⟨safe.1.1.1.1.2, safe.1.1.1.2, safe.1.1.1.1.1.1⟩

/-- The escape of a control character, `<`, `>` or `&` reads back as the character. -/
theorem hex4_escape {c : Char} (ascii : c.toNat < 0x80) :
    hex4 '0' '0' (hexDigit (c.toNat / 16)) (hexDigit (c.toNat % 16)) = some c.toNat := by
  have zero : hexValue '0' = some 0 := rfl
  have high := hexValue_hexDigit (c.toNat / 16) (by omega)
  have low := hexValue_hexDigit (c.toNat % 16) (Nat.mod_lt _ (by decide))
  rw [hex4, zero, high, low]
  show some (((0 * 16 + 0) * 16 + c.toNat / 16) * 16 + c.toNat % 16) = some c.toNat
  congr 1
  omega

/-- Every character reads back from its encoding. -/
theorem scan_str_encodeChar (c : Char) :
    scan (.str done acc) (encodeChar c ++ tail) = scan (.str done (acc ++ [c])) tail := by
  unfold encodeChar
  by_cases safe : htmlSafe c = true
  · obtain ⟨quote, backslash, printable⟩ := htmlSafe_raw safe
    rw [if_pos safe]
    exact scan_str_raw quote backslash printable
  rw [if_neg safe]
  by_cases ascii : c.toNat < 0x80
  · rw [if_pos ascii]
    split_ifs with backslash quote newline ret tab
    · subst backslash
      exact scan_str_short (by decide) rfl
    · subst quote
      exact scan_str_short (by decide) rfl
    · subst newline
      exact scan_str_short (by decide) rfl
    · subst ret
      exact scan_str_short (by decide) rfl
    · subst tab
      exact scan_str_short (by decide) rfl
    · have read := @scan_str_unicode done acc tail _ _ _ _ _ (hex4_escape ascii) (by omega)
      rwa [Char.ofNat_toNat] at read
  · rw [if_neg ascii]
    split_ifs with separator
    · rcases separator with rfl | rfl
      · exact scan_str_unicode (by decide) (by decide)
      · exact scan_str_unicode (by decide) (by decide)
    · exact scan_str_raw (fun same => by subst same; exact ascii (by decide))
        (fun same => by subst same; exact ascii (by decide)) (by omega)

/-- The escaped characters of a string, then its closing quote, read back as the string. -/
theorem scan_str_encodeChars : ∀ (chars acc : List Char),
    scan (.str done acc) (chars.flatMap encodeChar ++ '"' :: tail) =
      scan (.next (done ++ [String.mk (acc ++ chars)])) tail
  | [], acc => by rw [List.append_nil]; rfl
  | c :: chars, acc => by
    rw [List.flatMap_cons, List.append_assoc, scan_str_encodeChar, scan_str_encodeChars chars,
      List.append_assoc, List.singleton_append]

theorem scan_element_encodeString (first : Bool) (s : String) :
    scan (.element done first) (encodeString s ++ tail) = scan (.next (done ++ [s])) tail := by
  have opened : scan (.element done first) (encodeString s ++ tail) =
      scan (.str done []) (s.data.flatMap encodeChar ++ '"' :: tail) := by
    cases first <;> simp only [encodeString, List.cons_append, List.append_assoc,
      List.singleton_append] <;> rfl
  rw [opened, scan_str_encodeChars, List.nil_append]

/-- The elements after the first, each after its comma, then the closing bracket. -/
theorem scan_next_elements : ∀ (rest : List String) (done : List String),
    scan (.next done) (rest.flatMap (fun s => ',' :: encodeString s) ++ ']' :: tail) =
      scan (.finished (some (done ++ rest))) tail
  | [], done => by rw [List.append_nil]; rfl
  | s :: rest, done => by
    rw [List.flatMap_cons, List.append_assoc, List.cons_append]
    show scan (.element done false) _ = _
    rw [scan_element_encodeString, scan_next_elements rest, List.append_assoc,
      List.singleton_append]

end RoundTrip

/-- `Unmarshal` reads back what `Marshal` writes for every users list, nil included. -/
theorem scan_marshalStrings : ∀ users, scan .top (marshalStrings users) = some users
  | none => rfl
  | some [] => rfl
  | some (s :: rest) => by
    show scan (.element [] true) (encodeString s ++ rest.flatMap (fun s => ',' :: encodeString s) ++
      [']']) = _
    rw [List.append_assoc, scan_element_encodeString, scan_next_elements]
    rfl

theorem marshalStrings_inj {users other : Option (List String)}
    (same : marshalStrings other = marshalStrings users) : other = users :=
  Option.some.inj (by rw [← scan_marshalStrings, same, scan_marshalStrings])

/-- `GetUsersList` reads back every users list `AddServiceToUsers` stored, nil included; so two
lists are stored under the same JSON text exactly when they are equal. -/
theorem unmarshalStrings_marshalStrings (users : Option (List String)) :
    unmarshalStrings (marshalStrings users) = some users ∧
      ∀ other, marshalStrings other = marshalStrings users ↔ other = users :=
  ⟨scan_marshalStrings users, fun _ => ⟨marshalStrings_inj, fun same => same ▸ rfl⟩⟩

end AosServiceManager.Go
