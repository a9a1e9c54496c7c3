import MudController.Logic.Json
import MudController.Logic.Text

/-!
# `Logic.JsonText` — JSON values as text

The compact text of a JSON value, and its reader, as `serde_json` has them: the writer escapes quotes,
backslashes and control characters; the reader skips white space between the tokens, knows all escapes, and
gives up on more than 127 levels of nesting. Numbers are whole numbers. What was written is read back
(`Json.read_write`).
-/

namespace Logic

/-- A reader: what it has read, and the text behind it. -/
abbrev Reader (α : Type) := List Char → Option (α × List Char)

/-! ## Writing -/

/-- A character inside a string. -/
def escapeChar : Char → List Char
  | '"' => ['\\', '"']
  | '\\' => ['\\', '\\']
  | '\x08' => ['\\', 'b']
  | '\t' => ['\\', 't']
  | '\n' => ['\\', 'n']
  | '\x0c' => ['\\', 'f']
  | '\r' => ['\\', 'r']
  | c =>
    if c.toNat < 32 then ['\\', 'u', '0', '0', (c.toNat / 16).digitChar, (c.toNat % 16).digitChar]
    else [c]

/-- The characters of a string, up to and with the closing quote. -/
def printChars (cs : List Char) : List Char := cs.flatMap escapeChar ++ ['"']

/-- A string in quotes. -/
def printString (s : String) : List Char := '"' :: printChars s.toList

mutual

/-- The text of a value. -/
def Json.print : Json → List Char
  | .null => ['n', 'u', 'l', 'l']
  | .bool true => ['t', 'r', 'u', 'e']
  | .bool false => ['f', 'a', 'l', 's', 'e']
  | .num n => (signedText n).toList
  | .str s => printString s
  | .arr xs => '[' :: ([','].intercalate (printElements xs) ++ [']'])
  | .obj fields => '{' :: ([','].intercalate (printMembers fields) ++ ['}'])

/-- The texts of the elements of an array. -/
def printElements : List Json → List (List Char)
  | [] => []
  | x :: xs => x.print :: printElements xs

/-- The texts of the members of an object. -/
def printMembers : List (String × Json) → List (List Char)
  | [] => []
  | (name, x) :: fields => (printString name ++ ':' :: x.print) :: printMembers fields

end

/-- `serde_json::to_string` of a value. -/
def Json.write (j : Json) : String := String.ofList j.print

mutual

/-- How deep arrays and objects are nested. -/
def Json.depth : Json → Nat
  | .arr xs => depthElements xs + 1
  | .obj fields => depthMembers fields + 1
  | _ => 0

/-- The depth of the deepest element. -/
def depthElements : List Json → Nat
  | [] => 0
  | x :: xs => max x.depth (depthElements xs)

/-- The depth of the deepest member. -/
def depthMembers : List (String × Json) → Nat
  | [] => 0
  | (_, x) :: fields => max x.depth (depthMembers fields)

end

/-! ## Reading -/

/-- White space between tokens. -/
def isJsonSpace (c : Char) : Bool := c = ' ' || c = '\n' || c = '\t' || c = '\r'

/-- The text behind the white space. -/
def skipSpace (cs : List Char) : List Char := cs.dropWhile isJsonSpace

/-- The value of a hexadecimal digit. -/
def hexDigit? (c : Char) : Option Nat :=
  if c.isDigit then some (c.toNat - 48)
  else if 'a' ≤ c ∧ c ≤ 'f' then some (c.toNat - 87)
  else if 'A' ≤ c ∧ c ≤ 'F' then some (c.toNat - 55)
  else none

/-- Four hexadecimal digits. -/
def readHex : Reader Nat
  | a :: b :: c :: d :: cs => do
    let a ← hexDigit? a
    let b ← hexDigit? b
    let c ← hexDigit? c
    let d ← hexDigit? d
    return (((a * 16 + b) * 16 + c) * 16 + d, cs)
  | _ => none

/-- The code unit behind a leading surrogate: it must be a trailing one. -/
def readTrailing (leading : Nat) : Reader Char
  | '\\' :: 'u' :: cs => do
    let (trailing, cs) ← readHex cs
    if 0xDC00 ≤ trailing ∧ trailing < 0xE000 then
      return (Char.ofNat (0x10000 + (leading - 0xD800) * 0x400 + (trailing - 0xDC00)), cs)
    else none
  | _ => none

/-- What follows a backslash. -/
def readEscape : Reader Char
  | '"' :: cs => some ('"', cs)
  | '\\' :: cs => some ('\\', cs)
  | '/' :: cs => some ('/', cs)
  | 'b' :: cs => some ('\x08', cs)
  | 't' :: cs => some ('\t', cs)
  | 'n' :: cs => some ('\n', cs)
  | 'f' :: cs => some ('\x0c', cs)
  | 'r' :: cs => some ('\r', cs)
  | 'u' :: cs => do
    let (unit, cs) ← readHex cs
    if unit < 0xD800 ∨ 0xE000 ≤ unit then return (Char.ofNat unit, cs)
    else if unit < 0xDC00 then readTrailing unit cs
    else none
  | _ => none

/-- The characters of a string up to its closing quote, at most `n` with the quote. -/
def readChars : Nat → Reader (List Char)
  | 0, _ => none
  | _ + 1, [] => none
  | n + 1, c :: cs =>
    if c = '"' then some ([], cs)
    else if c = '\\' then do
      let (c, cs) ← readEscape cs
      let (rest, cs) ← readChars n cs
      return (c :: rest, cs)
    else if c.toNat < 32 then none
    else do
      let (rest, cs) ← readChars n cs
      return (c :: rest, cs)

/-- A string behind its opening quote. -/
def readString : Reader String := fun cs => do
  let (s, cs) ← readChars cs.length cs
  return (String.ofList s, cs)

/-- The text may follow a whole number. -/
def endsNumber : List Char → Bool
  | [] => true
  | c :: _ => !(c.isDigit || c = '.' || c = 'e' || c = 'E')

/-- An unsigned number without superfluous zeros ahead. -/
def readNat : Reader Nat := fun cs => do
  let n ← digits? (cs.takeWhile Char.isDigit)
  if (cs.takeWhile Char.isDigit).head? = some '0' ∧ cs.takeWhile Char.isDigit ≠ ['0'] then none
  else if endsNumber (cs.dropWhile Char.isDigit) then return (n, cs.dropWhile Char.isDigit)
  else none

/-- A number; minus zero is not a whole one. -/
def readNumber : Reader Int
  | '-' :: cs => do
    let (n, cs) ← readNat cs
    if n = 0 then none else return (-(n : Int), cs)
  | cs => do
    let (n, cs) ← readNat cs
    return ((n : Int), cs)

/-- The rest of a word. -/
def readWord (word : List Char) (j : Json) : Reader Json := fun cs =>
  if word.isPrefixOf cs then some (j, cs.drop word.length) else none

section

variable {α : Type} (item : Reader α) (close : Char)

/-- One or more items up to the closing character, at most `n` of them. -/
def readItems : Nat → Reader (List α)
  | 0, _ => none
  | n + 1, cs => do
    let (x, cs) ← item cs
    match skipSpace cs with
    | [] => none
    | c :: cs =>
      if c = ',' then do
        let (xs, cs) ← readItems n cs
        return (x :: xs, cs)
      else if c = close then return ([x], cs)
      else none

/-- The items behind an opening character, up to the closing one. -/
def readList : Reader (List α) := fun cs =>
  match skipSpace cs with
  | [] => none
  | c :: cs => if c = close then some ([], cs) else readItems item close (c :: cs).length (c :: cs)

end

/-- A member of an object. -/
def readMember (read : Reader Json) : Reader (String × Json) := fun cs =>
  match skipSpace cs with
  | '"' :: cs => do
    let (name, cs) ← readString cs
    match skipSpace cs with
    | ':' :: cs => do
      let (x, cs) ← read cs
      return ((name, x), cs)
    | _ => none
  | _ => none

/-- A value, with the reader for what is nested in it. -/
def readWith (nested : Option (Reader Json)) : Reader Json := fun cs =>
  match skipSpace cs with
  | 'n' :: cs => readWord ['u', 'l', 'l'] .null cs
  | 't' :: cs => readWord ['r', 'u', 'e'] (.bool true) cs
  | 'f' :: cs => readWord ['a', 'l', 's', 'e'] (.bool false) cs
  | '"' :: cs => do
    let (s, cs) ← readString cs
    return (.str s, cs)
  | '[' :: cs => do
    let (xs, cs) ← readList (← nested) ']' cs
    return (.arr xs, cs)
  | '{' :: cs => do
    let (fields, cs) ← readList (readMember (← nested)) '}' cs
    return (.obj fields, cs)
  | cs => do
    let (n, cs) ← readNumber cs
    return (.num n, cs)

/-- A value of at most this depth. -/
def readValue : Nat → Reader Json
  | 0 => readWith none
  | depth + 1 => readWith (some (readValue depth))

/-- The deepest nesting that is read. -/
def maxDepth : Nat := 127

/-- `serde_json::from_str`, up to a value: nothing but white space may follow it. -/
def Json.read (text : String) : Option Json :=
  match readValue maxDepth text.toList with
  | some (j, cs) => if skipSpace cs = [] then some j else none
  | none => none

/-! ## Strings -/

theorem hexDigit?_digitChar : ∀ d < 16, hexDigit? d.digitChar = some d := by decide

/-- A control character is written as its code unit. -/
theorem readEscape_control {c : Char} (h : c.toNat < 32) (cs : List Char) :
    readEscape ('u' :: '0' :: '0' :: (c.toNat / 16).digitChar :: (c.toNat % 16).digitChar :: cs) =
      some (c, cs) := by
  have hunit : readHex ('0' :: '0' :: (c.toNat / 16).digitChar :: (c.toNat % 16).digitChar :: cs) =
      some (c.toNat, cs) := by
    have hhigh := hexDigit?_digitChar (c.toNat / 16) (by omega)
    have hlow := hexDigit?_digitChar (c.toNat % 16) (by omega)
    have hzero : hexDigit? '0' = some 0 := rfl
    rw [readHex, hzero, hhigh, hlow]
    show some (((0 * 16 + 0) * 16 + c.toNat / 16) * 16 + c.toNat % 16, cs) = _
    congr 2
    omega
  rw [readEscape, hunit]
  show (if c.toNat < 0xD800 ∨ 0xE000 ≤ c.toNat then some (Char.ofNat c.toNat, cs) else _) = _
  rw [if_pos (.inl (by omega)), Char.ofNat_toNat]

/-- **One character** of a string is read back from its escaped form. -/
theorem readChars_escapeChar (n : Nat) (c : Char) (cs : List Char) :
    readChars (n + 1) (escapeChar c ++ cs) = (readChars n cs).map fun r => (c :: r.1, r.2) := by
  have hescaped (e : List Char) (he : readEscape (e ++ cs) = some (c, cs)) :
      readChars (n + 1) ('\\' :: e ++ cs) = (readChars n cs).map fun r => (c :: r.1, r.2) := by
    show ((readEscape (e ++ cs)).bind fun r => (readChars n r.2).bind fun r' => some (r.1 :: r'.1, r'.2)) = _
    rw [he, Option.bind_some]
    cases readChars n cs <;> rfl
  unfold escapeChar
  split
  · exact hescaped ['"'] rfl
  · exact hescaped ['\\'] rfl
  · exact hescaped ['b'] rfl
  · exact hescaped ['t'] rfl
  · exact hescaped ['n'] rfl
  · exact hescaped ['f'] rfl
  · exact hescaped ['r'] rfl
  · next hquote hbackslash _ _ _ _ _ =>
    split
    · next hcontrol => exact hescaped ['u', '0', '0', _, _] (readEscape_control hcontrol cs)
    · next hcontrol =>
      show readChars (n + 1) (c :: cs) = _
      rw [readChars, if_neg hquote, if_neg hbackslash, if_neg hcontrol]
      cases readChars n cs <;> rfl

theorem readChars_printChars {cs : List Char} {n : Nat} (h : cs.length < n) (rest : List Char) :
    readChars n (printChars cs ++ rest) = some (cs, rest) := by
  induction cs generalizing n with
  | nil =>
      obtain ⟨n, rfl⟩ : ∃ m, n = m + 1 := ⟨n - 1, by simp at h; omega⟩
      rfl
  | cons c cs ih =>
      obtain ⟨n, rfl⟩ : ∃ m, n = m + 1 := ⟨n - 1, by simp at h; omega⟩
      have hcons : printChars (c :: cs) ++ rest = escapeChar c ++ (printChars cs ++ rest) := by
        simp [printChars]
      rw [hcons, readChars_escapeChar, ih (by simpa using h)]
      rfl

theorem escapeChar_ne_nil (c : Char) : escapeChar c ≠ [] := by
  unfold escapeChar
  split <;> try exact List.cons_ne_nil _ _
  split <;> exact List.cons_ne_nil _ _

theorem length_lt_printChars (cs : List Char) : cs.length < (printChars cs).length := by
  induction cs with
  | nil => exact Nat.zero_lt_one
  | cons c cs ih =>
      have hpos := List.length_pos_iff.mpr (escapeChar_ne_nil c)
      simp only [printChars, List.flatMap_cons, List.length_append, List.length_cons] at ih ⊢
      omega

/-- **A string** is read back. -/
theorem readString_printChars (s : String) (rest : List Char) :
    readString (printChars s.toList ++ rest) = some (s, rest) := by
  have hlength : s.toList.length < (printChars s.toList ++ rest).length := by
    rw [List.length_append]
    exact Nat.lt_add_right _ (length_lt_printChars s.toList)
  unfold readString
  rw [readChars_printChars hlength rest]
  show some (String.ofList s.toList, rest) = _
  rw [String.ofList_toList]

/-! ## Numbers -/

/-- The first digit of a number is a zero only if the number is. -/
theorem toDigits_eq_cons (n : Nat) :
    ∃ d ds, Nat.toDigits 10 n = d :: ds ∧ d.isDigit = true ∧ (0 < n → d ≠ '0') := by
  induction n using Nat.strongRecOn with
  | ind n ih =>
      by_cases hsmall : n < 10
      · have hdigit : ∀ d < 10, d.digitChar.isDigit = true ∧ (0 < d → d.digitChar ≠ '0') := by decide
        exact ⟨n.digitChar, [], Nat.toDigits_of_lt_base hsmall, hdigit n hsmall⟩
      · obtain ⟨d, ds, htens, hdigit, hzero⟩ := ih (n / 10) (by omega)
        refine ⟨d, ds ++ [(n % 10).digitChar], ?_, hdigit, fun _ => hzero (by omega)⟩
        rw [Nat.toDigits_of_base_le (by decide) (by omega), htens]
        rfl

theorem takeWhile_digits {ds rest : List Char} (hds : ∀ d ∈ ds, d.isDigit = true)
    (hrest : endsNumber rest = true) :
    (ds ++ rest).takeWhile Char.isDigit = ds ∧ (ds ++ rest).dropWhile Char.isDigit = rest := by
  have hstop : rest.takeWhile Char.isDigit = [] ∧ rest.dropWhile Char.isDigit = rest := by
    cases rest with
    | nil => exact ⟨rfl, rfl⟩
    | cons c cs =>
        have hc : c.isDigit = false := by
          cases hdigit : c.isDigit with
          | false => rfl
          | true => simp [endsNumber, hdigit] at hrest
        constructor
        · exact List.takeWhile_cons_of_neg (by simp [hc])
        · exact List.dropWhile_cons_of_neg (by simp [hc])
  constructor
  · rw [List.takeWhile_append_of_pos hds, hstop.1, List.append_nil]
  · rw [List.dropWhile_append_of_pos hds, hstop.2]

theorem readNat_toDigits (n : Nat) {rest : List Char} (hrest : endsNumber rest = true) :
    readNat (Nat.toDigits 10 n ++ rest) = some (n, rest) := by
  have hdigits : ∀ d ∈ Nat.toDigits 10 n, d.isDigit = true := fun d hd =>
    Nat.isDigit_of_mem_toDigits (by decide) (by decide) hd
  obtain ⟨htake, hdrop⟩ := takeWhile_digits hdigits hrest
  have hzero : ¬ ((Nat.toDigits 10 n).head? = some '0' ∧ Nat.toDigits 10 n ≠ ['0']) := by
    rintro ⟨hhead, hne⟩
    rcases Nat.eq_zero_or_pos n with rfl | hpos
    · exact hne (Nat.toDigits_zero 10)
    · obtain ⟨d, ds, hcons, _, hd⟩ := toDigits_eq_cons n
      rw [hcons] at hhead
      exact hd hpos (Option.some.inj hhead)
  unfold readNat
  rw [htake, hdrop, digits?_toDigits]
  show (if _ then none else if _ then _ else none) = _
  rw [if_neg hzero, if_pos hrest]
  rfl

/-- **A number** is read back, if what follows does not continue it. -/
theorem readNumber_signedText (n : Int) {rest : List Char} (hrest : endsNumber rest = true) :
    readNumber ((signedText n).toList ++ rest) = some (n, rest) := by
  unfold signedText
  rw [String.toList_ofList]
  by_cases h : 0 ≤ n
  · rw [if_pos h]
    have hsign : ∀ cs, Nat.toDigits 10 n.natAbs ++ rest ≠ '-' :: cs := by
      intro cs hcs
      obtain ⟨d, ds, hcons, hdigit, _⟩ := toDigits_eq_cons n.natAbs
      rw [hcons] at hcs
      obtain rfl := (List.cons.inj hcs).1
      exact absurd hdigit (by decide)
    rw [readNumber, readNat_toDigits n.natAbs hrest]
    · exact congrArg (fun m => some (m, rest)) (Int.natAbs_of_nonneg h)
    · exact hsign
  · rw [if_neg h]
    show ((readNat (Nat.toDigits 10 n.natAbs ++ rest)).bind fun r =>
      if r.1 = 0 then none else some (-(r.1 : Int), r.2)) = _
    rw [readNat_toDigits n.natAbs hrest, Option.bind_some, if_neg (by simp; omega)]
    exact congrArg (fun m => some (m, rest)) (by omega)

/-! ## Lists -/

theorem skipSpace_cons {c : Char} (h : isJsonSpace c = false) (cs : List Char) : skipSpace (c :: cs) = c :: cs :=
  List.dropWhile_cons_of_neg (by simp [h])

/-- There are no more texts than characters and one more. -/
theorem length_le_intercalate (texts : List (List Char)) :
    texts.length ≤ ([','].intercalate texts).length + 1 := by
  induction texts with
  | nil => exact Nat.zero_le _
  | cons t texts ih =>
      cases texts with
      | nil => simp
      | cons t' texts =>
          rw [List.intercalate_cons_cons]
          simp only [List.length_cons, List.length_append] at ih ⊢
          omega

section

variable {α : Type} {item : Reader α} {text : α → List Char} {close : Char}

/-- **One or more items** between commas are read back, if each of them is. -/
theorem readItems_intercalate (hclose : isJsonSpace close = false ∧ close ≠ ',')
    (hends : ∀ cs, endsNumber (close :: cs) = true) (rest : List Char) {xs : List α} (hne : xs ≠ [])
    (hitem : ∀ x ∈ xs, ∀ cs, endsNumber cs = true → item (text x ++ cs) = some (x, cs)) {n : Nat}
    (hn : xs.length ≤ n) :
    readItems item close n ([','].intercalate (xs.map text) ++ close :: rest) = some (xs, rest) := by
  induction xs generalizing n with
  | nil => exact absurd rfl hne
  | cons x xs ih =>
      obtain ⟨n, rfl⟩ : ∃ m, n = m + 1 := ⟨n - 1, by simp at hn; omega⟩
      have hx := hitem x List.mem_cons_self
      cases xs with
      | nil =>
          rw [List.map_cons, List.map_nil, List.intercalate_singleton, readItems, hx _ (hends rest)]
          show (match skipSpace (close :: rest) with
            | [] => none
            | c :: cs => _) = _
          rw [skipSpace_cons hclose.1]
          show (if close = ',' then _ else _) = _
          rw [if_neg hclose.2, if_pos rfl]
          rfl
      | cons y ys =>
          have htail := ih (List.cons_ne_nil y ys) (fun z hz => hitem z (List.mem_cons_of_mem x hz))
            (by simpa using hn)
          rw [List.map_cons, List.map_cons, List.intercalate_cons_cons, List.append_assoc, List.append_assoc,
            readItems, hx _ rfl]
          rw [List.map_cons] at htail
          show ((readItems item close n ([','].intercalate (text y :: ys.map text) ++ close :: rest)).bind fun r =>
            some (x :: r.1, r.2)) = _
          rw [htail]
          rfl

/-- **Items**, none or more. -/
theorem readList_intercalate (hclose : isJsonSpace close = false ∧ close ≠ ',')
    (hends : ∀ cs, endsNumber (close :: cs) = true)
    (htext : ∀ x, ∃ c cs, text x = c :: cs ∧ isJsonSpace c = false ∧ c ≠ close) {xs : List α}
    (hitem : ∀ x ∈ xs, ∀ cs, endsNumber cs = true → item (text x ++ cs) = some (x, cs)) (rest : List Char) :
    readList item close ([','].intercalate (xs.map text) ++ close :: rest) = some (xs, rest) := by
  cases xs with
  | nil =>
      show (match skipSpace (close :: rest) with
        | [] => none
        | c :: cs => _) = _
      rw [skipSpace_cons hclose.1]
      show (if close = close then _ else _) = _
      rw [if_pos rfl]
  | cons x xs =>
      obtain ⟨c, cs, hx, hspace, hne⟩ := htext x
      have hlength : (x :: xs).length ≤ ([','].intercalate ((x :: xs).map text) ++ close :: rest).length := by
        have htexts := length_le_intercalate ((x :: xs).map text)
        rw [List.length_map] at htexts
        simp only [List.length_append, List.length_cons] at htexts ⊢
        omega
      have hitems := readItems_intercalate hclose hends rest (List.cons_ne_nil x xs) hitem hlength
      -- the first item starts with neither white space nor the closing character
      have hhead : ∃ cs', [','].intercalate ((x :: xs).map text) ++ close :: rest = c :: cs' := by
        cases xs with
        | nil =>
            rw [List.map_cons, List.map_nil, List.intercalate_singleton, hx]
            exact ⟨_, rfl⟩
        | cons y ys =>
            rw [List.map_cons, List.map_cons, List.intercalate_cons_cons, hx]
            exact ⟨_, rfl⟩
      obtain ⟨cs', hcs'⟩ := hhead
      rw [hcs'] at hitems ⊢
      unfold readList
      rw [skipSpace_cons hspace]
      show (if c = close then _ else _) = _
      rw [if_neg hne]
      exact hitems

end

/-! ## Values -/

theorem printElements_eq (xs : List Json) : printElements xs = xs.map Json.print := by
  induction xs with
  | nil => rfl
  | cons x xs ih => rw [printElements, ih, List.map_cons]

/-- The text of a member. -/
def printMember (field : String × Json) : List Char := printString field.1 ++ ':' :: field.2.print

theorem printMembers_eq (fields : List (String × Json)) : printMembers fields = fields.map printMember := by
  induction fields with
  | nil => rfl
  | cons field fields ih =>
      obtain ⟨name, x⟩ := field
      rw [printMembers, ih, List.map_cons, printMember]

theorem depth_le_depthElements {x : Json} {xs : List Json} (h : x ∈ xs) : x.depth ≤ depthElements xs := by
  induction xs with
  | nil => cases h
  | cons y xs ih =>
      rw [depthElements]
      rcases List.mem_cons.mp h with rfl | h
      · exact Nat.le_max_left _ _
      · exact Nat.le_trans (ih h) (Nat.le_max_right _ _)

theorem depth_le_depthMembers {field : String × Json} {fields : List (String × Json)} (h : field ∈ fields) :
    field.2.depth ≤ depthMembers fields := by
  induction fields with
  | nil => cases h
  | cons other fields ih =>
      obtain ⟨name, x⟩ := other
      rw [depthMembers]
      rcases List.mem_cons.mp h with rfl | h
      · exact Nat.le_max_left _ _
      · exact Nat.le_trans (ih h) (Nat.le_max_right _ _)

/-- The text of a number starts with a minus sign or a digit. -/
theorem signedText_eq_cons (n : Int) :
    ∃ c cs, (signedText n).toList = c :: cs ∧ (c = '-' ∨ c.isDigit = true) := by
  have hread := readNumber_signedText n (show endsNumber [] = true from rfl)
  cases h : (signedText n).toList with
  | nil =>
      rw [h] at hread
      cases hread
  | cons c cs => exact ⟨c, cs, rfl, isDigit_of_mem_signedText (h ▸ List.mem_cons_self)⟩

/-- A character that a number does not start with. -/
theorem ne_of_numeral {c d : Char} (hc : c = '-' ∨ c.isDigit = true) (hd : d ≠ '-' ∧ d.isDigit = false) :
    c ≠ d := by
  rintro rfl
  rcases hc with rfl | hc
  · exact hd.1 rfl
  · rw [hc] at hd
    cases hd.2

theorem isJsonSpace_of_numeral {c : Char} (hc : c = '-' ∨ c.isDigit = true) : isJsonSpace c = false := by
  simp [isJsonSpace, ne_of_numeral hc (show ' ' ≠ '-' ∧ ' '.isDigit = false by decide),
    ne_of_numeral hc (show '\n' ≠ '-' ∧ '\n'.isDigit = false by decide),
    ne_of_numeral hc (show '\t' ≠ '-' ∧ '\t'.isDigit = false by decide),
    ne_of_numeral hc (show '\r' ≠ '-' ∧ '\r'.isDigit = false by decide)]

/-- A value starts with neither white space nor a closing bracket. -/
theorem print_eq_cons (j : Json) : ∃ c cs, j.print = c :: cs ∧ isJsonSpace c = false ∧ c ≠ ']' := by
  cases j with
  | null => exact ⟨_, _, rfl, rfl, by decide⟩
  | bool b => cases b <;> exact ⟨_, _, rfl, rfl, by decide⟩
  | num n =>
      obtain ⟨c, cs, hcs, hc⟩ := signedText_eq_cons n
      exact ⟨c, cs, hcs, isJsonSpace_of_numeral hc, ne_of_numeral hc (by decide)⟩
  | str s => exact ⟨_, _, rfl, rfl, by decide⟩
  | arr xs => exact ⟨_, _, rfl, rfl, by decide⟩
  | obj fields => exact ⟨_, _, rfl, rfl, by decide⟩

/-- The reader reads this value back, whatever follows it. -/
def Reads (read : Reader Json) (j : Json) : Prop :=
  ∀ cs, endsNumber cs = true → read (j.print ++ cs) = some (j, cs)

theorem printMember_eq_cons (field : String × Json) :
    ∃ c cs, printMember field = c :: cs ∧ isJsonSpace c = false ∧ c ≠ '}' := ⟨_, _, rfl, rfl, by decide⟩

theorem readMember_printMember {read : Reader Json} {field : String × Json} (h : Reads read field.2)
    (cs : List Char) (hcs : endsNumber cs = true) : readMember read (printMember field ++ cs) = some (field, cs) := by
  obtain ⟨name, x⟩ := field
  have hname : printMember (name, x) ++ cs = '"' :: (printChars name.toList ++ ':' :: (x.print ++ cs)) := by
    simp [printMember, printString]
  rw [hname]
  unfold readMember
  rw [skipSpace_cons rfl]
  show ((readString (printChars name.toList ++ ':' :: (x.print ++ cs))).bind fun r => match skipSpace r.2 with
    | ':' :: cs => _
    | _ => none) = _
  rw [readString_printChars, Option.bind_some]
  show ((read (x.print ++ cs)).bind fun r => some ((name, r.1), r.2)) = _
  rw [h cs hcs]
  rfl

section

variable {nested : Option (Reader Json)} {read : Reader Json}

theorem readWith_num (n : Int) : Reads (readWith nested) (.num n) := by
  intro cs hcs
  obtain ⟨c, ds, hds, hc⟩ := signedText_eq_cons n
  have hnumber := readNumber_signedText n hcs
  show readWith nested ((signedText n).toList ++ cs) = _
  rw [hds, List.cons_append] at hnumber ⊢
  unfold readWith
  rw [skipSpace_cons (isJsonSpace_of_numeral hc)]
  -- the first character is none of those that other values start with
  split
  · next h => exact absurd (List.cons.inj h).1 (ne_of_numeral hc (by decide))
  · next h => exact absurd (List.cons.inj h).1 (ne_of_numeral hc (by decide))
  · next h => exact absurd (List.cons.inj h).1 (ne_of_numeral hc (by decide))
  · next h => exact absurd (List.cons.inj h).1 (ne_of_numeral hc (by decide))
  · next h => exact absurd (List.cons.inj h).1 (ne_of_numeral hc (by decide))
  · next h => exact absurd (List.cons.inj h).1 (ne_of_numeral hc (by decide))
  · rw [hnumber]
    rfl

theorem readWith_str (s : String) : Reads (readWith nested) (.str s) := by
  intro cs _
  show ((readString (printChars s.toList ++ cs)).bind fun r => some (Json.str r.1, r.2)) = _
  rw [readString_printChars]
  rfl

theorem readWith_arr {xs : List Json} (h : ∀ x ∈ xs, Reads read x) :
    Reads (readWith (some read)) (.arr xs) := by
  intro cs _
  have hlist := readList_intercalate (by decide : isJsonSpace ']' = false ∧ ']' ≠ ',') (fun _ => rfl)
    print_eq_cons h cs
  have hprint : (Json.arr xs).print ++ cs = '[' :: ([','].intercalate (xs.map Json.print) ++ ']' :: cs) := by
    simp [Json.print, printElements_eq]
  rw [hprint]
  show ((readList read ']' ([','].intercalate (xs.map Json.print) ++ ']' :: cs)).bind fun r =>
    some (Json.arr r.1, r.2)) = _
  rw [hlist]
  rfl

theorem readWith_obj {fields : List (String × Json)} (h : ∀ field ∈ fields, Reads read field.2) :
    Reads (readWith (some read)) (.obj fields) := by
  intro cs _
  have hlist := readList_intercalate (by decide : isJsonSpace '}' = false ∧ '}' ≠ ',') (fun _ => rfl)
    printMember_eq_cons (fun field hfield => readMember_printMember (h field hfield)) cs
  have hprint : (Json.obj fields).print ++ cs = '{' :: ([','].intercalate (fields.map printMember) ++ '}' :: cs) := by
    simp [Json.print, printMembers_eq]
  rw [hprint]
  show ((readList (readMember read) '}' ([','].intercalate (fields.map printMember) ++ '}' :: cs)).bind fun r =>
    some (Json.obj r.1, r.2)) = _
  rw [hlist]
  rfl

end

/-- **A value** that is not nested too deep is read back. -/
theorem readValue_reads {depth : Nat} {j : Json} (h : j.depth ≤ depth) : Reads (readValue depth) j := by
  -- by induction on the levels that are left
  induction depth generalizing j with
  | zero =>
      cases j with
      | null => exact fun cs _ => rfl
      | bool b => cases b <;> exact fun cs _ => rfl
      | num n => exact readWith_num n
      | str s => exact readWith_str s
      | arr xs => exact absurd h (by simp [Json.depth])
      | obj fields => exact absurd h (by simp [Json.depth])
  | succ depth ih =>
      cases j with
      | null => exact fun cs _ => rfl
      | bool b => cases b <;> exact fun cs _ => rfl
      | num n => exact readWith_num n
      | str s => exact readWith_str s
      | arr xs =>
          refine readWith_arr fun x hx => ih ?_
          rw [Json.depth] at h
          exact Nat.le_trans (depth_le_depthElements hx) (Nat.le_of_succ_le_succ h)
      | obj fields =>
          refine readWith_obj fun field hfield => ih ?_
          rw [Json.depth] at h
          exact Nat.le_trans (depth_le_depthMembers hfield) (Nat.le_of_succ_le_succ h)

/-- **Reading what was written** gives the value back, if it is not nested too deep. -/
theorem Json.read_write {j : Json} (h : j.depth ≤ maxDepth) : Json.read j.write = some j := by
  unfold Json.read Json.write
  have hread := readValue_reads h [] rfl
  rw [List.append_nil] at hread
  rw [String.toList_ofList, hread]
  rfl

/-! ## Derived encodings -/

section

variable {α : Type} [Serde α]

/-- `serde_json::to_string`. -/
def toJsonString (a : α) : String := (serialize a).write

/-- `serde_json::from_str`. -/
def fromJsonStr (α : Type) [Serde α] (text : String) : Option α := (Json.read text).bind deserialize

theorem fromJsonStr_toJsonString {a : α} (h : (serialize a).depth ≤ maxDepth) :
    fromJsonStr α (toJsonString a) = some a := by
  unfold fromJsonStr toJsonString
  rw [Json.read_write h, Option.bind_some, Serde.deserialize_serialize]

theorem depth_arr_le {n : Nat} {xs : List Json} (h : ∀ x ∈ xs, x.depth ≤ n) : (Json.arr xs).depth ≤ n + 1 := by
  rw [Json.depth]
  refine Nat.succ_le_succ ?_
  induction xs with
  | nil => exact Nat.zero_le n
  | cons x xs ih =>
      rw [depthElements]
      exact Nat.max_le.mpr ⟨h x List.mem_cons_self, ih fun y hy => h y (List.mem_cons_of_mem x hy)⟩

theorem depth_obj_le {n : Nat} {fields : List (String × Json)} (h : ∀ field ∈ fields, field.2.depth ≤ n) :
    (Json.obj fields).depth ≤ n + 1 := by
  rw [Json.depth]
  refine Nat.succ_le_succ ?_
  induction fields with
  | nil => exact Nat.zero_le n
  | cons field fields ih =>
      obtain ⟨name, x⟩ := field
      rw [depthMembers]
      exact Nat.max_le.mpr ⟨h (name, x) List.mem_cons_self, ih fun y hy => h y (List.mem_cons_of_mem _ hy)⟩

theorem depth_list_le {n : Nat} {as : List α} (h : ∀ a ∈ as, (serialize a).depth ≤ n) :
    (serialize as).depth ≤ n + 1 := by
  refine depth_arr_le fun x hx => ?_
  obtain ⟨a, ha, rfl⟩ := List.mem_map.mp hx
  exact h a ha

theorem depth_option_le {n : Nat} (h : ∀ a : α, (serialize a).depth ≤ n) (a : Option α) :
    (serializeOption a).depth ≤ n := by
  cases a with
  | none => exact Nat.zero_le n
  | some a => exact h a

end

end Logic
