import AutoSre.Lib.Python

/-! # JSON text

`json.dumps` with compact separators and `json.loads`, over strings of Unicode scalar
values.  Both keep to ASCII where Python does: everything outside the printable ASCII
characters is written as `\u` escapes, as surrogate pairs above the basic plane.

A number is the literal it is written as, so no float arithmetic is involved.  Limits
of the interpreter (its recursion depth, the digits of an integer) are left out.

The main result is the round trip, `loads_dumps`.
-/

namespace AutoSre.Lib

open Python

/-! ## Numbers -/

def isDigit (c : Char) : Bool := 48 ≤ c.toNat && c.toNat ≤ 57

def isLetter (c : Char) : Bool := (65 ≤ c.toNat && c.toNat ≤ 90) || (97 ≤ c.toNat && c.toNat ≤ 122)

/-- Where a reader of a number stands. -/
inductive NumberScan where
  | start
  | sign
  | zero
  | whole
  | point
  | fraction
  | mark
  | markSign
  | exponent
deriving DecidableEq

namespace NumberScan

def next (scan : NumberScan) (c : Char) : Option NumberScan :=
  match scan with
  | .start =>
    if c = '-' then some .sign
    else if c = '0' then some .zero
    else if isDigit c then some .whole
    else none
  | .sign => if c = '0' then some .zero else if isDigit c then some .whole else none
  | .zero => if c = '.' then some .point else if c = 'e' ∨ c = 'E' then some .mark else none
  | .whole =>
    if isDigit c then some .whole
    else if c = '.' then some .point
    else if c = 'e' ∨ c = 'E' then some .mark
    else none
  | .point => if isDigit c then some .fraction else none
  | .fraction => if isDigit c then some .fraction else if c = 'e' ∨ c = 'E' then some .mark else none
  | .mark => if c = '+' ∨ c = '-' then some .markSign else if isDigit c then some .exponent else none
  | .markSign => if isDigit c then some .exponent else none
  | .exponent => if isDigit c then some .exponent else none

def accepts : NumberScan → Bool
  | .zero | .whole | .fraction | .exponent => true
  | .start | .sign | .point | .mark | .markSign => false

end NumberScan

/-- The letters, digits and signs of which literals are made. -/
def isAtomChar (c : Char) : Bool := isDigit c || isLetter c || c = '+' || c = '-' || c = '.'

/-- A number as JSON has it, or one of the three constants that Python adds. -/
def isNumber (text : Str) : Bool :=
  text = "NaN".toList || text = "Infinity".toList || text = "-Infinity".toList ||
    (text.foldlM NumberScan.next .start).any NumberScan.accepts

theorem ne_of_test {α : Type*} {test : α → Bool} {a b : α} (passes : test a = true) (fails : test b = false) :
    a ≠ b := by
  rintro rfl
  rw [passes] at fails
  cases fails

theorem isAtomChar_of_next {scan after : NumberScan} {c : Char} (moved : scan.next c = some after) :
    isAtomChar c = true := by
  by_contra notAtom
  have notDigit : isDigit c = false := by
    by_contra digit
    simp [isAtomChar, digit] at notAtom
  have differ (d : Char) (isAtom : isAtomChar d = true) : c ≠ d := by
    rintro rfl
    exact notAtom isAtom
  cases scan <;>
    simp [NumberScan.next, notDigit, differ '-' rfl, differ '+' rfl, differ '.' rfl, differ '0' rfl,
      differ 'e' rfl, differ 'E' rfl] at moved

theorem isAtomChar_of_foldlM {text : Str} {scan after : NumberScan}
    (read : text.foldlM NumberScan.next scan = some after) : ∀ c ∈ text, isAtomChar c = true := by
  induction text generalizing scan with
  | nil => simp
  | cons c text ih =>
    obtain ⟨between, moved, rest⟩ := Option.bind_eq_some_iff.mp read
    exact List.forall_mem_cons.mpr ⟨isAtomChar_of_next moved, ih rest⟩

theorem isAtomChar_of_isNumber {text : Str} (number : isNumber text = true) :
    ∀ c ∈ text, isAtomChar c = true := by
  simp only [isNumber, Bool.or_eq_true, decide_eq_true_eq, Option.any_eq_true] at number
  obtain ((rfl | rfl) | rfl) | ⟨after, read, _⟩ := number
  · exact List.all_eq_true.mp (by decide)
  · exact List.all_eq_true.mp (by decide)
  · exact List.all_eq_true.mp (by decide)
  · exact isAtomChar_of_foldlM read

/-- The literal of a number, as `repr` writes it. -/
structure Literal where
  text : Str
  isNumber : isNumber text = true
deriving DecidableEq

/-! ## Values -/

/-- What `json.loads` returns and `json.dumps` takes.  An object is the list of its
    members in order; where a name occurs twice the last one counts, as in the `dict`
    Python builds.  `foreign` is a Python object that is no JSON value. -/
inductive Json where
  | null
  | bool (value : Bool)
  | number (literal : Literal)
  | str (text : Str)
  | arr (items : List Json)
  | obj (members : List (Str × Json))
  | foreign

namespace Json

def get (members : List (Str × Json)) (name : Str) : Option Json := members.reverse.lookup name

def isStr (text : Str) : Json → Bool
  | .str other => other = text
  | .null | .bool _ | .number _ | .arr _ | .obj _ | .foreign => false

/-! ## Strings -/

/-- A code point as UTF-16 code units. -/
def units (c : Char) : List ℕ :=
  if c.toNat < 0x10000 then [c.toNat]
  else [0xD800 + (c.toNat - 0x10000) / 0x400, 0xDC00 + (c.toNat - 0x10000) % 0x400]

def hexDigit (n : ℕ) : Char := if n < 10 then Char.ofNat (48 + n) else Char.ofNat (87 + n)

def hexValue (c : Char) : Option ℕ :=
  let n := c.toNat
  if 48 ≤ n ∧ n ≤ 57 then some (n - 48)
  else if 97 ≤ n ∧ n ≤ 102 then some (n - 87)
  else if 65 ≤ n ∧ n ≤ 70 then some (n - 55)
  else none

/-- `\uXXXX` -/
def unicodeEscape (unit : ℕ) : Str :=
  ['\\', 'u', hexDigit (unit / 0x1000), hexDigit (unit / 0x100 % 16), hexDigit (unit / 0x10 % 16),
    hexDigit (unit % 16)]

/-- The letter after the backslash, for the characters that have a short escape. -/
def shortEscape (c : Char) : Option Char :=
  if c = '"' ∨ c = '\\' then some c
  else if c = '\n' then some 'n'
  else if c = '\r' then some 'r'
  else if c = '\t' then some 't'
  else if c = '\x08' then some 'b'
  else if c = '\x0c' then some 'f'
  else none

def escape (c : Char) : Str :=
  match shortEscape c with
  | some letter => ['\\', letter]
  | none => if 0x20 ≤ c.toNat ∧ c.toNat ≤ 0x7E then [c] else (units c).flatMap unicodeEscape

def unescape (letter : Char) : Option ℕ :=
  if letter = '"' ∨ letter = '\\' ∨ letter = '/' then some letter.toNat
  else if letter = 'n' then some 10
  else if letter = 'r' then some 13
  else if letter = 't' then some 9
  else if letter = 'b' then some 8
  else if letter = 'f' then some 12
  else none

/-- The code units of a string up to its closing quote, and the text after it. -/
def scanUnits : Str → Option (List ℕ × Str)
  | [] => none
  | c :: rest =>
    if c = '"' then some ([], rest)
    else if c = '\\' then
      match rest with
      | 'u' :: c₀ :: c₁ :: c₂ :: c₃ :: rest =>
        match hexValue c₀, hexValue c₁, hexValue c₂, hexValue c₃ with
        | some n₀, some n₁, some n₂, some n₃ =>
          (scanUnits rest).map fun (found, rest) =>
            ((n₀ * 0x1000 + n₁ * 0x100 + n₂ * 0x10 + n₃) :: found, rest)
        | _, _, _, _ => none
      | letter :: rest =>
        match unescape letter with
        | some unit => (scanUnits rest).map fun (found, rest) => (unit :: found, rest)
        | none => none
      | [] => none
    -- control characters have to be escaped
    else if c.toNat < 0x20 then none
    else (scanUnits rest).map fun (found, rest) => (units c ++ found, rest)

/-- A unit on its own.  Python keeps half a surrogate pair, which is no scalar value. -/
def loneUnit (unit : ℕ) : Char := if unit.isValidChar then Char.ofNat unit else Char.ofNat 0xFFFD

def chars : List ℕ → Str
  | [] => []
  | [unit] => [loneUnit unit]
  | unit :: next :: rest =>
    if (0xD800 ≤ unit ∧ unit < 0xDC00) ∧ 0xDC00 ≤ next ∧ next < 0xE000 then
      Char.ofNat (0x10000 + (unit - 0xD800) * 0x400 + (next - 0xDC00)) :: chars rest
    else loneUnit unit :: chars (next :: rest)

def scanString (text : Str) : Option (Str × Str) :=
  (scanUnits text).map fun (found, rest) => (chars found, rest)

def quoted (text : Str) : Str := '"' :: (text.flatMap escape ++ ['"'])

theorem scanUnits_quote (rest : Str) : scanUnits ('"' :: rest) = some ([], rest) := by
  rw [scanUnits.eq_def]
  rfl

theorem scanUnits_plain {c : Char} (notQuote : c ≠ '"') (notBackslash : c ≠ '\\')
    (printable : 0x20 ≤ c.toNat) (rest : Str) :
    scanUnits (c :: rest) = (scanUnits rest).map fun (found, rest) => (units c ++ found, rest) := by
  rw [scanUnits.eq_def]
  simp [notQuote, notBackslash, not_lt.mpr printable]

theorem hexValue_hexDigit : ∀ n < 16, hexValue (hexDigit n) = some n := by decide

theorem scanUnits_unicodeEscape {unit : ℕ} (small : unit < 0x10000) (rest : Str) :
    scanUnits (unicodeEscape unit ++ rest) =
      (scanUnits rest).map fun (found, rest) => (unit :: found, rest) := by
  have whole : unit / 0x1000 * 0x1000 + unit / 0x100 % 16 * 0x100 + unit / 0x10 % 16 * 0x10 + unit % 16 =
      unit := by omega
  have first := hexValue_hexDigit (unit / 0x1000) (by omega)
  have second := hexValue_hexDigit (unit / 0x100 % 16) (by omega)
  have third := hexValue_hexDigit (unit / 0x10 % 16) (by omega)
  have fourth := hexValue_hexDigit (unit % 16) (by omega)
  simp [unicodeEscape, scanUnits, first, second, third, fourth, whole]

theorem units_lt {c : Char} : ∀ unit ∈ units c, unit < 0x10000 := by
  have valid : c.toNat < 0x110000 := by
    have bounds := c.valid
    simp only [Char.toNat]
    simp only [UInt32.isValidChar, Nat.isValidChar] at bounds
    omega
  simp only [units]
  split
  next small => simpa using small
  next astral =>
    simp only [List.mem_cons, List.not_mem_nil, or_false, forall_eq_or_imp, forall_eq]
    omega

theorem scanUnits_flatMap (found : List ℕ) (small : ∀ unit ∈ found, unit < 0x10000) (rest : Str) :
    scanUnits (found.flatMap unicodeEscape ++ rest) =
      (scanUnits rest).map fun (more, rest) => (found ++ more, rest) := by
  induction found with
  | nil => simp
  | cons unit found ih =>
    rw [List.forall_mem_cons] at small
    rw [List.flatMap_cons, List.append_assoc, scanUnits_unicodeEscape small.1, ih small.2]
    cases scanUnits rest <;> rfl

theorem unescape_of_shortEscape {c letter : Char} (short : shortEscape c = some letter) :
    unescape letter = some c.toNat ∧ letter ≠ 'u' ∧ units c = [c.toNat] := by
  simp only [shortEscape] at short
  split at short
  next isSelf =>
    cases short
    cases isSelf with
    | inl same => subst same; decide
    | inr same => subst same; decide
  next =>
    repeat' split at short
    all_goals cases short
    all_goals rename_i same
    all_goals subst same
    all_goals decide

theorem scanUnits_escape (c : Char) (rest : Str) :
    scanUnits (escape c ++ rest) =
      (scanUnits rest).map fun (found, rest) => (units c ++ found, rest) := by
  simp only [escape]
  cases short : shortEscape c with
  | some letter =>
    obtain ⟨back, notUnicode, single⟩ := unescape_of_shortEscape short
    simp [scanUnits, back, notUnicode, single]
  | none =>
    have notSpecial : c ≠ '"' ∧ c ≠ '\\' := by
      constructor <;> (rintro rfl; simp [shortEscape] at short)
    by_cases printable : 0x20 ≤ c.toNat ∧ c.toNat ≤ 0x7E
    · simp only [printable, and_self, if_true, List.cons_append, List.nil_append]
      exact scanUnits_plain notSpecial.1 notSpecial.2 printable.1 rest
    · simp only [printable, if_false]
      exact scanUnits_flatMap (units c) units_lt rest

theorem scanUnits_quoted (text rest : Str) :
    scanUnits (text.flatMap escape ++ '"' :: rest) = some (text.flatMap units, rest) := by
  induction text with
  | nil => exact scanUnits_quote rest
  | cons c text ih => simp [scanUnits_escape, ih]

theorem loneUnit_toNat (c : Char) : loneUnit c.toNat = c := by
  have valid : c.toNat.isValidChar := c.valid
  simp [loneUnit, valid]

theorem chars_units (c : Char) (found : List ℕ) : chars (units c ++ found) = c :: chars found := by
  have valid : c.toNat < 0xD800 ∨ 0xDFFF < c.toNat ∧ c.toNat < 0x110000 := c.valid
  simp only [units]
  split
  next small =>
    -- a scalar value of the basic plane is no surrogate, so it does not pair with what follows
    have notHigh : ¬(0xD800 ≤ c.toNat ∧ c.toNat < 0xDC00) := by omega
    cases found with
    | nil => simp [chars, loneUnit_toNat]
    | cons next found => simp [chars, notHigh, loneUnit_toNat]
  next astral =>
    have high : 0xD800 ≤ 0xD800 + (c.toNat - 0x10000) / 0x400 ∧
        0xD800 + (c.toNat - 0x10000) / 0x400 < 0xDC00 := by omega
    have low : 0xDC00 ≤ 0xDC00 + (c.toNat - 0x10000) % 0x400 ∧
        0xDC00 + (c.toNat - 0x10000) % 0x400 < 0xE000 := by omega
    have whole : 0x10000 + (0xD800 + (c.toNat - 0x10000) / 0x400 - 0xD800) * 0x400 +
        (0xDC00 + (c.toNat - 0x10000) % 0x400 - 0xDC00) = c.toNat := by omega
    simp only [List.cons_append, List.nil_append, chars, high, low, and_self, if_true, whole, Char.ofNat_toNat]

theorem chars_flatMap_units (text : Str) : chars (text.flatMap units) = text := by
  induction text with
  | nil => rfl
  | cons c text ih => rw [List.flatMap_cons, chars_units, ih]

theorem scanString_quoted (text rest : Str) :
    scanString (text.flatMap escape ++ '"' :: rest) = some (text, rest) := by
  simp [scanString, scanUnits_quoted, chars_flatMap_units]

/-! ## Sequences

An array and an object are both a bracketed sequence of items between commas, so both
are read by `sequence` and written by `separated`. -/

def isSpace (c : Char) : Bool := c = ' ' || c = '\t' || c = '\n' || c = '\r'

def skipSpace (text : Str) : Str := text.dropWhile isSpace

section

variable {α : Type}

/-- The items after the first: a comma before each, and the closing bracket. -/
def moreItems (item : Str → Option (α × Str)) (close : Char) : ℕ → Str → Option (List α × Str)
  | 0, _ => none
  | fuel + 1, text =>
    match skipSpace text with
    | [] => none
    | c :: rest =>
      if c = close then some ([], rest)
      else if c = ',' then
        match item (skipSpace rest) with
        | none => none
        | some (next, rest) =>
          (moreItems item close fuel rest).map fun (items, rest) => (next :: items, rest)
      else none

def sequence (item : Str → Option (α × Str)) (close : Char) (fuel : ℕ) (text : Str) : Option (List α × Str) :=
  match skipSpace text with
  | [] => none
  | c :: rest =>
    if c = close then some ([], rest)
    else
      match item (c :: rest) with
      | none => none
      | some (first, rest) =>
        (moreItems item close fuel rest).map fun (items, rest) => (first :: items, rest)

end

def separatedMore (close : Char) : List Str → Str
  | [] => [close]
  | item :: items => ',' :: (item ++ separatedMore close items)

def separated (close : Char) : List Str → Str
  | [] => [close]
  | item :: items => item ++ separatedMore close items

/-! ## Reading and writing -/

/-- `null`, `true`, `false` or a number: the longest run of characters that could
    belong to one of them. -/
def scanAtom (text : Str) : Option (Json × Str) :=
  let token := text.takeWhile isAtomChar
  let rest := text.dropWhile isAtomChar
  if token = "null".toList then some (.null, rest)
  else if token = "true".toList then some (.bool true, rest)
  else if token = "false".toList then some (.bool false, rest)
  else if number : isNumber token = true then some (.number ⟨token, number⟩, rest)
  else none

def scanMember (value : Str → Option (Json × Str)) (text : Str) : Option ((Str × Json) × Str) :=
  match text with
  | [] => none
  | c :: rest =>
    if c = '"' then
      match scanString rest with
      | none => none
      | some (name, rest) =>
        match skipSpace rest with
        | [] => none
        | c :: rest =>
          if c = ':' then (value (skipSpace rest)).map fun (value, rest) => ((name, value), rest)
          else none
    else none

/-- The value at the beginning of a text.  Every bracket costs one unit of fuel, as do
    the items between two brackets, so the length of the text is always enough. -/
def scanValue : ℕ → Str → Option (Json × Str)
  | 0, _ => none
  | _ + 1, [] => none
  | fuel + 1, c :: rest =>
    if c = '"' then (scanString rest).map fun (text, rest) => (.str text, rest)
    else if c = '[' then
      (sequence (scanValue fuel) ']' fuel rest).map fun (items, rest) => (.arr items, rest)
    else if c = '{' then
      (sequence (scanMember (scanValue fuel)) '}' fuel rest).map fun (members, rest) => (.obj members, rest)
    else scanAtom (c :: rest)

/-- `json.loads`; `none` is a `JSONDecodeError`. -/
def loads (text : Str) : Option Json :=
  match scanValue text.length (skipSpace text) with
  | none => none
  | some (value, rest) => if skipSpace rest = [] then some value else none

mutual

def print : Json → Str
  | .null => "null".toList
  | .bool true => "true".toList
  | .bool false => "false".toList
  | .number literal => literal.text
  | .str text => quoted text
  | .arr items => '[' :: separated ']' (printItems items)
  | .obj members => '{' :: separated '}' (printMembers members)
  | .foreign => []

def printItems : List Json → List Str
  | [] => []
  | item :: items => print item :: printItems items

def printMembers : List (Str × Json) → List Str
  | [] => []
  | (name, value) :: members => (quoted name ++ ':' :: print value) :: printMembers members

end

mutual

/-- No `foreign` object anywhere in it. -/
def serialisable : Json → Bool
  | .null | .bool _ | .number _ | .str _ => true
  | .arr items => serialisableItems items
  | .obj members => serialisableMembers members
  | .foreign => false

def serialisableItems : List Json → Bool
  | [] => true
  | item :: items => serialisable item && serialisableItems items

def serialisableMembers : List (Str × Json) → Bool
  | [] => true
  | (_, value) :: members => serialisable value && serialisableMembers members

end

/-- `json.dumps` with `separators=(",", ":")`; `none` is the `TypeError` on an object
    that is not serialisable. -/
def dumps (value : Json) : Option Str := if serialisable value then some (print value) else none

/-! ## The round trip -/

/-- What follows cannot be taken for the rest of a literal. -/
def Delimited (rest : Str) : Prop := ∀ c ∈ rest.head?, isAtomChar c = false

/-- A text from which `item` reads `value`, whatever delimited text follows. -/
def ReadsBack {α : Type} (item : Str → Option (α × Str)) (text : Str) (value : α) : Prop :=
  ∀ rest, Delimited rest → item (text ++ rest) = some (value, rest)

/-- The text begins with a character that is neither blank nor a closing bracket. -/
def Opens (text : Str) : Prop :=
  ∃ c tail, text = c :: tail ∧ isSpace c = false ∧ c ≠ ']' ∧ c ≠ '}'

theorem skipSpace_cons {c : Char} (notSpace : isSpace c = false) (rest : Str) :
    skipSpace (c :: rest) = c :: rest := by
  simp [skipSpace, notSpace]

theorem Opens.skipSpace {text : Str} (opens : Opens text) (rest : Str) :
    Json.skipSpace (text ++ rest) = text ++ rest := by
  obtain ⟨c, tail, rfl, notSpace, _⟩ := opens
  exact skipSpace_cons notSpace (tail ++ rest)

def IsClose (close : Char) : Prop := close = ']' ∨ close = '}'

theorem IsClose.notSpace {close : Char} (isClose : IsClose close) : isSpace close = false := by
  obtain rfl | rfl := isClose <;> decide

theorem IsClose.notAtom {close : Char} (isClose : IsClose close) : isAtomChar close = false := by
  obtain rfl | rfl := isClose <;> decide

theorem IsClose.ne_comma {close : Char} (isClose : IsClose close) : ',' ≠ close := by
  obtain rfl | rfl := isClose <;> decide

theorem Opens.ne_close {c : Char} {tail : Str} (opens : Opens (c :: tail)) {close : Char}
    (isClose : IsClose close) : c ≠ close := by
  obtain ⟨_, _, same, _, notBracket, notBrace⟩ := opens
  cases same
  obtain rfl | rfl := isClose
  · exact notBracket
  · exact notBrace

theorem delimited_separatedMore {close : Char} (isClose : IsClose close) (texts : List Str) (rest : Str) :
    Delimited (separatedMore close texts ++ rest) := by
  cases texts with
  | nil => simpa [Delimited, separatedMore] using isClose.notAtom
  | cons text texts =>
    have comma : isAtomChar ',' = false := by decide
    simpa [Delimited, separatedMore] using comma

section

variable {α : Type} {item : Str → Option (α × Str)} {close : Char} {values : List α} {texts : List Str}

theorem moreItems_separatedMore (isClose : IsClose close)
    (reads : List.Forall₂ (fun value text => ReadsBack item text value ∧ Opens text) values texts)
    {fuel : ℕ} (enough : texts.length < fuel) (rest : Str) :
    moreItems item close fuel (separatedMore close texts ++ rest) = some (values, rest) := by
  induction reads generalizing fuel with
  | nil =>
    obtain ⟨fuel, rfl⟩ := Nat.exists_eq_succ_of_ne_zero (Nat.ne_of_gt enough)
    simp [moreItems, separatedMore, skipSpace_cons isClose.notSpace]
  | @cons value text values texts first _ ih =>
    obtain ⟨fuel, rfl⟩ := Nat.exists_eq_succ_of_ne_zero (Nat.ne_of_gt (Nat.zero_lt_of_lt enough))
    have comma : isSpace ',' = false := by decide
    have read := first.1 (separatedMore close texts ++ rest) (delimited_separatedMore isClose texts rest)
    have later := ih (Nat.lt_of_succ_lt_succ enough)
    simp only [moreItems, separatedMore, List.cons_append, List.append_assoc, skipSpace_cons comma,
      isClose.ne_comma, if_false, if_true, first.2.skipSpace, read, later, Option.map_some]

theorem sequence_separated (isClose : IsClose close)
    (reads : List.Forall₂ (fun value text => ReadsBack item text value ∧ Opens text) values texts)
    {fuel : ℕ} (enough : texts.length ≤ fuel) (rest : Str) :
    sequence item close fuel (separated close texts ++ rest) = some (values, rest) := by
  cases reads with
  | nil => simp [sequence, separated, skipSpace_cons isClose.notSpace]
  | @cons value text values texts first others =>
    obtain ⟨readsFirst, opens⟩ := first
    have read := readsFirst (separatedMore close texts ++ rest) (delimited_separatedMore isClose texts rest)
    have later := moreItems_separatedMore isClose others enough rest
    have stays := opens.skipSpace (separatedMore close texts ++ rest)
    cases text with
    | nil =>
      obtain ⟨_, _, impossible, _⟩ := opens
      cases impossible
    | cons c tail =>
      simp only [List.cons_append] at stays read
      simp only [sequence, separated, List.cons_append, List.append_assoc, stays, opens.ne_close isClose,
        if_false, read, later, Option.map_some]

theorem length_le_separatedMore (close : Char) (texts : List Str) :
    texts.length < (separatedMore close texts).length := by
  induction texts with
  | nil => simp [separatedMore]
  | cons text texts ih =>
    simp only [separatedMore, List.length_cons, List.length_append] at ih ⊢
    omega

theorem length_le_separated (close : Char) (texts : List Str) : texts.length ≤ (separated close texts).length := by
  cases texts with
  | nil => simp
  | cons text texts =>
    have bound := length_le_separatedMore close texts
    simp only [separated, List.length_cons, List.length_append]
    omega

theorem mem_length_separatedMore (close : Char) {text : Str} (member : text ∈ texts) :
    text.length ≤ (separatedMore close texts).length := by
  induction texts with
  | nil => cases member
  | cons head texts ih =>
    simp only [separatedMore, List.length_cons, List.length_append]
    cases member with
    | head => omega
    | tail _ member =>
      have bound := ih member
      omega

theorem mem_length_separated (close : Char) {text : Str} (member : text ∈ texts) :
    text.length ≤ (separated close texts).length := by
  cases member with
  | head => simp [separated]
  | tail _ member =>
    have bound := mem_length_separatedMore close member
    simp only [separated, List.length_append]
    omega

end

theorem takeWhile_atom {token rest : Str} (atoms : ∀ c ∈ token, isAtomChar c = true) (delimited : Delimited rest) :
    (token ++ rest).takeWhile isAtomChar = token ∧ (token ++ rest).dropWhile isAtomChar = rest := by
  induction token with
  | nil =>
    cases rest with
    | nil => simp
    | cons c rest =>
      have notAtom : isAtomChar c = false := delimited c rfl
      simp [notAtom]
  | cons c token ih =>
    rw [List.forall_mem_cons] at atoms
    obtain ⟨took, dropped⟩ := ih atoms.2
    simp [atoms.1, took, dropped]

theorem scanValue_atom {token : Str} {value : Json} (nonempty : token ≠ [])
    (atoms : ∀ c ∈ token, isAtomChar c = true) (reads : ReadsBack scanAtom token value) {fuel : ℕ}
    (enough : token.length ≤ fuel) : ReadsBack (scanValue fuel) token value := by
  cases token with
  | nil => exact absurd rfl nonempty
  | cons c token =>
    obtain ⟨fuel, rfl⟩ := Nat.exists_eq_succ_of_ne_zero (Nat.ne_of_gt (Nat.lt_of_lt_of_le (Nat.succ_pos _) enough))
    intro rest delimited
    have differ (d : Char) : isAtomChar d = false → c ≠ d := ne_of_test (atoms c List.mem_cons_self)
    simp only [List.cons_append, scanValue, differ '"' (by decide), differ '[' (by decide),
      differ '{' (by decide), if_false]
    exact reads rest delimited

theorem scanAtom_number (literal : Literal) : ReadsBack scanAtom literal.text (.number literal) := by
  intro rest delimited
  obtain ⟨took, dropped⟩ := takeWhile_atom (isAtomChar_of_isNumber literal.isNumber) delimited
  have differ (word : Str) : Lib.isNumber word = false → literal.text ≠ word := ne_of_test literal.isNumber
  simp only [scanAtom, took, dropped, differ _ (by decide : Lib.isNumber "null".toList = false),
    differ _ (by decide : Lib.isNumber "true".toList = false),
    differ _ (by decide : Lib.isNumber "false".toList = false), if_false, literal.isNumber, dite_true]

theorem scanAtom_word {token : Str} {value : Json} (atoms : ∀ c ∈ token, isAtomChar c = true)
    (reads : scanAtom token = some (value, [])) : ReadsBack scanAtom token value := by
  intro rest delimited
  obtain ⟨took, dropped⟩ := takeWhile_atom atoms delimited
  have alone := takeWhile_atom atoms (show Delimited [] by simp [Delimited])
  rw [List.append_nil] at alone
  simp only [scanAtom, alone.1, alone.2] at reads
  simp only [scanAtom, took, dropped]
  split_ifs at reads ⊢ <;> simp_all

theorem scanValue_word {token : Str} {value : Json} (nonempty : token ≠ [])
    (atoms : token.all isAtomChar = true) (reads : scanAtom token = some (value, [])) {fuel : ℕ}
    (enough : token.length ≤ fuel) : ReadsBack (scanValue fuel) token value := by
  have atoms := List.all_eq_true.mp atoms
  exact scanValue_atom nonempty atoms (scanAtom_word atoms reads) enough

theorem Opens.of_atom {c : Char} {tail : Str} (isAtom : isAtomChar c = true) : Opens (c :: tail) := by
  have differ (d : Char) : isAtomChar d = false → c ≠ d := ne_of_test isAtom
  refine ⟨c, tail, rfl, ?_, differ ']' (by decide), differ '}' (by decide)⟩
  simp [isSpace, differ ' ' (by decide), differ '\t' (by decide), differ '\n' (by decide), differ '\r' (by decide)]

theorem literal_ne_nil (literal : Literal) : literal.text ≠ [] := by
  intro empty
  have number := literal.isNumber
  rw [empty] at number
  exact absurd number (by decide)

theorem opens_quoted (text rest : Str) : Opens (quoted text ++ rest) :=
  ⟨'"', _, rfl, by decide, by decide, by decide⟩

theorem opens_print {value : Json} (isJson : serialisable value = true) : Opens (print value) := by
  cases value with
  | null => exact .of_atom (by decide)
  | bool value => cases value <;> exact .of_atom (by decide)
  | number literal =>
    have nonempty := literal_ne_nil literal
    have atoms := isAtomChar_of_isNumber literal.isNumber
    simp only [print]
    cases text : literal.text with
    | nil => exact absurd text nonempty
    | cons c tail => exact .of_atom (atoms c (by simp [text]))
  | str text => exact ⟨'"', _, rfl, by decide, by decide, by decide⟩
  | arr items => exact ⟨'[', _, rfl, by decide, by decide, by decide⟩
  | obj members => exact ⟨'{', _, rfl, by decide, by decide, by decide⟩
  | foreign => cases isJson

theorem scanValue_bracket (fuel : ℕ) (rest : Str) :
    scanValue (fuel + 1) ('[' :: rest) =
      (sequence (scanValue fuel) ']' fuel rest).map fun (items, rest) => (.arr items, rest) := by
  simp [scanValue]

theorem scanValue_brace (fuel : ℕ) (rest : Str) :
    scanValue (fuel + 1) ('{' :: rest) =
      (sequence (scanMember (scanValue fuel)) '}' fuel rest).map fun (members, rest) =>
        (.obj members, rest) := by
  simp [scanValue]

theorem scanMember_print {name : Str} {value : Json} {scan : Str → Option (Json × Str)}
    (reads : ReadsBack scan (print value) value) (opens : Opens (print value)) :
    ReadsBack (scanMember scan) (quoted name ++ ':' :: print value) (name, value) := by
  intro rest delimited
  have colon : isSpace ':' = false := by decide
  have named := scanString_quoted name (':' :: (print value ++ rest))
  simp only [quoted, List.cons_append, List.append_assoc, List.nil_append, scanMember, if_true, named,
    skipSpace_cons colon, opens.skipSpace, reads rest delimited, Option.map_some]

mutual

theorem scanValue_print (value : Json) (isJson : serialisable value = true) (fuel : ℕ)
    (enough : (print value).length ≤ fuel) : ReadsBack (scanValue fuel) (print value) value := by
  cases value with
  | null => exact scanValue_word (by decide) (by decide) rfl enough
  | bool value =>
    cases value with
    | true => exact scanValue_word (by decide) (by decide) rfl enough
    | false => exact scanValue_word (by decide) (by decide) rfl enough
  | number literal =>
    exact scanValue_atom (literal_ne_nil literal) (isAtomChar_of_isNumber literal.isNumber)
      (scanAtom_number literal) enough
  | str text =>
    simp only [print, quoted, List.length_cons] at enough
    obtain ⟨fuel, rfl⟩ := Nat.exists_eq_add_one_of_ne_zero (show fuel ≠ 0 by omega)
    intro rest _
    have read := scanString_quoted text rest
    simp only [print, quoted, List.cons_append, List.append_assoc, List.nil_append, scanValue, if_true, read,
      Option.map_some]
  | arr items =>
    simp only [print, List.length_cons] at enough
    obtain ⟨fuel, rfl⟩ := Nat.exists_eq_add_one_of_ne_zero (show fuel ≠ 0 by omega)
    have reads := scanValue_printItems items isJson fuel fun text member =>
      (mem_length_separated ']' member).trans (by omega)
    have count : (printItems items).length ≤ fuel :=
      (length_le_separated ']' (printItems items)).trans (by omega)
    intro rest _
    rw [print, List.cons_append, scanValue_bracket, sequence_separated (.inl rfl) reads count rest]
    rfl
  | obj members =>
    simp only [print, List.length_cons] at enough
    obtain ⟨fuel, rfl⟩ := Nat.exists_eq_add_one_of_ne_zero (show fuel ≠ 0 by omega)
    have reads := scanMember_printMembers members isJson fuel fun text member =>
      (mem_length_separated '}' member).trans (by omega)
    have count : (printMembers members).length ≤ fuel :=
      (length_le_separated '}' (printMembers members)).trans (by omega)
    intro rest _
    rw [print, List.cons_append, scanValue_brace, sequence_separated (.inr rfl) reads count rest]
    rfl
  | foreign => cases isJson

theorem scanValue_printItems (items : List Json) (isJson : serialisableItems items = true) (fuel : ℕ)
    (enough : ∀ text ∈ printItems items, text.length ≤ fuel) :
    List.Forall₂ (fun value text => ReadsBack (scanValue fuel) text value ∧ Opens text) items
      (printItems items) := by
  cases items with
  | nil => exact .nil
  | cons item items =>
    simp only [serialisableItems, Bool.and_eq_true] at isJson
    simp only [printItems, List.forall_mem_cons] at enough ⊢
    exact .cons ⟨scanValue_print item isJson.1 fuel enough.1, opens_print isJson.1⟩
      (scanValue_printItems items isJson.2 fuel enough.2)

theorem scanMember_printMembers (members : List (Str × Json)) (isJson : serialisableMembers members = true)
    (fuel : ℕ) (enough : ∀ text ∈ printMembers members, text.length ≤ fuel) :
    List.Forall₂ (fun value text => ReadsBack (scanMember (scanValue fuel)) text value ∧ Opens text) members
      (printMembers members) := by
  cases members with
  | nil => exact .nil
  | cons member members =>
    obtain ⟨name, value⟩ := member
    simp only [serialisableMembers, Bool.and_eq_true] at isJson
    simp only [printMembers, List.forall_mem_cons] at enough ⊢
    have fits : (print value).length ≤ fuel := by
      have whole := enough.1
      simp only [List.length_append, List.length_cons] at whole
      omega
    have reads := scanValue_print value isJson.1 fuel fits
    exact .cons ⟨scanMember_print reads (opens_print isJson.1), opens_quoted name _⟩
      (scanMember_printMembers members isJson.2 fuel enough.2)

end

/-- `loads` inverts `dumps`. -/
theorem loads_dumps {value : Json} {text : Str} (dumped : dumps value = some text) :
    loads text = some value := by
  obtain ⟨isJson, rfl⟩ : serialisable value = true ∧ print value = text := by
    simpa [dumps] using dumped
  have opens := (opens_print isJson).skipSpace []
  have read := scanValue_print value isJson _ le_rfl [] (by simp [Delimited])
  rw [List.append_nil] at opens read
  simp only [loads, opens, read]
  rfl

/-! ## What a dumped text looks like -/

def Printable (text : Str) : Prop := ∀ c ∈ text, 0x20 ≤ c.toNat ∧ c.toNat ≤ 0x7E

theorem Printable.append {text other : Str} (printable : Printable text) (also : Printable other) :
    Printable (text ++ other) := by
  intro c member
  cases List.mem_append.mp member with
  | inl inText => exact printable c inText
  | inr inOther => exact also c inOther

theorem Printable.cons {c : Char} {text : Str} (first : 0x20 ≤ c.toNat ∧ c.toNat ≤ 0x7E)
    (printable : Printable text) : Printable (c :: text) :=
  List.forall_mem_cons.mpr ⟨first, printable⟩

theorem printable_of_atoms {text : Str} (atoms : ∀ c ∈ text, isAtomChar c = true) : Printable text := by
  intro c member
  have isAtom := atoms c member
  simp only [isAtomChar, isDigit, isLetter, Bool.or_eq_true, Bool.and_eq_true, decide_eq_true_eq] at isAtom
  obtain (((digit | letter) | rfl) | rfl) | rfl := isAtom
  · omega
  · omega
  · decide
  · decide
  · decide

theorem printable_hexDigit : ∀ n < 16, 0x20 ≤ (hexDigit n).toNat ∧ (hexDigit n).toNat ≤ 0x7E := by
  decide

theorem printable_unicodeEscape {unit : ℕ} (small : unit < 0x10000) : Printable (unicodeEscape unit) := by
  simp only [Printable, unicodeEscape, List.forall_mem_cons]
  exact ⟨by decide, by decide, printable_hexDigit _ (by omega), printable_hexDigit _ (by omega),
    printable_hexDigit _ (by omega), printable_hexDigit _ (by omega), by simp⟩

theorem printable_shortEscape {c letter : Char} (short : shortEscape c = some letter) :
    0x20 ≤ letter.toNat ∧ letter.toNat ≤ 0x7E := by
  simp only [shortEscape] at short
  split at short
  next isSelf =>
    cases short
    obtain rfl | rfl := isSelf <;> decide
  next =>
    repeat' split at short
    all_goals cases short
    all_goals decide

theorem printable_escape (c : Char) : Printable (escape c) := by
  simp only [escape]
  cases short : shortEscape c with
  | some letter => exact .cons (by decide) (.cons (printable_shortEscape short) (by simp [Printable]))
  | none =>
    by_cases printable : 0x20 ≤ c.toNat ∧ c.toNat ≤ 0x7E
    · simp only [printable, and_self, if_true]
      exact .cons printable (by simp [Printable])
    · simp only [printable, if_false]
      intro d member
      obtain ⟨unit, isUnit, inEscape⟩ := List.mem_flatMap.mp member
      exact printable_unicodeEscape (units_lt unit isUnit) d inEscape

theorem printable_quoted (text : Str) : Printable (quoted text) := by
  have escaped : Printable (text.flatMap escape) := by
    intro d member
    obtain ⟨c, _, inEscape⟩ := List.mem_flatMap.mp member
    exact printable_escape c d inEscape
  exact .cons (by decide) (escaped.append (.cons (by decide) (by simp [Printable])))

theorem printable_separatedMore {close : Char} (isClose : IsClose close) {texts : List Str}
    (printable : ∀ text ∈ texts, Printable text) : Printable (separatedMore close texts) := by
  induction texts with
  | nil =>
    obtain rfl | rfl := isClose <;> exact .cons (by decide) (by simp [Printable])
  | cons text texts ih =>
    rw [List.forall_mem_cons] at printable
    exact .cons (by decide) (printable.1.append (ih printable.2))

theorem printable_separated {close : Char} (isClose : IsClose close) {texts : List Str}
    (printable : ∀ text ∈ texts, Printable text) : Printable (separated close texts) := by
  cases texts with
  | nil => exact printable_separatedMore isClose printable
  | cons text texts =>
    rw [List.forall_mem_cons] at printable
    exact printable.1.append (printable_separatedMore isClose printable.2)

mutual

theorem printable_print (value : Json) : Printable (print value) := by
  cases value with
  | null => exact printable_of_atoms (List.all_eq_true.mp (by decide))
  | bool value => cases value <;> exact printable_of_atoms (List.all_eq_true.mp (by decide))
  | number literal => exact printable_of_atoms (isAtomChar_of_isNumber literal.isNumber)
  | str text => exact printable_quoted text
  | arr items => exact .cons (by decide) (printable_separated (.inl rfl) (printable_printItems items))
  | obj members => exact .cons (by decide) (printable_separated (.inr rfl) (printable_printMembers members))
  | foreign => simp [Printable, print]

theorem printable_printItems (items : List Json) : ∀ text ∈ printItems items, Printable text := by
  cases items with
  | nil => simp [printItems]
  | cons item items =>
    exact List.forall_mem_cons.mpr ⟨printable_print item, printable_printItems items⟩

theorem printable_printMembers (members : List (Str × Json)) :
    ∀ text ∈ printMembers members, Printable text := by
  cases members with
  | nil => simp [printMembers]
  | cons member members =>
    obtain ⟨name, value⟩ := member
    have first := (printable_quoted name).append (.cons (c := ':') (by decide) (printable_print value))
    exact List.forall_mem_cons.mpr ⟨first, printable_printMembers members⟩

end

theorem separatedMore_eq_append (close : Char) (texts : List Str) :
    ∃ front, separatedMore close texts = front ++ [close] := by
  induction texts with
  | nil => exact ⟨[], rfl⟩
  | cons text texts ih =>
    obtain ⟨front, same⟩ := ih
    exact ⟨',' :: (text ++ front), by simp [separatedMore, same]⟩

theorem print_obj_framed (members : List (Str × Json)) :
    ∃ inside, print (.obj members) = '{' :: (inside ++ ['}']) := by
  cases texts : printMembers members with
  | nil => exact ⟨[], by simp [print, texts, separated]⟩
  | cons text others =>
    obtain ⟨front, same⟩ := separatedMore_eq_append '}' others
    exact ⟨text ++ front, by simp [print, texts, separated, same]⟩

/-- A text that begins with a brace is an object if it is anything. -/
theorem loads_brace (rest : Str) :
    loads ('{' :: rest) = none ∨ ∃ members, loads ('{' :: rest) = some (.obj members) := by
  have brace : isSpace '{' = false := by decide
  simp only [loads, skipSpace_cons brace, List.length_cons, scanValue_brace]
  cases sequence (scanMember (scanValue rest.length)) '}' rest.length rest with
  | none => exact .inl rfl
  | some found =>
    simp only [Option.map_some]
    split
    next => exact .inr ⟨_, rfl⟩
    next => exact .inl rfl

end Json

end AutoSre.Lib
