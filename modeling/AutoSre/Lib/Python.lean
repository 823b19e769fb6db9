import Mathlib.Data.Rat.Floor
import Mathlib.Data.List.Basic

/-! # The Python built-ins the services rely on

A `str` is its list of code points, a `float` is an exact rational or a `Float`, and a
`dict` is the list of its items in insertion order.
-/

namespace AutoSre.Lib.Python

/-! ## Strings -/

abbrev Str := List Char

/-- `str.isspace` for one character: the code points Unicode calls white space
    in the sense of Python (bidirectional class WS, B or S, or category Zs). -/
def isSpace (c : Char) : Bool :=
  let n := c.toNat
  (9 ≤ n && n ≤ 13) || (28 ≤ n && n ≤ 32) || n == 0x85 || n == 0xA0 || n == 0x1680 ||
    (0x2000 ≤ n && n ≤ 0x200A) || n == 0x2028 || n == 0x2029 || n == 0x202F || n == 0x205F ||
    n == 0x3000

def strip (s : Str) : Str :=
  ((s.dropWhile isSpace).reverse.dropWhile isSpace).reverse

def removePrefix (head s : Str) : Str :=
  if head.isPrefixOf s then s.drop head.length else s

def startswith (head s : Str) : Bool := head.isPrefixOf s

theorem removePrefix_append (head s : Str) : removePrefix head (head ++ s) = s := by
  simp [removePrefix]

theorem dropWhile_isSpace_of_solid {s : Str} (solid : ∀ c ∈ s, isSpace c = false) :
    s.dropWhile isSpace = s := by
  cases s with
  | nil => rfl
  | cons c s => simp [solid c List.mem_cons_self]

theorem strip_of_solid {s : Str} (solid : ∀ c ∈ s, isSpace c = false) : strip s = s := by
  have reversed : ∀ c ∈ s.reverse, isSpace c = false := by simpa using solid
  rw [strip, dropWhile_isSpace_of_solid solid, dropWhile_isSpace_of_solid reversed, List.reverse_reverse]

theorem dropWhile_append_solid {s : Str} {c : Char} (solid : isSpace c = false) :
    ∃ rest, (s ++ [c]).dropWhile isSpace = rest ++ [c] := by
  induction s with
  | nil => exact ⟨[], by simp [solid]⟩
  | cons head s ih =>
    cases blank : isSpace head with
    | true => simpa [blank] using ih
    | false => exact ⟨head :: s, by simp [blank]⟩

theorem strip_cons_of_solid {c : Char} (solid : isSpace c = false) (s : Str) :
    ∃ rest, strip (c :: s) = c :: rest := by
  obtain ⟨kept, same⟩ := dropWhile_append_solid (s := s.reverse) solid
  exact ⟨kept.reverse, by simp [strip, solid, same]⟩

theorem strip_of_solid_ends {first last : Char} (solidFirst : isSpace first = false)
    (solidLast : isSpace last = false) (s : Str) :
    strip (first :: (s ++ [last])) = first :: (s ++ [last]) := by
  simp [strip, solidFirst, solidLast]

/-- `value or default`, for a `str` or `None`. -/
def orDefault (value : Option Str) (default : Str) : Str :=
  match value with
  | some (c :: rest) => c :: rest
  | some [] | none => default

theorem orDefault_ne_nil (value : Option Str) {default : Str} (nonempty : default ≠ []) :
    orDefault value default ≠ [] := by
  obtain _ | (_ | ⟨c, rest⟩) := value
  · exact nonempty
  · exact nonempty
  · exact List.cons_ne_nil c rest

theorem orDefault_some {value : Str} (nonempty : value ≠ []) (default : Str) :
    orDefault (some value) default = value := by
  cases value with
  | nil => exact absurd rfl nonempty
  | cons c rest => rfl

/-! ### Lines -/

/-- The lines of a text file read with universal newlines, without their ends. -/
def lines : Str → List Str
  | [] => []
  | c :: rest =>
    if c = '\n' then [] :: lines rest
    else if c = '\r' then
      match rest with
      | '\n' :: rest => [] :: lines rest
      | rest => [] :: lines rest
    else
      match lines rest with
      | [] => [[c]]
      | line :: later => (c :: line) :: later

/-- No character of the text ends a line. -/
def Unbroken (s : Str) : Prop := ∀ c ∈ s, c ≠ '\n' ∧ c ≠ '\r'

theorem lines_newline (rest : Str) : lines ('\n' :: rest) = [] :: lines rest := by
  rw [lines.eq_def]
  rfl

theorem lines_cons {c : Char} (notEnd : c ≠ '\n' ∧ c ≠ '\r') (rest : Str) :
    lines (c :: rest) =
      match lines rest with
      | [] => [[c]]
      | line :: later => (c :: line) :: later := by
  rw [lines.eq_def]
  simp [notEnd]

theorem lines_append_newline {line : Str} (unbroken : Unbroken line) (rest : Str) :
    lines (line ++ '\n' :: rest) = line :: lines rest := by
  induction line with
  | nil => exact lines_newline rest
  | cons c line ih =>
    obtain ⟨notEnd, unbroken⟩ := List.forall_mem_cons.mp unbroken
    rw [List.cons_append, lines_cons notEnd, ih unbroken]

theorem lines_of_unbroken {line : Str} (unbroken : Unbroken line) (nonempty : line ≠ []) :
    lines line = [line] := by
  induction line with
  | nil => exact absurd rfl nonempty
  | cons c line ih =>
    obtain ⟨notEnd, unbroken⟩ := List.forall_mem_cons.mp unbroken
    rw [lines_cons notEnd]
    cases line with
    | nil => rfl
    | cons next line => rw [ih unbroken (by simp)]

/-! ## Numbers -/

/-- `round(q)`: to the nearest integer, ties to the even one. -/
def roundHalfEven (q : ℚ) : ℤ :=
  let floor := ⌊q⌋
  if q - floor < 1 / 2 then floor
  else if 1 / 2 < q - floor then floor + 1
  else if floor % 2 = 0 then floor else floor + 1

/-- `round(q, digits)` -/
def round (q : ℚ) (digits : ℕ) : ℚ := roundHalfEven (q * 10 ^ digits) / 10 ^ digits

/-- `int(q)`: the integer part, cut off towards zero. -/
def int (q : ℚ) : ℤ := if 0 ≤ q then ⌊q⌋ else ⌈q⌉

/-- `min(a, b)`, which is `a` unless `b` is less. -/
def minOf {α : Type*} [LT α] [DecidableLT α] (a b : α) : α := if b < a then b else a

theorem minOf_eq_min (a b : ℚ) : minOf a b = min a b := by
  by_cases less : b < a
  · rw [minOf, if_pos less, min_eq_right less.le]
  · rw [minOf, if_neg less, min_eq_left (not_lt.mp less)]

/-- `math.ceil`; `none` stands for the exception that it raises on what is not finite. -/
class MathCeil (α : Type*) where
  ceil : α → Option ℤ

instance : MathCeil ℚ := ⟨fun q => some ⌈q⌉⟩

/-- The number that a finite double stands for. -/
def exactValue (x : Float) : Option ℚ :=
  match x.toModel.unpack with
  | .zero _ => some 0
  | .finite .positive mantissa exponent _ => some (mantissa * 2 ^ exponent)
  | .finite .negative mantissa exponent _ => some (-(mantissa * 2 ^ exponent))
  | .infinity _ | .notANumber => none

instance : MathCeil Float := ⟨fun x => (exactValue x).map Int.ceil⟩

theorem isSome_ceil (x : Float) : (MathCeil.ceil x).isSome = x.isFinite := by
  simp only [MathCeil.ceil, Option.isSome_map, exactValue, Float.isFinite, Float.Model.isFinite]
  cases x.toModel.unpack with
  | zero sign => rfl
  | finite sign mantissa exponent positive => cases sign <;> rfl
  | infinity sign => rfl
  | notANumber => rfl

/-! ## Lists -/

/-- `items[-limit:]` -/
def lastItems {α : Type*} (limit : ℤ) (items : List α) : List α :=
  if 0 < limit then items.drop (items.length - limit.toNat)
  else items.drop (-limit).toNat -- from the front, and all of them for zero

/-! ## Dictionaries -/

/-- A `dict`: its items in the order in which their keys were first set. -/
structure Dict (κ ν : Type*) where
  items : List (κ × ν)

namespace Dict

variable {κ ν : Type*} [DecidableEq κ]

def empty : Dict κ ν := ⟨[]⟩

def get (d : Dict κ ν) (key : κ) : Option ν := d.items.lookup key

/-- Assigns in place when the key is there, else appends. -/
def setItems (key : κ) (value : ν) : List (κ × ν) → List (κ × ν)
  | [] => [(key, value)]
  | item :: items =>
    if item.1 = key then (key, value) :: items else item :: setItems key value items

def set (d : Dict κ ν) (key : κ) (value : ν) : Dict κ ν := ⟨setItems key value d.items⟩

def len (d : Dict κ ν) : ℕ := d.items.length

theorem lookup_setItems (key other : κ) (value : ν) (items : List (κ × ν)) :
    (setItems key value items).lookup other =
      if other = key then some value else items.lookup other := by
  induction items with
  | nil => by_cases same : other = key <;> simp [setItems, same]
  | cons item items ih =>
    obtain ⟨head, old⟩ := item
    by_cases same : other = head
    · by_cases found : head = key <;> simp [setItems, same, found]
    · have skipped : (other == head) = false := beq_false_of_ne same
      by_cases found : head = key
      · subst found
        simp [setItems, List.lookup_cons, skipped, same]
      · simp [setItems, List.lookup_cons, skipped, found, ih]

@[simp] theorem get_empty (key : κ) : (empty : Dict κ ν).get key = none := rfl

@[simp] theorem get_set_self (d : Dict κ ν) (key : κ) (value : ν) :
    (d.set key value).get key = some value := by
  simp [get, set, lookup_setItems]

theorem get_set_of_ne (d : Dict κ ν) {key other : κ} (value : ν) (differ : other ≠ key) :
    (d.set key value).get other = d.get other := by
  simp [get, set, lookup_setItems, differ]

/-! The keys of a dictionary, in the order in which they were first set. -/

def keys (d : Dict κ ν) : List κ := d.items.map Prod.fst

/-- The keys with one more at the end, unless it is among them. -/
def withKey (keys : List κ) (key : κ) : List κ := if key ∈ keys then keys else keys ++ [key]

theorem withKey_of_mem {keys : List κ} {key : κ} (isKey : key ∈ keys) : withKey keys key = keys := if_pos isKey

theorem withKey_of_not_mem {keys : List κ} {key : κ} (isNew : key ∉ keys) : withKey keys key = keys ++ [key] :=
  if_neg isNew

theorem nodup_withKey {keys : List κ} (nodup : keys.Nodup) (key : κ) : (withKey keys key).Nodup := by
  by_cases isKey : key ∈ keys
  · rw [withKey_of_mem isKey]
    exact nodup
  · rw [withKey_of_not_mem isKey, List.nodup_append]
    refine ⟨nodup, by simp, ?_⟩
    intro old isOld last isLast
    rw [List.mem_singleton.mp isLast]
    rintro rfl
    exact isKey isOld

theorem keys_set (d : Dict κ ν) (key : κ) (value : ν) : (d.set key value).keys = withKey d.keys key := by
  obtain ⟨items⟩ := d
  change (setItems key value items).map Prod.fst = withKey (items.map Prod.fst) key
  induction items with
  | nil => simp [setItems, withKey]
  | cons item items ih =>
    by_cases found : item.1 = key
    · simp [setItems, withKey, found]
    · simp only [setItems, found, if_false, List.map_cons, ih, withKey, List.mem_cons, Ne.symm found, false_or]
      split <;> rfl

theorem get_eq_none_iff {d : Dict κ ν} {key : κ} : d.get key = none ↔ key ∉ d.keys := by
  simp only [get, keys, List.lookup_eq_none_iff, List.mem_map, not_exists, not_and]
  constructor
  · intro absent item isItem isKey
    simpa [isKey] using absent item isItem
  · intro absent item isItem
    simpa using fun isKey => absent item isItem isKey.symm

theorem get_of_mem_items {d : Dict κ ν} (nodup : d.keys.Nodup) {key : κ} {value : ν}
    (isItem : (key, value) ∈ d.items) : d.get key = some value := by
  obtain ⟨items⟩ := d
  change (items.map Prod.fst).Nodup at nodup
  change items.lookup key = some value
  induction items with
  | nil => cases isItem
  | cons item items ih =>
    obtain ⟨head, old⟩ := item
    obtain ⟨fresh, nodup⟩ := List.nodup_cons.mp nodup
    cases List.mem_cons.mp isItem with
    | inl isFirst =>
      cases isFirst
      simp
    | inr later =>
      have differ : key ≠ head := by
        rintro rfl
        exact fresh (List.mem_map.mpr ⟨_, later, rfl⟩)
      simpa [List.lookup_cons, beq_false_of_ne differ] using ih later nodup

/-- `{**d, **other}` -/
def merge (d other : Dict κ ν) : Dict κ ν :=
  other.items.foldl (fun merged item => merged.set item.1 item.2) d

theorem lookup_map_set {μ : Type*} [BEq μ] [LawfulBEq μ] (rename : κ → μ) (d : Dict κ ν) {key : κ} {name : μ}
    (value : ν) (foreign : rename key ≠ name) :
    ((d.set key value).items.map fun item => (rename item.1, item.2)).lookup name =
      (d.items.map fun item => (rename item.1, item.2)).lookup name := by
  have skipped : (name == rename key) = false := beq_false_of_ne (Ne.symm foreign)
  obtain ⟨items⟩ := d
  change ((setItems key value items).map fun item => (rename item.1, item.2)).lookup name = _
  induction items with
  | nil => simp [setItems, List.lookup_cons, skipped]
  | cons item items ih =>
    by_cases found : item.1 = key
    · simp [setItems, List.lookup_cons, found, skipped]
    · simp only [setItems, found, if_false, List.map_cons, List.lookup_cons, ih]

theorem lookup_map_merge {μ : Type*} [BEq μ] [LawfulBEq μ] (rename : κ → μ) (d other : Dict κ ν) {name : μ}
    (foreign : ∀ item ∈ other.items, rename item.1 ≠ name) :
    ((d.merge other).items.map fun item => (rename item.1, item.2)).lookup name =
      (d.items.map fun item => (rename item.1, item.2)).lookup name := by
  obtain ⟨items⟩ := other
  change ∀ item ∈ items, rename item.1 ≠ name at foreign
  induction items generalizing d with
  | nil => rfl
  | cons item items ih =>
    obtain ⟨here, later⟩ := List.forall_mem_cons.mp foreign
    exact (ih (d.set item.1 item.2) later).trans (lookup_map_set rename d item.2 here)

end Dict

end AutoSre.Lib.Python
