import Mathlib.Data.List.DropRight

/-!
# JavaScript strings

A JavaScript string is a sequence of 16-bit units in which surrogates need not
come in pairs. Its length counts units; what leaves the program is UTF-8, where
an unpaired surrogate has become U+FFFD.
-/

namespace ShowUp

set_option autoImplicit false

abbrev Text := List UInt16

namespace Utf16

def isHigh (u : UInt16) : Bool := 0xD800 ≤ u && u < 0xDC00

def isLow (u : UInt16) : Bool := 0xDC00 ≤ u && u < 0xE000

/-- U+FFFD, the replacement character. -/
def replacement : Char := Char.ofNat 0xFFFD

def single (u : UInt16) : Char :=
  if isHigh u || isLow u then replacement else Char.ofNat u.toNat

def pair (high low : UInt16) : Char :=
  Char.ofNat (0x10000 + (high.toNat - 0xD800) * 0x400 + (low.toNat - 0xDC00))

/-- The characters of a string, with U+FFFD for every unpaired surrogate. -/
def chars : Text → List Char
  | [] => []
  | [u] => [single u]
  | u :: v :: rest =>
    if isHigh u && isLow v then pair u v :: chars rest else single u :: chars (v :: rest)

def units (c : Char) : Text :=
  if c.toNat < 0x10000 then [c.toNat.toUInt16]
  else
    [(0xD800 + (c.toNat - 0x10000) / 0x400).toUInt16,
      (0xDC00 + (c.toNat - 0x10000) % 0x400).toUInt16]

def ofChars (cs : List Char) : Text := cs.flatMap units

def ofString (value : String) : Text := ofChars value.toList

/-- `new TextEncoder().encode(value)` -/
def encode (value : Text) : List UInt8 := (chars value).flatMap String.utf8EncodeChar

/-- White space and line terminators, as `String.prototype.trim` removes them. -/
def isSpace (u : UInt16) : Bool :=
  (0x9 ≤ u && u ≤ 0xD) || u = 0x20 || u = 0xA0 || u = 0x1680 || (0x2000 ≤ u && u ≤ 0x200A) ||
    u = 0x2028 || u = 0x2029 || u = 0x202F || u = 0x205F || u = 0x3000 || u = 0xFEFF

def trim (value : Text) : Text := (value.dropWhile isSpace).rdropWhile isSpace

theorem utf8Size_single (u : UInt16) : (single u).utf8Size ≤ 3 := by
  have small : (single u).toNat ≤ 0xFFFF := by
    unfold single
    split
    · decide
    · have hu := u.toNat_lt
      by_cases valid : u.toNat.isValidChar
      · have same : Char.ofNat u.toNat = Char.ofNatAux u.toNat valid := dif_pos valid
        rw [same]
        change u.toNat ≤ 0xFFFF
        omega
      · have none : Char.ofNat u.toNat = Char.ofNat 0 := dif_neg valid
        rw [none]
        decide
  unfold Char.utf8Size
  dsimp only
  split
  · decide
  · split
    · decide
    · refine Nat.le_of_eq (if_pos ?_)
      exact UInt32.le_iff_toNat_le.mpr small

/-- A unit takes three bytes at most. -/
theorem length_encode_le (text : Text) : (encode text).length ≤ 3 * text.length := by
  unfold encode
  fun_induction chars text with
  | case1 => exact Nat.le_refl _
  | case2 u =>
    rw [List.flatMap_singleton, String.length_utf8EncodeChar]
    exact utf8Size_single u
  | case3 u v rest _ ih =>
    have pairSize := (pair u v).utf8Size_le_four
    rw [List.flatMap_cons, List.length_append, String.length_utf8EncodeChar]
    simp only [List.length_cons]
    omega
  | case4 u v rest _ ih =>
    have size := utf8Size_single u
    rw [List.flatMap_cons, List.length_append, String.length_utf8EncodeChar]
    simp only [List.length_cons] at ih ⊢
    omega

theorem trim_eq_self {text : Text} (h : ∀ u ∈ text, isSpace u = false) : trim text = text := by
  have left : text.dropWhile isSpace = text := by
    cases text with
    | nil => rfl
    | cons u rest => exact List.dropWhile_cons_of_neg (by simp [h u List.mem_cons_self])
  unfold trim
  rw [left, List.rdropWhile_eq_self_iff]
  intro nonempty
  simp [h _ (List.getLast_mem nonempty)]

theorem trim_trim (text : Text) : trim (trim text) = trim text := by
  have left : (trim text).dropWhile isSpace = trim text := by
    obtain ⟨rest, whole⟩ := List.rdropWhile_prefix isSpace (text.dropWhile isSpace)
    change trim text ++ rest = text.dropWhile isSpace at whole
    cases trimmed : trim text with
    | nil => rfl
    | cons u kept =>
      have head : (text.dropWhile isSpace).head? = some u := by
        rw [← whole, trimmed, List.cons_append, List.head?_cons]
      have plain := List.head?_dropWhile_not isSpace text
      rw [head] at plain
      exact List.dropWhile_cons_of_neg (by simpa using plain)
  rw [trim, left]
  exact List.rdropWhile_idempotent isSpace (text.dropWhile isSpace)

end Utf16

end ShowUp
