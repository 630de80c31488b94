set_option autoImplicit false

/-! # Blank characters

Two classes of blank characters and the trimming that goes with them. `isSpace` is the Unicode
property White_Space. `isBlank` has the four information separators U+001C to U+001F besides,
which separate text although they lack the property. -/

namespace DeviceSplit.Text

/-- The characters with the Unicode property White_Space. -/
def isSpace (c : Char) : Bool :=
  let n := c.toNat
  (0x09 ≤ n && n ≤ 0x0D) || n == 0x20 || n == 0x85 || n == 0xA0 || n == 0x1680 ||
    (0x2000 ≤ n && n ≤ 0x200A) || n == 0x2028 || n == 0x2029 || n == 0x202F || n == 0x205F ||
    n == 0x3000

/-- White space and the information separators. -/
def isBlank (c : Char) : Bool :=
  isSpace c || (0x1C ≤ c.toNat && c.toNat ≤ 0x1F)

/-- Drop the characters of a class from both ends. -/
def trimBy (p : Char → Bool) (cs : List Char) : List Char :=
  ((cs.dropWhile p).reverse.dropWhile p).reverse

/-- A text without the blank characters at its ends. -/
def trim (s : String) : String := String.ofList (trimBy isBlank s.toList)

/-- A text that neither begins nor ends with a character of the class is left as it is. -/
theorem trimBy_eq_self {p : Char → Bool} {cs : List Char}
    (hfirst : ∀ c, cs.head? = some c → p c = false)
    (hlast : ∀ c, cs.getLast? = some c → p c = false) : trimBy p cs = cs := by
  cases cs with
  | nil => rfl
  | cons c r =>
    have hc : p c = false := hfirst c rfl
    have hd : (c :: r).dropWhile p = c :: r := by simp [hc]
    rw [trimBy, hd]
    cases hrev : (c :: r).reverse with
    | nil => simp at hrev
    | cons b q =>
      have hb : (c :: r).getLast? = some b := by
        rw [List.getLast?_eq_head?_reverse, hrev]; rfl
      have hq : (b :: q).dropWhile p = b :: q := by simp [hlast b hb]
      rw [hq, ← hrev, List.reverse_reverse]

end DeviceSplit.Text
