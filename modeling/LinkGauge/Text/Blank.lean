/-!
# Blank characters

The characters with the Unicode property `White_Space`, and the texts made of nothing else.
Trimming works on lists of characters; the versions on `String` go through `toList`.
-/

namespace LinkGauge

/-- The character has the property `White_Space`. -/
def isBlankChar (c : Char) : Bool :=
  (0x09 ≤ c.val && c.val ≤ 0x0D) || c.val == 0x20 || c.val == 0x85 || c.val == 0xA0 ||
  c.val == 0x1680 || (0x2000 ≤ c.val && c.val ≤ 0x200A) || c.val == 0x2028 || c.val == 0x2029 ||
  c.val == 0x202F || c.val == 0x205F || c.val == 0x3000

theorem isBlankChar_of_isWhitespace {c : Char} (h : c.isWhitespace = true) :
    isBlankChar c = true := by
  simp only [Char.isWhitespace, Bool.or_eq_true, decide_eq_true_eq] at h
  rcases h with ((rfl | rfl) | rfl) | rfl <;> decide

/-! ### Lists of characters -/

/-- A list of characters without its leading blanks. -/
def trimStartChars (cs : List Char) : List Char :=
  cs.dropWhile isBlankChar

/-- A list of characters without its trailing blanks. -/
def trimEndChars (cs : List Char) : List Char :=
  (cs.reverse.dropWhile isBlankChar).reverse

/-- A list of characters without the blanks at either end. -/
def trimChars (cs : List Char) : List Char :=
  trimEndChars (trimStartChars cs)

/-! ### Texts -/

/-- A text without the blanks at either end. -/
def trim (s : String) : String :=
  String.ofList (trimChars s.toList)

/-- A text without its leading blanks. -/
def trimStart (s : String) : String :=
  String.ofList (trimStartChars s.toList)

/-- A text of blanks only, the empty text among them. -/
def isBlank (s : String) : Bool :=
  s.toList.all isBlankChar

@[simp] theorem isBlank_empty : isBlank "" = true := rfl

end LinkGauge
