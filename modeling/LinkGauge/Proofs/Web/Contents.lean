import LinkGauge.Proofs.Text.Utf16
import LinkGauge.Proofs.Text.Utf8
import LinkGauge.Web.Content

/-!
# Texts in contents

A text is read as it was written: in UTF-8 if no other charset is named and nothing in front is
taken for a mark of the byte order, and behind such a mark whatever charset is named.
-/

namespace LinkGauge.Web

open Utf8 (octets)

/-- A text begins with no mark of the byte order. -/
def Unmarked (cs : List Char) : Prop := ∀ c ∈ cs.head?, c.toNat < 0x80

instance : (cs : List Char) → Decidable (Unmarked cs)
  | [] => .isTrue nofun
  | c :: _ => decidable_of_iff (c.toNat < 0x80) (by simp [Unmarked])

/-- No mark of the byte order begins with an octet of ASCII. -/
lemma ofMark?_octets {cs : List Char} (h : Unmarked cs) : Charset.ofMark? (octets cs) = none := by
  cases cs with
  | nil => rfl
  | cons c cs =>
    have ascii : c.toNat < 0x80 := h c rfl
    have value := Utf8.toNat_ascii ascii
    rw [Utf8.octets_cons, Utf8.encodeChar_ascii ascii]
    simp only [List.cons_append, Charset.ofMark?]
    split
    case h_4 => rfl
    all_goals
      next eq =>
        rw [(List.cons.inj eq).1] at value
        exact absurd ascii (by rw [← value]; decide)

namespace Content

/-- A text without a mark, if no charset but UTF-8 is named. -/
lemma text_encode {type : Option String} (foreign : Option String)
    (utf8 : ∀ label ∈ type.bind MediaType.charset?, Charset.ofLabel? label = some .utf8)
    {s : String} (h : Unmarked s.toList) : text ⟨type, Utf8.encode s, foreign⟩ = s := by
  have decoded : Charset.utf8.decode (Utf8.encode s) = s := Utf8.decodeLossy_encode s
  rw [text, Utf8.encode_eq, ofMark?_octets h, ← Utf8.encode_eq]
  cases named : type.bind MediaType.charset? with
  | none => exact decoded
  | some label => simp only [utf8 label named, decoded]

variable (type : Option String) (s : String) (foreign : Option String)

/-- A text in UTF-8 behind its mark. -/
theorem text_mark_utf8 : text ⟨type, 0xEF :: 0xBB :: 0xBF :: Utf8.encode s, foreign⟩ = s :=
  Utf8.decodeLossy_encode s

/-- A text in UTF-16 behind its mark. -/
theorem text_mark_utf16 (order : Utf16.Order) :
    text ⟨type, order.octets 0xFEFF ++ Utf16.encode order s, foreign⟩ = s := by
  cases order with
  | little => exact Utf16.decodeLossy_encode .little s
  | big => exact Utf16.decodeLossy_encode .big s

end Content

end LinkGauge.Web
