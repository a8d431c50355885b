import LinkGauge.Proofs.Answers
import LinkGauge.Proofs.Text.Percent
import LinkGauge.Url.Setters

/-!
# Segments of paths

The path of an address that was read is made of segments that reading leaves as they are: they hold
no slash, nothing in them is to be encoded, and none of them stands for a place itself or for the
one above. So a path that is set anew to the text of such segments is made of them.
-/

namespace LinkGauge.Url

open Percent (IsKept)

variable {special : Bool} {c : Char} {cs : List Char} {s : String}

/-! ### Segments -/

/-- A segment that reading leaves as it is. -/
structure IsSegment (special : Bool) (s : String) : Prop where
  kept : ∀ c ∈ s.toList, IsKept inPath c
  whole : ∀ c ∈ s.toList, isSlash special c = false
  notHere : isHere s.toList = false
  notAbove : isAbove s.toList = false

lemma isSegment_iff : IsSegment special s ↔
    (s.toList.all fun c => IsKept inPath c ∧ isSlash special c = false) = true ∧
      isHere s.toList = false ∧ isAbove s.toList = false := by
  simp only [List.all_eq_true, decide_eq_true_eq]
  constructor
  · intro h
    exact ⟨fun c mem => ⟨h.kept c mem, h.whole c mem⟩, h.notHere, h.notAbove⟩
  · rintro ⟨chars, notHere, notAbove⟩
    exact ⟨fun c mem => (chars c mem).1, fun c mem => (chars c mem).2, notHere, notAbove⟩

instance : Decidable (IsSegment special s) := decidable_of_iff _ isSegment_iff.symm

lemma isSegment_empty : IsSegment special "" where
  kept := by simp
  whole := by simp
  notHere := rfl
  notAbove := rfl

lemma IsSegment.encoded_eq (h : IsSegment special s) : encoded inPath s.toList = s := by
  rw [encoded, Percent.encode_of_isKept h.kept, String.ofList_toList]

@[simp] lemma isSlash_slash : isSlash special '/' = true := rfl

lemma isKept_of_mem_marks (mem : c ∈ Percent.marks) : IsKept inPath c := by
  have all : (Percent.marks.all fun c => IsKept inPath c) = true := by decide
  exact of_decide_eq_true (List.all_eq_true.mp all c mem)

lemma isSlash_of_mem_marks (mem : c ∈ Percent.marks) : isSlash special c = false := by
  have all : (Percent.marks.all fun c => ∀ special, isSlash special c = false) = true := by decide
  exact of_decide_eq_true (List.all_eq_true.mp all c mem) special

/-- What stands for a place itself or for the one above, up to upper case. -/
def dots : List (List Char) := [".", "%2e", "..", ".%2e", "%2e.", "%2e%2e"].map String.toList

lemma mem_dots_of_isHere (h : isHere cs = true) : cs.map Char.toLower ∈ dots := by
  simp only [isHere, Bool.or_eq_true, beq_iff_eq] at h
  rcases h with h | h <;> rw [h] <;> decide

lemma mem_dots_of_isAbove (h : isAbove cs = true) : cs.map Char.toLower ∈ dots := by
  simp only [isAbove, Bool.or_eq_true, beq_iff_eq] at h
  rcases h with ((h | h) | h) | h <;> rw [h] <;> decide

/-- Nothing is encoded in a text that stands for a place. -/
lemma encode_eq_self_of_mem_dots
    (h : (Percent.encode inPath cs).map Char.toLower ∈ dots) : Percent.encode inPath cs = cs := by
  have stops : ∀ low ∈ dots, ∀ t ∈ low.tails, t.head? = some '%' → t.take 3 = ['%', '2', 'e'] := by
    decide
  exact Percent.encode_eq_self (by decide) (stops _ h)

/-- Encoded, a part of a path is a segment, if it does not stand for a place. -/
lemma isSegment_encoded (whole : ∀ c ∈ cs, isSlash special c = false)
    (notHere : isHere cs = false) (notAbove : isAbove cs = false) :
    IsSegment special (encoded inPath cs) where
  kept := by
    intro c mem
    rw [encoded, String.toList_ofList] at mem
    rcases Percent.mem_encode mem with ⟨-, kept⟩ | mark
    · exact kept
    · exact isKept_of_mem_marks mark
  whole := by
    intro c mem
    rw [encoded, String.toList_ofList] at mem
    rcases Percent.mem_encode mem with ⟨inside, -⟩ | mark
    · exact whole c inside
    · exact isSlash_of_mem_marks mark
  notHere := by
    rw [encoded, String.toList_ofList]
    by_contra here
    rw [Bool.not_eq_false] at here
    rw [encode_eq_self_of_mem_dots (mem_dots_of_isHere here), notHere] at here
    cases here
  notAbove := by
    rw [encoded, String.toList_ofList]
    by_contra above
    rw [Bool.not_eq_false] at above
    rw [encode_eq_self_of_mem_dots (mem_dots_of_isAbove above), notAbove] at above
    cases above

/-! ### Going along segments -/

variable {place parts : List String} {way : List (List Char)}

/-- Every way leads along segments only. -/
lemma forall_mem_follow (whole : ∀ part ∈ way, ∀ c ∈ part, isSlash special c = false)
    (start : ∀ p ∈ place, IsSegment special p) :
    ∀ p ∈ follow place way, IsSegment special p := by
  have above (place : List String) (h : ∀ p ∈ place, IsSegment special p) :
      ∀ p ∈ place.dropLast, IsSegment special p := fun p mem => h p (List.mem_of_mem_dropLast mem)
  have further (place : List String) (h : ∀ p ∈ place, IsSegment special p) {s : String}
      (segment : IsSegment special s) : ∀ p ∈ place ++ [s], IsSegment special p := by
    simpa [or_imp, forall_and] using ⟨h, segment⟩
  fun_induction follow place way with
  | case1 => exact start
  | case2 place last up => exact further _ (above place start) isSegment_empty
  | case3 place last _ here => exact further _ start isSegment_empty
  | case4 place last notUp notHere =>
    exact further _ start
      (isSegment_encoded (whole last (by simp)) (by simpa using notHere) (by simpa using notUp))
  | case5 place part rest _ up ih =>
    rw [List.forall_mem_cons] at whole
    exact ih whole.2 (above place start)
  | case6 place part rest _ _ here ih =>
    rw [List.forall_mem_cons] at whole
    exact ih whole.2 start
  | case7 place part rest _ notUp notHere ih =>
    rw [List.forall_mem_cons] at whole
    refine ih whole.2 (further place start ?_)
    exact isSegment_encoded whole.1 (by simpa using notHere) (by simpa using notUp)

lemma follow_ne_nil (filled : way ≠ []) : follow place way ≠ [] := by
  fun_induction follow place way with
  | case1 => exact absurd rfl filled
  | case2 | case3 | case4 => simp
  | case5 place part rest more up ih => exact ih fun none => more none
  | case6 place part rest more up here ih => exact ih fun none => more none
  | case7 place part rest more up here ih => exact ih fun none => more none

/-- Segments are gone along as they are. -/
lemma follow_segments (segments : ∀ p ∈ parts, IsSegment special p) :
    follow place (parts.map String.toList) = place ++ parts := by
  induction parts generalizing place with
  | nil => rw [List.map_nil, follow, List.append_nil]
  | cons p parts ih =>
    rw [List.forall_mem_cons] at segments
    obtain ⟨segment, segments⟩ := segments
    cases parts with
    | nil =>
      simp only [List.map_cons, List.map_nil, follow, segment.notAbove, segment.notHere,
        segment.encoded_eq, Bool.false_eq_true, if_false]
    | cons q parts =>
      have along : follow place ((p :: q :: parts).map String.toList) =
          follow (place ++ [p]) ((q :: parts).map String.toList) := by
        simp only [List.map_cons, follow, segment.notAbove, segment.notHere, segment.encoded_eq,
          Bool.false_eq_true, if_false]
      rw [along, ih segments, List.append_assoc]
      rfl

/-! ### Segments and text -/

lemma forall_mem_pieces : ∀ part ∈ pieces special cs, ∀ c ∈ part, isSlash special c = false := by
  rw [pieces]
  induction cs with
  | nil => simp
  | cons c cs ih =>
    rw [List.splitOnP_cons_eq_if_modifyHead]
    split
    next => simpa using ih
    next inside =>
      obtain ⟨part, rest, split⟩ := List.exists_cons_of_ne_nil
        (List.splitOnP_ne_nil (isSlash special) cs)
      rw [split, List.forall_mem_cons] at ih
      rw [split, List.modifyHead_cons, List.forall_mem_cons, List.forall_mem_cons]
      exact ⟨⟨by simpa using inside, ih.1⟩, ih.2⟩

lemma toList_text_segments (parts : List String) :
    (Path.segments parts).text.toList = parts.flatMap fun p => '/' :: p.toList := by
  simp [Path.text, String.toList_join, List.flatMap_map, String.toList_append]

/-- The text of segments, from behind the first slash, falls into them. -/
lemma pieces_flatMap {p : String} (segment : ∀ c ∈ p.toList, isSlash special c = false)
    (segments : ∀ p ∈ parts, ∀ c ∈ p.toList, isSlash special c = false) :
    pieces special (p.toList ++ parts.flatMap fun p => '/' :: p.toList) =
      (p :: parts).map String.toList := by
  rw [pieces]
  induction parts generalizing p with
  | nil =>
    rw [List.flatMap_nil, List.append_nil]
    exact List.splitOnP_eq_singleton segment
  | cons q parts ih =>
    rw [List.forall_mem_cons] at segments
    rw [List.flatMap_cons, List.cons_append,
      List.splitOnP_append_cons_of_forall_mem segment '/' isSlash_slash, ih segments.1 segments.2]
    rfl

/-! ### Paths that were read -/

/-- A path as reading leaves it. -/
inductive Path.IsRead (special : Bool) : Path → Prop where
  | segments {parts : List String} : (∀ p ∈ parts, IsSegment special p) →
      (special = true → parts ≠ []) → Path.IsRead special (.segments parts)
  | plain {text : String} : special = false → Path.IsRead special (.plain text)

lemma Path.IsRead.exists_segments {p : Path} (h : p.IsRead special) (always : special = true) :
    ∃ parts, p = .segments parts ∧ (∀ p ∈ parts, IsSegment special p) ∧ parts ≠ [] := by
  cases h with
  | segments segments filled => exact ⟨_, rfl, segments, filled always⟩
  | plain other => exact absurd (always.symm.trans other) (by decide)

lemma isRead_follow : Path.IsRead special (.segments (follow [] (pieces special cs))) :=
  .segments (forall_mem_follow forall_mem_pieces (List.forall_mem_nil _))
    fun _ => follow_ne_nil (List.splitOnP_ne_nil _ _)

lemma withAuthority_scheme {u v : Url} (h : withAuthority u cs = .ok v) : v.scheme = u.scheme := by
  simp only [withAuthority] at h
  split at h
  next => cases h
  next =>
    split at h
    next => cases h
    next =>
      split at h
      all_goals
        obtain ⟨host, -, h⟩ := bind_eq_ok.mp h
        obtain ⟨port, -, h⟩ := bind_eq_ok.mp h
        cases h
        rfl

lemma afterSlashes_isRead {u v : Url} (h : afterSlashes u cs = .ok v) :
    v.scheme = u.scheme ∧ v.path.IsRead (isSpecialScheme u.scheme) := by
  simp only [afterSlashes] at h
  obtain ⟨w, authority, h⟩ := bind_eq_ok.mp h
  have scheme := withAuthority_scheme authority
  split at h
  next =>
    cases h
    refine ⟨scheme, .segments ?_ ?_⟩
    · cases isSpecialScheme u.scheme <;> simp [isSegment_empty]
    · intro special
      rw [special]
      exact List.cons_ne_nil _ _
  next =>
    cases h
    exact ⟨scheme, isRead_follow⟩

lemma afterFile_isRead {u v : Url} (file : isSpecialScheme u.scheme = true)
    (h : afterFile u cs = .ok v) :
    v.scheme = u.scheme ∧ v.path.IsRead (isSpecialScheme u.scheme) := by
  rw [file]
  simp only [afterFile] at h
  split at h
  next =>
    split at h
    next =>
      split at h
      all_goals
        obtain ⟨name, -, h⟩ := bind_eq_ok.mp h
        cases h
        exact ⟨rfl, isRead_follow⟩
    next =>
      cases h
      exact ⟨rfl, isRead_follow⟩
  next =>
    cases h
    exact ⟨rfl, isRead_follow⟩

lemma afterScheme_isRead {u v : Url} (h : afterScheme u cs = .ok v) :
    v.scheme = u.scheme ∧ v.path.IsRead (isSpecialScheme u.scheme) := by
  unfold afterScheme at h
  split at h
  next file => exact afterFile_isRead (by rw [file]; decide) h
  next =>
    split at h
    next => exact afterSlashes_isRead h
    next other =>
      rw [Bool.not_eq_true] at other
      split at h
      next => exact afterSlashes_isRead h
      next =>
        cases h
        rw [other]
        exact ⟨rfl, isRead_follow⟩
      next =>
        cases h
        exact ⟨rfl, .plain other⟩

/-- The path of an address that was read is as reading leaves it. -/
theorem parse_isRead {u : Url} (h : parse s = .ok u) :
    u.path.IsRead (isSpecialScheme u.scheme) := by
  simp only [parse] at h
  split at h
  next => cases h
  next scheme rest _ =>
    obtain ⟨v, read, h⟩ := bind_eq_ok.mp h
    cases h
    obtain ⟨same, path⟩ := afterScheme_isRead read
    rw [same]
    exact path

/-! ### Setting a path -/

lemma text_append (parts parts' : List String) :
    (Path.segments (parts ++ parts')).text =
      (Path.segments parts).text ++ (Path.segments parts').text := by
  simp only [Path.text, List.map_append, String.join_append]

/-- Segments are all of a path: paths with the same text have the same ones. -/
lemma segments_inj {parts' : List String} (segments : ∀ p ∈ parts, IsSegment special p)
    (segments' : ∀ p ∈ parts', IsSegment special p)
    (same : (Path.segments parts).text = (Path.segments parts').text) : parts = parts' := by
  have chars := congrArg String.toList same
  rw [toList_text_segments, toList_text_segments] at chars
  cases parts with
  | nil =>
    cases parts' with
    | nil => rfl
    | cons p' parts' => cases chars
  | cons p parts =>
    cases parts' with
    | nil => cases chars
    | cons p' parts' =>
      rw [List.flatMap_cons, List.flatMap_cons, List.cons_append, List.cons_append,
        List.cons.injEq] at chars
      rw [List.forall_mem_cons] at segments segments'
      have split := congrArg (pieces special) chars.2
      rw [pieces_flatMap segments.1.whole fun p mem => (segments.2 p mem).whole,
        pieces_flatMap segments'.1.whole fun p mem => (segments'.2 p mem).whole] at split
      exact List.map_injective_iff.mpr (fun _ _ => String.toList_inj.mp) split

lemma Path.IsRead.eq_of_text {p p' : Path} (h : p.IsRead special) (h' : p'.IsRead special)
    (always : special = true) (same : p.text = p'.text) : p = p' := by
  obtain ⟨parts, rfl, segments, -⟩ := h.exists_segments always
  obtain ⟨parts', rfl, segments', -⟩ := h'.exists_segments always
  rw [segments_inj segments segments' same]

/-- A path ends with a slash if its last segment is empty. -/
lemma endsWith_text_segments (segments : ∀ p ∈ parts, IsSegment special p) :
    (Path.segments parts).text.endsWith '/' = true ↔ parts.getLast? = some "" := by
  rw [String.endsWith_char_eq_getLast?, toList_text_segments, beq_iff_eq]
  rcases List.eq_nil_or_concat' parts with rfl | ⟨parts, last, rfl⟩
  · simp
  · have segment := segments last (by simp)
    rw [List.flatMap_append, List.flatMap_singleton, List.getLast?_append_cons,
      List.getLast?_concat, Option.some.injEq, ← String.toList_eq_nil_iff]
    constructor
    · intro slash
      by_contra filled
      rw [List.getLast?_cons_of_ne_nil filled] at slash
      exact absurd (segment.whole _ (List.mem_of_getLast? slash)) (by simp)
    · intro empty
      rw [empty]
      rfl

/-- Set to the text of segments, a path has these segments. -/
lemma setPath_segments {u : Url} {old : List String} (hierarchy : u.path = .segments old)
    (segments : ∀ p ∈ parts, IsSegment (isSpecialScheme u.scheme) p) (filled : parts ≠ []) :
    u.setPath (Path.segments parts).text = { u with path := .segments parts } := by
  obtain ⟨p, parts, rfl⟩ := List.exists_cons_of_ne_nil filled
  have counts : ((Path.segments (p :: parts)).text.toList.filter fun c =>
      !(c == '\t' || c == '\n' || c == '\r')) = (Path.segments (p :: parts)).text.toList := by
    rw [List.filter_eq_self, toList_text_segments]
    intro c mem
    obtain ⟨segment, inside, mem⟩ := List.mem_flatMap.mp mem
    have plain : inPath c = false := by
      rcases List.mem_cons.mp mem with rfl | mem
      · decide
      · exact ((segments segment inside).kept c mem).2
    by_contra breaks
    simp only [Bool.not_eq_true', Bool.or_eq_true, Bool.not_eq_false, beq_iff_eq] at breaks
    rcases breaks with (rfl | rfl) | rfl <;> revert plain <;> decide
  rw [List.forall_mem_cons] at segments
  have split := pieces_flatMap segments.1.whole fun p mem => (segments.2 p mem).whole
  rw [setPath, counts, hierarchy]
  simp only [toList_text_segments, List.flatMap_cons, List.cons_append, isSlash_slash, if_true,
    split, follow_segments (List.forall_mem_cons.mpr segments), List.nil_append]

/-! ### Slashes at the end -/

lemma Path.IsRead.withSlash {p : Path} (h : p.IsRead special) : p.withSlash.IsRead special := by
  cases h with
  | segments segments filled =>
    rw [Path.withSlash]
    split
    · exact .segments segments filled
    · refine .segments ?_ (by simp)
      simpa [or_imp, forall_and] using ⟨segments, isSegment_empty⟩
  | plain other =>
    rw [Path.withSlash]
    split <;> exact .plain other

lemma text_withSlash {u : Url} (h : u.path.IsRead (isSpecialScheme u.scheme))
    (special : isSpecialScheme u.scheme = true) (bare : u.path.text.endsWith '/' = false) :
    u.withSlash.path.text = u.path.text ++ "/" := by
  obtain ⟨parts, path, segments, -⟩ := h.exists_segments special
  rw [path, ← Bool.not_eq_true, endsWith_text_segments segments] at bare
  rw [withSlash, path, Path.withSlash, if_neg bare, text_append]
  rfl

/-- The address with a slash is the address whose path is set anew if it has none. -/
theorem withSlash_eq_setPath {u : Url} (h : u.path.IsRead (isSpecialScheme u.scheme))
    (special : isSpecialScheme u.scheme = true) :
    u.withSlash =
      if u.path.text.endsWith '/' then u else u.setPath (u.path.text ++ "/") := by
  obtain ⟨parts, path, segments, -⟩ := h.exists_segments special
  have added : ∀ p ∈ parts ++ [""], IsSegment (isSpecialScheme u.scheme) p := by
    simpa [or_imp, forall_and] using ⟨segments, isSegment_empty⟩
  have text : (Path.segments parts).text ++ "/" = (Path.segments (parts ++ [""])).text :=
    (text_append parts [""]).symm
  simp only [path, endsWith_text_segments segments, text, setPath_segments path added (by simp),
    Url.withSlash, Path.withSlash]
  split
  · rw [← path]
  · rfl

theorem withSlash_withSlash (u : Url) : u.withSlash.withSlash = u.withSlash := by
  have twice (p : Path) : p.withSlash.withSlash = p.withSlash := by
    cases p with
    | segments parts =>
      by_cases slash : parts.getLast? = some ""
      · simp only [Path.withSlash, slash, if_true]
      · simp only [Path.withSlash, slash, if_false, List.getLast?_concat, if_true]
    | plain text =>
      by_cases slash : text.endsWith "/"
      · simp only [Path.withSlash, slash, if_true]
      · have added : (text ++ "/").endsWith "/" = true := by
          rw [String.endsWith_eq_endsWith_toSlice, String.Slice.endsWith_string_iff]
          simp
        simp only [Path.withSlash, slash, added, if_true, if_false, Bool.false_eq_true]
  rw [withSlash, withSlash, twice]

/-! ### Addresses seen from others -/

/-- Seen from an address with a hierarchy, a text without marks leads along its pieces. -/
lemma join_eq_follow {base : Url} (hierarchy : base.path = .segments parts)
    (clean : cutFragment (cleaned s) = (s.toList, none)) (plain : cutScheme s.toList = none)
    (noQuery : cutQuery (isSpecialScheme base.scheme) s.toList = (s.toList, none))
    (start : s.toList.head? = some c) (below : isSlash (isSpecialScheme base.scheme) c = false) :
    base.join s =
      .ok { base with
        path := .segments (follow parts.dropLast (pieces (isSpecialScheme base.scheme) s.toList))
        query := none
        fragment := none } := by
  obtain ⟨rest, whole⟩ := List.head?_eq_some_iff.mp start
  rw [whole] at clean plain noQuery ⊢
  simp only [join, clean, plain, join.relative, hierarchy, noQuery, below]
  rfl

end LinkGauge.Url
