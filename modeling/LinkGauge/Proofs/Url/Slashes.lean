import LinkGauge.Proofs.Url.Segments
import Mathlib.Data.List.DropRight

/-!
# Slashes that are put in

An address is written with or without a slash at the end of its path, in front of query and
fragment. With it, the address with a slash is read.
-/

namespace LinkGauge.Url

/-! ### Texts in two parts -/

/-- A text is apart where a path may end: behind something that can be seen, in front of a query or
a fragment if there is one. -/
structure PartsAt (front back : String) : Prop where
  inside : ∀ c ∈ front.toList, c ≠ '?' ∧ c ≠ '#'
  visible : ∀ c ∈ front.toList.getLast?, ¬c.val ≤ 0x20
  mark : ∀ c ∈ back.toList.head?, c = '?' ∨ c = '#'

section Parts

variable {α : Type} {p : α → Bool} {xs ys : List α}

/-- What stays where it begins a text stays behind others. -/
lemma dropWhile_append_of_head? (stays : ∀ y ∈ ys.head?, p y = false) :
    (xs ++ ys).dropWhile p = xs.dropWhile p ++ ys := by
  have self : ys.dropWhile p = ys := by
    cases ys with
    | nil => rfl
    | cons y ys => exact List.dropWhile_cons_of_neg (by simpa using stays)
  rw [List.dropWhile_append, self]
  split
  next none => rw [List.isEmpty_iff.mp none, List.nil_append]
  next => rfl

lemma rdropWhile_append_of_getLast? (stays : ∀ x ∈ xs.getLast?, p x = false) :
    (xs ++ ys).rdropWhile p = xs ++ ys.rdropWhile p := by
  rw [List.rdropWhile, List.reverse_append, dropWhile_append_of_head? (by simpa using stays),
    List.reverse_append, List.reverse_reverse]
  rfl

end Parts

variable {front back : String} {cs ds : List Char}

/-- What does not count is left out of either part. -/
lemma cleaned_append (apart : PartsAt front back) :
    ∃ before after, (∀ c ∈ before, c ≠ '?' ∧ c ≠ '#') ∧ (∀ c ∈ after.head?, c = '?' ∨ c = '#') ∧
      cleaned (front ++ back) = before ++ after ∧
      cleaned (front ++ "/" ++ back) = before ++ '/' :: after := by
  let outer (c : Char) : Bool := c.val ≤ 0x20
  let counts (c : Char) : Bool := !(c == '\t' || c == '\n' || c == '\r')
  have whole (s : String) :
      cleaned s = ((s.toList.dropWhile outer).rdropWhile outer).filter counts := rfl
  have begins : ∀ c ∈ back.toList.head?, outer c = false := by
    intro c mem
    rcases apart.mark c mem with rfl | rfl <;> rfl
  have ends : ∀ c ∈ (front.toList.dropWhile outer).getLast?, outer c = false := by
    intro c mem
    have last : c ∈ front.toList.getLast? := by
      rw [← List.takeWhile_append_dropWhile (p := outer) (l := front.toList)]
      exact List.mem_getLast?_append_of_mem_getLast? mem
    simpa [outer] using apart.visible c last
  refine ⟨(front.toList.dropWhile outer).filter counts,
    (back.toList.rdropWhile outer).filter counts, ?_, ?_, ?_, ?_⟩
  · intro c mem
    exact apart.inside c ((List.dropWhile_suffix outer).mem (List.mem_of_mem_filter mem))
  · intro c mem
    cases kept : back.toList.rdropWhile outer with
    | nil =>
      rw [kept] at mem
      cases mem
    | cons d rest =>
      have first : d ∈ back.toList.head? := by
        obtain ⟨after, same⟩ := List.rdropWhile_prefix outer (l := back.toList)
        rw [← same, kept]
        rfl
      have stays : counts d = true := by
        rcases apart.mark d first with rfl | rfl <;> rfl
      rw [kept, List.filter_cons_of_pos stays] at mem
      rw [← Option.mem_some.mp mem]
      exact apart.mark d first
  · rw [whole, String.toList_append, dropWhile_append_of_head? begins,
      rdropWhile_append_of_getLast? ends, List.filter_append]
  · have slash : (front ++ "/" ++ back).toList = front.toList ++ '/' :: back.toList := by
      simp [String.toList_append]
    have behind : ∀ c ∈ (front.toList.dropWhile outer ++ ['/']).getLast?, outer c = false := by
      rw [List.getLast?_concat]
      rintro c ⟨⟩
      rfl
    rw [whole, slash, dropWhile_append_of_head? (by rintro c ⟨⟩; rfl), List.append_cons,
      rdropWhile_append_of_getLast? behind, List.filter_append, List.filter_append,
      List.append_assoc]
    rfl

lemma cutFragment_append (inside : ∀ c ∈ cs, c ≠ '#') :
    cutFragment (cs ++ ds) = (cs ++ (cutFragment ds).1, (cutFragment ds).2) := by
  have passed : ∀ c ∈ cs, (c != '#') = true := by simpa using inside
  rw [cutFragment, cutFragment, List.dropWhile_append_of_pos passed,
    List.takeWhile_append_of_pos passed]
  split <;> rfl

lemma cutQuery_append {special : Bool} (inside : ∀ c ∈ cs, c ≠ '?') :
    cutQuery special (cs ++ ds) = (cs ++ (cutQuery special ds).1, (cutQuery special ds).2) := by
  have passed : ∀ c ∈ cs, (c != '?') = true := by simpa using inside
  rw [cutQuery, cutQuery, List.dropWhile_append_of_pos passed,
    List.takeWhile_append_of_pos passed]
  split <;> rfl

/-- What is left of a query and a fragment without the fragment is a query. -/
lemma head?_cutFragment (mark : ∀ c ∈ ds.head?, c = '?' ∨ c = '#') :
    ∀ c ∈ (cutFragment ds).1.head?, c = '?' := by
  intro c mem
  cases ds with
  | nil => cases mem
  | cons d ds =>
    rcases mark d rfl with rfl | rfl
    · rw [cutFragment] at mem
      split at mem
      all_goals
        cases mem
        rfl
    · cases mem

/-- Nothing stands in front of a query. -/
lemma cutQuery_of_mark {special : Bool} (query : ∀ c ∈ ds.head?, c = '?') :
    (cutQuery special ds).1 = [] := by
  cases ds with
  | nil => rfl
  | cons d ds =>
    obtain rfl := query d rfl
    rfl

/-- A character that the name of a scheme may have. -/
def isSchemeChar (c : Char) : Bool := c.isAlphanum || c == '+' || c == '-' || c == '.'

/-- A scheme is a name in front of a colon. -/
structure Names (scheme : String) (name : List Char) : Prop where
  letter : ∃ c ∈ name.head?, c.isAlpha = true
  chars : ∀ c ∈ name, isSchemeChar c = true
  lower : scheme = String.ofList (name.map Char.toLower)

lemma cutScheme_eq_some {scheme : String} {rest : List Char} :
    cutScheme cs = some (scheme, rest) ↔ ∃ name, Names scheme name ∧ cs = name ++ ':' :: rest := by
  constructor
  · intro h
    simp only [cutScheme] at h
    split at h
    next first more rest' name behind =>
      have name' : cs.takeWhile isSchemeChar = first :: more := name
      split at h
      next letter =>
        cases h
        refine ⟨cs.takeWhile isSchemeChar, ⟨⟨first, ?_, letter⟩, ?_, rfl⟩, ?_⟩
        · rw [name']
          rfl
        · exact fun c => List.mem_takeWhile_imp
        · rw [← behind]
          exact (List.prefix_iff_eq_append.mp (List.takeWhile_prefix _)).symm
      next => cases h
    next => cases h
  · rintro ⟨name, ⟨⟨first, mem, letter⟩, chars, rfl⟩, rfl⟩
    have taken : (name ++ ':' :: rest).takeWhile isSchemeChar = name := by
      rw [List.takeWhile_append_of_pos chars, List.takeWhile_cons_of_neg (by decide),
        List.append_nil]
    unfold isSchemeChar at taken
    simp only [cutScheme, taken, List.drop_left]
    cases name with
    | nil => cases mem
    | cons c name =>
      obtain rfl := Option.mem_some.mp mem
      exact if_pos letter

/-- A scheme ends in front of a query. -/
lemma cutScheme_append {scheme : String} {rest : List Char} (query : ∀ c ∈ ds.head?, c = '?')
    (h : cutScheme (cs ++ ds) = some (scheme, rest)) :
    ∃ place, place <:+ cs ∧ rest = place ++ ds ∧
      ∀ es, cutScheme (cs ++ es) = some (scheme, place ++ es) := by
  obtain ⟨name, names, whole⟩ := cutScheme_eq_some.mp h
  rcases List.append_eq_append_iff.mp whole with ⟨more, rfl, rest'⟩ | ⟨more, rfl, rest'⟩
  · -- The name would reach into the query, or the colon stand in front of it.
    cases more with
    | nil =>
      rw [List.nil_append] at rest'
      exact absurd (query ':' (by rw [rest']; rfl)) (by decide)
    | cons c more =>
      have mark := query c (by rw [rest']; rfl)
      have char := names.chars c (by simp)
      rw [mark] at char
      exact absurd char (by decide)
  · cases more with
    | nil =>
      rw [List.nil_append] at rest'
      exact absurd (query ':' (by rw [← rest']; rfl)) (by decide)
    | cons c place =>
      obtain ⟨rfl, rfl⟩ := List.cons.inj rest'
      refine ⟨place, ?_, rfl, fun es => cutScheme_eq_some.mpr ⟨name, names, ?_⟩⟩
      · rw [List.append_cons]
        exact List.suffix_append _ _
      · simp

/-! ### Paths with a slash behind them -/

variable {place : List String} {way : List (List Char)} {special : Bool}

/-- A slash behind a way adds an empty segment, unless there is one at the end already. -/
lemma follow_concat_nil (filled : way ≠ []) (bare : (follow place way).getLast? ≠ some "") :
    follow place (way ++ [[]]) = follow place way ++ [""] := by
  fun_induction follow place way with
  | case1 => exact absurd rfl filled
  | case2 | case3 => exact absurd List.getLast?_concat bare
  | case4 place last notUp notHere =>
    rw [List.cons_append, List.nil_append, follow, if_neg notUp, if_neg notHere]
    · rfl
    · simp
  | case5 place part rest more up ih =>
    rw [List.cons_append, follow, if_pos up]
    · exact ih (fun none => more none) bare
    · simp
  | case6 place part rest more notUp here ih =>
    rw [List.cons_append, follow, if_neg notUp, if_pos here]
    · exact ih (fun none => more none) bare
    · simp
  | case7 place part rest more notUp notHere ih =>
    rw [List.cons_append, follow, if_neg notUp, if_neg notHere]
    · exact ih (fun none => more none) bare
    · simp

lemma pieces_ne_nil : pieces special cs ≠ [] := List.splitOnP_ne_nil _ _

lemma pieces_concat_slash : pieces special (cs ++ ['/']) = pieces special cs ++ [[]] := by
  rw [pieces, List.splitOnP_append_cons cs [] isSlash_slash]
  rfl

/-- Authority and path, apart at the first slash. -/
lemma afterSlashes_append {u : Url} {name path : List Char}
    (name' : ∀ c ∈ name, isSlash (isSpecialScheme u.scheme) c = false) {slash : Char}
    (first : isSlash (isSpecialScheme u.scheme) slash = true) :
    afterSlashes u (name ++ slash :: path) =
      (withAuthority u name).map fun w =>
        { w with path := .segments (follow [] (pieces (isSpecialScheme u.scheme) path)) } := by
  have taken : (name ++ slash :: path).takeWhile
      (fun c => !isSlash (isSpecialScheme u.scheme) c) = name := by
    rw [List.takeWhile_append_of_pos (by simpa using name'),
      List.takeWhile_cons_of_neg (by simpa using first), List.append_nil]
  simp only [afterSlashes, taken, List.drop_left]
  rfl

/-- Behind the slashes in front of a host, a slash at the end is one at the end of the path. -/
lemma afterSlashes_concat_slash {u v : Url} (special : isSpecialScheme u.scheme = true)
    (h : afterSlashes u cs = .ok v) (bare : v.path.text.endsWith '/' = false) :
    afterSlashes u (cs ++ ['/']) = .ok v.withSlash := by
  cases found : cs.find? (isSlash (isSpecialScheme u.scheme)) with
  | none =>
    -- An authority alone is read with a slash behind it.
    rw [special] at found
    have name : cs.takeWhile (fun c => !isSlash true c) = cs := by
      simpa using found
    simp only [afterSlashes, special, name, List.drop_length, if_true] at h
    obtain ⟨w, -, h⟩ := bind_eq_ok.mp h
    cases h
    have empty : ∀ p ∈ [""], IsSegment true p := List.forall_mem_singleton.mpr isSegment_empty
    exact absurd (((endsWith_text_segments empty).mpr rfl).symm.trans bare) (by decide)
  | some slash =>
    obtain ⟨first, name, path, rfl, inside⟩ := List.find?_eq_some_iff_append.mp found
    rw [afterSlashes_append (by simpa using inside) first] at h
    obtain ⟨w, authority, rfl⟩ := map_eq_ok.mp h
    have segments : ∀ p ∈ follow [] (pieces (isSpecialScheme u.scheme) path),
        IsSegment (isSpecialScheme u.scheme) p :=
      forall_mem_follow forall_mem_pieces (List.forall_mem_nil _)
    have last : (follow [] (pieces (isSpecialScheme u.scheme) path)).getLast? ≠ some "" := by
      rw [Ne, ← endsWith_text_segments segments, bare]
      exact Bool.false_ne_true
    rw [List.append_assoc, List.cons_append, afterSlashes_append (by simpa using inside) first,
      authority, pieces_concat_slash, follow_concat_nil pieces_ne_nil last, withSlash,
      Path.withSlash, if_neg last]
    rfl

/-! ### Addresses with a slash put in -/

/-- Behind a scheme of the web, a slash at the end is one at the end of the path. -/
lemma afterScheme_concat_slash {u v : Url} (web : u.scheme = "http" ∨ u.scheme = "https")
    (h : afterScheme u cs = .ok v) (bare : v.path.text.endsWith '/' = false) :
    afterScheme u (cs ++ ['/']) = .ok v.withSlash := by
  have noFile : u.scheme ≠ "file" := by
    rcases web with web | web <;> rw [web] <;> decide
  have special : isSpecialScheme u.scheme = true := by
    rcases web with web | web <;> rw [web] <;> decide
  have reading (es : List Char) :
      afterScheme u es = afterSlashes u (es.dropWhile (isSlash true)) := by
    unfold afterScheme
    rw [if_neg noFile, if_pos special]
  rw [reading] at h ⊢
  have host : cs.dropWhile (isSlash true) ≠ [] := by
    intro none
    simp [none, afterSlashes, withAuthority, cutUser, cutPort, special] at h
    cases h
  rw [List.dropWhile_append, if_neg (by simpa using host)]
  exact afterSlashes_concat_slash special h bare

/-- An address that is written with a slash at the end of its path is the address with a slash. -/
theorem parse_slash {u : Url} (web : u.scheme = "http" ∨ u.scheme = "https")
    (bare : u.path.text.endsWith '/' = false) (apart : PartsAt front back)
    (read : parse (front ++ back) = .ok u) :
    parse (front ++ "/" ++ back) = .ok u.withSlash := by
  obtain ⟨before, after, inside, mark, clean, slashed⟩ := cleaned_append apart
  have query := head?_cutFragment mark
  simp only [parse, clean, cutFragment_append fun c mem => (inside c mem).2] at read
  split at read
  next => cases read
  next scheme rest named =>
    obtain ⟨place, within, rfl, named'⟩ := cutScheme_append query named
    have free : ∀ c ∈ place, c ≠ '?' := fun c mem => (inside c (within.mem mem)).1
    rw [cutQuery_append free] at read
    obtain ⟨v, reading, read⟩ := bind_eq_ok.mp read
    cases read
    rw [cutQuery_of_mark query, List.append_nil] at reading
    have scheme' := (afterScheme_isRead reading).1
    have slash := afterScheme_concat_slash (by rw [← scheme']; exact web) reading bare
    have cut : cutFragment (before ++ '/' :: after) =
        (before ++ '/' :: (cutFragment after).1, (cutFragment after).2) := by
      rw [List.append_cons, cutFragment_append, ← List.append_cons]
      simpa [or_imp, forall_and] using fun c mem => (inside c mem).2
    have cut' : cutQuery (isSpecialScheme scheme) (place ++ '/' :: (cutFragment after).1) =
        (place ++ ['/'], (cutQuery (isSpecialScheme scheme) (cutFragment after).1).2) := by
      rw [List.append_cons, cutQuery_append, cutQuery_of_mark query, List.append_nil]
      simpa [or_imp, forall_and] using free
    simp only [parse, slashed, cut, named', cut', slash]
    rfl

/-- An address that was read is another one with a slash put at the end of its path, where there is
none. -/
structure AddsSlash (u v : Url) : Prop where
  read : ∃ text, parse text = .ok v
  bare : u.path.text.endsWith '/' = false
  path : v.path.text = u.path.text ++ "/"
  rest : { v with path := u.path } = u

section Adding

variable {u v : Url} (h : u.path.IsRead (isSpecialScheme u.scheme))
  (always : isSpecialScheme u.scheme = true)

include h always

lemma addsSlash_withSlash (bare : u.path.text.endsWith '/' = false)
    (read : ∃ text, parse text = .ok u.withSlash) : AddsSlash u u.withSlash :=
  ⟨read, bare, text_withSlash h always bare, rfl⟩

/-- There is only one such address. -/
lemma AddsSlash.eq_withSlash (adds : AddsSlash u v) : v = u.withSlash := by
  have scheme : v.scheme = u.scheme := by
    have same := congrArg Url.scheme adds.rest
    exact same
  obtain ⟨text, read⟩ := adds.read
  have path := parse_isRead read
  rw [scheme] at path
  have same : v.path = u.withSlash.path :=
    path.eq_of_text h.withSlash always
      (adds.path.trans (text_withSlash h always adds.bare).symm)
  calc v = { ({ v with path := u.path } : Url) with path := v.path } := rfl
    _ = { u with path := v.path } := by rw [adds.rest]
    _ = u.withSlash := by rw [same]; rfl

end Adding

end LinkGauge.Url
