import Mathlib.Data.List.Basic
import Mathlib.Tactic.SplitIfs

/-! Paths as a Unix host reads them, without looking at the disk. -/

namespace OptimiqVoice.Lib.FilePath

abbrev Element := List Char

variable (path : List Char)

def split : List Element := path.splitOn '/'

def joined (elements : List Element) : List Char := ['/'].intercalate elements

def isAbs : Bool := path.head? == some '/'

/-- One element is appended to a cleaned path; a rooted one does not lead above
the root. -/
def push (rooted : Bool) (out : List Element) (e : Element) : List Element :=
  if e = [] ∨ e = ['.'] then out
  else if e = ['.', '.'] then
    match out.getLast? with
    | none => if rooted then out else [e]
    | some last => if last = ['.', '.'] then out ++ [e] else out.dropLast
  else out ++ [e]

def clean : List Char :=
  if isAbs path then '/' :: joined ((split path).foldl (push true) [])
  else
    match (split path).foldl (push false) [] with
    | [] => ['.']
    | elements => joined elements

/-- Leading elements that are empty are ignored, and the result is cleaned. -/
def join (elements : List (List Char)) : List Char :=
  match elements.dropWhile List.isEmpty with
  | [] => []
  | elements => clean (joined elements)

/-- The part of the last element from its last dot on. -/
def ext : List Char :=
  let back := path.reverse.takeWhile (· ≠ '/')
  if '.' ∈ back then '.' :: (back.takeWhile (· ≠ '.')).reverse else []

/-- An element that names something in the directory it is read in. -/
structure Plain (e : Element) : Prop where
  nonempty : e ≠ []
  whole : '/' ∉ e
  not_dot : e ≠ ['.']
  not_dots : e ≠ ['.', '.']

def parts : List Element := (split path).filter fun e => e ≠ []

/-- A cleaned path that leads into a directory, and further. -/
structure Inside (dir path : List Char) : Prop where
  clean : FilePath.clean path = path
  isAbs : FilePath.isAbs path = true
  below : ∃ rest, rest ≠ [] ∧ parts path = parts dir ++ rest

/-- The rooted path through plain elements. -/
def render (elements : List Element) : List Char := '/' :: joined elements

section clean

variable {p q root key : List Char} {es out : List Element}

theorem split_append (p q : List Char) : split (p ++ '/' :: q) = split p ++ split q :=
  List.splitOnP_append_cons p q (by simp)

theorem parts_append (p q : List Char) : parts (p ++ '/' :: q) = parts p ++ parts q := by
  rw [parts, split_append, List.filter_append, parts, parts]

variable {e : Element}

theorem not_mem_of_mem_split (h : e ∈ split p) : '/' ∉ e := by
  induction p generalizing e with
  | nil =>
    obtain rfl : e = [] := by simpa [split] using h
    simp
  | cons c p ih =>
    rw [split, List.splitOn_cons_eq_if_modifyHead] at h
    split_ifs at h with hc
    · obtain rfl | h := List.mem_cons.mp h
      · simp
      · exact ih h
    · -- the character goes to the front of the first element
      obtain ⟨first, rest, hsplit⟩ := List.exists_cons_of_ne_nil (List.splitOn_ne_nil '/' p)
      rw [hsplit, List.modifyHead_cons] at h
      obtain rfl | h := List.mem_cons.mp h
      · have hfirst : '/' ∉ first := ih (by rw [split, hsplit]; exact .head _)
        simpa [hfirst] using Ne.symm (by simpa using hc)
      · exact ih (by rw [split, hsplit]; exact .tail _ h)

theorem push_plain (rooted : Bool) (out : List Element) (h : Plain e) :
    push rooted out e = out ++ [e] := by
  simp [push, h.nonempty, h.not_dot, h.not_dots]

theorem foldl_push_plain (rooted : Bool) (out : List Element) (h : ∀ e ∈ es, Plain e) :
    es.foldl (push rooted) out = out ++ es := by
  induction es generalizing out with
  | nil => simp
  | cons e es ih =>
    rw [List.foldl_cons, push_plain rooted out (h e List.mem_cons_self),
      ih _ fun e' he' => h e' (.tail _ he'), List.append_assoc, List.singleton_append]

theorem plain_push (hout : ∀ x ∈ out, Plain x) (he : '/' ∉ e) :
    ∀ x ∈ push true out e, Plain x := by
  by_cases hskip : e = [] ∨ e = ['.']
  · rw [push, if_pos hskip]
    exact hout
  · by_cases hdots : e = ['.', '.']
    · rw [push, if_neg hskip, if_pos hdots]
      cases hlast : out.getLast? with
      | none => exact hout
      | some last =>
        have hplain := hout last (List.mem_of_getLast? hlast)
        intro x hx
        simp only [hplain.not_dots, if_false] at hx
        exact hout x (List.dropLast_subset out hx)
    · push Not at hskip
      have hplain : Plain e := ⟨hskip.1, he, hskip.2, hdots⟩
      rw [push_plain true out hplain]
      intro x hx
      obtain hx | hx := List.mem_append.mp hx
      · exact hout x hx
      · obtain rfl := List.mem_singleton.mp hx
        exact hplain

theorem plain_foldl_push (hout : ∀ x ∈ out, Plain x) (hes : ∀ e ∈ es, '/' ∉ e) :
    ∀ x ∈ es.foldl (push true) out, Plain x := by
  induction es generalizing out with
  | nil => exact hout
  | cons e es ih =>
    rw [List.foldl_cons]
    apply ih (plain_push hout (hes e List.mem_cons_self))
    intro e' he'
    exact hes e' (.tail _ he')

theorem split_render (es : List Element) : split (render es) = [] :: split (joined es) := by
  have heq : render es = [] ++ '/' :: joined es := rfl
  rw [heq, split_append]
  rfl

section

variable (h : ∀ e ∈ es, Plain e)

include h

theorem parts_render : parts (render es) = es := by
  rw [parts, split_render]
  cases es with
  | nil => rfl
  | cons e es =>
    rw [split, joined, List.splitOn_intercalate '/' (fun e he => (h e he).whole) (by simp)]
    simpa using ⟨(h e List.mem_cons_self).nonempty,
      fun e' he' => (h e' (.tail _ he')).nonempty⟩

theorem foldl_push_render :
    (split (render es)).foldl (push true) [] = es := by
  rw [split_render, List.foldl_cons]
  cases es with
  | nil => rfl
  | cons e es =>
    rw [split, joined, List.splitOn_intercalate '/' (fun e he => (h e he).whole) (by simp),
      foldl_push_plain true _ h]
    rfl

theorem clean_render : clean (render es) = render es := by
  have habs : isAbs (render es) = true := rfl
  rw [clean, if_pos habs, foldl_push_render h, render]

end

theorem exists_render (h : isAbs p) : ∃ es, (∀ e ∈ es, Plain e) ∧ clean p = render es := by
  refine ⟨(split p).foldl (push true) [], plain_foldl_push (by simp) ?_, ?_⟩
  · intro e he
    exact not_mem_of_mem_split he
  · rw [clean, if_pos h, render]

theorem join_render (h : ∀ e ∈ es, Plain e) (key : List Char) :
    join [render es, key] = render ((split key).foldl (push true) es) := by
  have hjoin : join [render es, key] = clean (render es ++ '/' :: key) := by
    simp [join, render, joined, List.intercalate, List.isEmpty]
  have habs : isAbs (render es ++ '/' :: key) = true := rfl
  rw [hjoin, clean, if_pos habs, split_append, List.foldl_append, foldl_push_render h, render]

theorem inside_of_append (hroot : clean root = root) (habs : isAbs root) (hclean : clean p = p)
    (hpabs : isAbs p) (h : p = root ++ '/' :: q) : Inside root p := by
  refine ⟨hclean, hpabs, parts q, ?_, by rw [h, parts_append]⟩
  intro hnone
  obtain ⟨rs, hrs, hr⟩ := exists_render habs
  obtain ⟨ps, hps, hp⟩ := exists_render hpabs
  rw [hroot] at hr
  rw [hclean] at hp
  have hparts : ps = rs := by
    have heq : parts p = parts root := by rw [h, parts_append, hnone, List.append_nil]
    rwa [hp, hr, parts_render hps, parts_render hrs] at heq
  have hlength : p.length = root.length := by rw [hp, hr, hparts]
  rw [h, List.length_append, List.length_cons] at hlength
  omega

theorem joined_append (es : List Element) (e x : Element) :
    joined (es ++ [e]) ++ x = joined (es ++ [e ++ x]) := by
  induction es with
  | nil => simp [joined]
  | cons a es ih =>
    have hcons : ∀ y : Element, joined (a :: (es ++ [y])) = a ++ '/' :: joined (es ++ [y]) := by
      intro y
      obtain ⟨b, rest, hb⟩ := List.exists_cons_of_ne_nil (l := es ++ [y]) (by simp)
      rw [hb, joined, joined, List.intercalate_cons_cons, List.append_assoc, List.singleton_append]
    rw [List.cons_append, List.cons_append, hcons, hcons, List.append_assoc, List.cons_append, ih]

theorem render_append (es : List Element) (e x : Element) :
    render (es ++ [e]) ++ x = render (es ++ [e ++ x]) := by
  rw [render, render, List.cons_append, joined_append]

end clean

end OptimiqVoice.Lib.FilePath
