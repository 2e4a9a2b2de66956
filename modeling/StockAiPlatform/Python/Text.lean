import Mathlib.Data.List.Infix
import Mathlib.Tactic.Common

/-! # The Python text operations the broker code relies on

Texts are lists of code points, and where the surrogates that JSON escapes may
leave alone matter, lists of those, too. Case folding is Python's, restricted to
what can meet an ASCII pattern: outside ASCII only U+212A lowers to a letter of
its own, and only U+0131 and U+017F raise to one.
-/

namespace StockAiPlatform.Python
set_option autoImplicit false

abbrev Text := List Char

/-- `str.lower` at one code point. U+0130 lowers to two code points, the second
of them outside ASCII, so it never completes an ASCII pattern and is kept. -/
def lowerChar (c : Char) : Char := if c = '\u212a' then 'k' else c.toLower

/-- `str.upper` at one code point; the expansions to several are left out, as
none of them spells two adjacent letters of a pattern in use. -/
def upperChar (c : Char) : Char :=
  if c = '\u0131' then 'I' else if c = '\u017f' then 'S' else c.toUpper

def lower (t : Text) : Text := t.map lowerChar

def upper (t : Text) : Text := t.map upperChar

/-- `str.isspace` at one code point. -/
def isSpace (c : Char) : Bool :=
  [0x9, 0xa, 0xb, 0xc, 0xd, 0x1c, 0x1d, 0x1e, 0x1f, 0x20, 0x85, 0xa0, 0x1680, 0x2000, 0x2001,
    0x2002, 0x2003, 0x2004, 0x2005, 0x2006, 0x2007, 0x2008, 0x2009, 0x200a, 0x2028, 0x2029,
    0x202f, 0x205f, 0x3000].contains c.toNat

section CodePoints

variable {α : Type}

/-- `strip` where `space` are the code points it takes off. -/
def stripBy (space : α → Bool) (t : List α) : List α :=
  ((t.dropWhile space).reverse.dropWhile space).reverse

theorem dropWhile_eq_self {p : α → Bool} {t : List α} (h : ∀ c ∈ t.head?, p c = false) :
    t.dropWhile p = t := by
  cases t with
  | nil => rfl
  | cons c t => exact List.dropWhile_cons_of_neg (ne_true_of_eq_false (h c rfl))

/-- Stripping leaves a beginning without spaces where it is. -/
theorem prefix_stripBy {space : α → Bool} {start rest : List α} (hNil : start ≠ [])
    (hSpace : ∀ c ∈ start, space c = false) : start <+: stripBy space (start ++ rest) := by
  have hHead : (start ++ rest).dropWhile space = start ++ rest := by
    apply dropWhile_eq_self
    intro c hc
    rw [List.head?_append_of_ne_nil _ hNil] at hc
    exact hSpace c (List.mem_of_mem_head? hc)
  have hLast : start.reverse.dropWhile space = start.reverse := by
    apply dropWhile_eq_self
    intro c hc
    exact hSpace c (List.mem_reverse.mp (List.mem_of_mem_head? hc))
  rw [stripBy, hHead, List.reverse_append, List.dropWhile_append]
  split
  · rw [hLast, List.reverse_reverse]
  · rw [List.reverse_append, List.reverse_reverse]
    exact List.prefix_append _ _

variable [DecidableEq α]

/-- `text.split(sep, 1)[0]`. -/
def splitHead (sep : α) (t : List α) : List α := t.takeWhile (· ≠ sep)

/-- `pattern in text`. -/
def isIn (pattern t : List α) : Bool := decide (pattern <:+: t)

theorem isIn_iff {pattern t : List α} : isIn pattern t = true ↔ pattern <:+: t := decide_eq_true_iff

end CodePoints

def strip (t : Text) : Text := stripBy isSpace t

/-- `re.IGNORECASE` for a lower-case pattern letter. -/
def sameIgnoringCase (p c : Char) : Bool :=
  lowerChar c == p || (p == 'i' && (c == '\u0130' || c == '\u0131')) || (p == 's' && c == '\u017f')

def matchesHere : Text → Text → Bool
  | [], _ => true
  | _ :: _, [] => false
  | p :: pattern, c :: t => sameIgnoringCase p c && matchesHere pattern t

/-- A code point of a Python `str`: a character, or a surrogate that stands alone. -/
inductive CodePoint where
  | scalar (c : Char)
  | surrogate (offset : Fin 0x800)
  deriving DecidableEq, Repr

namespace CodePoint

def isScalar : CodePoint → Bool
  | scalar _ => true
  | surrogate _ => false

def char? : CodePoint → Option Char
  | scalar c => some c
  | surrogate _ => none

def lower : CodePoint → CodePoint
  | scalar c => scalar (lowerChar c)
  | surrogate offset => surrogate offset

def upper : CodePoint → CodePoint
  | scalar c => scalar (upperChar c)
  | surrogate offset => surrogate offset

def isSpace : CodePoint → Bool
  | scalar c => Python.isSpace c
  | surrogate _ => false

def sameIgnoringCase : CodePoint → CodePoint → Bool
  | scalar p, scalar c => Python.sameIgnoringCase p c
  | p, c => p == c

end CodePoint

/-- A Python `str`, of which a `Text` is one that can be encoded. -/
abbrev Str := List CodePoint

namespace Str

def ofText (t : Text) : Str := t.map .scalar

instance : Coe String Str := ⟨fun text => ofText text.toList⟩

def isEncodable (t : Str) : Bool := t.all CodePoint.isScalar

/-- `text.encode()`; `none` is its `UnicodeEncodeError`, which a driver raises too. -/
def encode? (t : Str) : Option String :=
  if t.isEncodable then some (String.ofList (t.filterMap CodePoint.char?)) else none

def lower (t : Str) : Str := t.map CodePoint.lower

def upper (t : Str) : Str := t.map CodePoint.upper

def strip (t : Str) : Str := stripBy CodePoint.isSpace t

def matchesHere : Str → Str → Bool
  | [], _ => true
  | _ :: _, [] => false
  | p :: pattern, c :: t => p.sameIgnoringCase c && matchesHere pattern t

/-- The scan behind `re.sub`: `skip` code points of the last match are still to be passed. -/
def subScan (pattern replacement : Str) : Nat → Str → Str
  | _, [] => []
  | skip + 1, _ :: t => subScan pattern replacement skip t
  | 0, c :: t =>
    if matchesHere pattern (c :: t) then
      replacement ++ subScan pattern replacement (pattern.length - 1) t
    else c :: subScan pattern replacement 0 t

/-- `re.compile(re.escape(pattern), re.IGNORECASE).sub(replacement, text)`. -/
def subIgnoringCase (pattern replacement t : Str) : Str := subScan pattern replacement 0 t

theorem ofText_injective : Function.Injective ofText :=
  List.map_injective_iff.mpr fun _ _ => CodePoint.scalar.inj

theorem ofText_append (t u : Text) : ofText (t ++ u) = ofText t ++ ofText u := List.map_append

theorem isEncodable_ofText (t : Text) : (ofText t).isEncodable = true := by
  simp [isEncodable, ofText, CodePoint.isScalar]

theorem encode?_isSome (t : Str) : t.encode?.isSome = t.isEncodable := by
  rw [encode?]
  cases t.isEncodable <;> rfl

theorem matchesHere_of_prefix_lower {pattern t : Str} (h : pattern <+: lower t) :
    matchesHere pattern t = true := by
  induction pattern generalizing t with
  | nil => rfl
  | cons p pattern ih =>
    cases t with
    | nil => simp [lower] at h
    | cons c t =>
      obtain ⟨rfl, hTail⟩ := List.cons_prefix_cons.mp h
      rw [matchesHere, ih hTail, Bool.and_true]
      cases c with
      | scalar c => simp [CodePoint.lower, CodePoint.sameIgnoringCase, Python.sameIgnoringCase]
      | surrogate offset => exact beq_self_eq_true _

/-- A text that starts with `mark` and holds nothing else, such as `***`. -/
structure IsMarks (mark : CodePoint) (replacement : Str) : Prop where
  ne_nil : replacement ≠ []
  only : ∀ c ∈ replacement, c = mark
  fixed : mark.lower = mark

section Redaction

variable {mark : CodePoint} {replacement : Str}

theorem infix_of_infix_marks_append (hFixed : mark.lower = mark) {q : Str} (hNil : q ≠ [])
    (hq : mark ∉ q) (marks rest : Str) (hOnly : ∀ c ∈ marks, c = mark)
    (h : q <:+: lower (marks ++ rest)) : q <:+: lower rest := by
  induction marks with
  | nil => exact h
  | cons c marks ih =>
    rw [List.forall_mem_cons] at hOnly
    rcases List.infix_cons_iff.mp h with hPrefix | hInfix
    · cases q with
      | nil => exact absurd rfl hNil
      | cons a q =>
        have hHead := (List.cons_prefix_cons.mp hPrefix).1
        rw [hOnly.1, hFixed] at hHead
        exact absurd (hHead ▸ List.mem_cons_self) hq
    · exact ih hOnly.2 hInfix

theorem prefix_of_prefix_subScan (hMarks : IsMarks mark replacement) (pattern : Str) {q t : Str}
    (hq : mark ∉ q) (h : q <+: lower (subScan pattern replacement 0 t)) : q <+: lower t := by
  induction t generalizing q with
  | nil => exact h
  | cons c t ih =>
    cases q with
    | nil => exact List.nil_prefix
    | cons a q =>
      rw [List.mem_cons, not_or] at hq
      rw [subScan] at h
      split at h
      · obtain ⟨b, tail, rfl⟩ := List.exists_cons_of_ne_nil hMarks.ne_nil
        have hHead := (List.cons_prefix_cons.mp h).1
        rw [hMarks.only b List.mem_cons_self, hMarks.fixed] at hHead
        exact absurd hHead.symm hq.1
      · obtain ⟨hHead, hTail⟩ := List.cons_prefix_cons.mp h
        exact List.cons_prefix_cons.mpr ⟨hHead, ih hq.2 hTail⟩

/-- Substituting marks creates no new occurrence of a mark-free pattern. -/
theorem infix_of_infix_subScan (hMarks : IsMarks mark replacement) (pattern : Str) {q t : Str}
    (hNil : q ≠ []) (hq : mark ∉ q) {skip : Nat}
    (h : q <:+: lower (subScan pattern replacement skip t)) : q <:+: lower t := by
  induction t generalizing skip with
  | nil => exact absurd (List.eq_nil_of_infix_nil h) hNil
  | cons c t ih =>
    have hStep : q <:+: lower t → q <:+: lower (c :: t) :=
      fun hIn => List.infix_cons_iff.mpr (.inr hIn)
    cases skip with
    | succ skip => exact hStep (ih h)
    | zero =>
      by_cases hHere : matchesHere pattern (c :: t) = true
      · rw [subScan, if_pos hHere] at h
        exact hStep (ih (infix_of_infix_marks_append hMarks.fixed hNil hq _ _ hMarks.only h))
      · rw [subScan, if_neg hHere] at h
        rcases List.infix_cons_iff.mp h with hPrefix | hInfix
        · have hKept : q <+: lower (subScan pattern replacement 0 (c :: t)) := by
            rw [subScan, if_neg hHere]
            exact hPrefix
          exact (prefix_of_prefix_subScan hMarks pattern hq hKept).isInfix
        · exact hStep (ih hInfix)

theorem not_infix_subScan (hMarks : IsMarks mark replacement) {pattern : Str} (hNil : pattern ≠ [])
    (hPattern : mark ∉ pattern) (skip : Nat) (t : Str) :
    ¬ pattern <:+: lower (subScan pattern replacement skip t) := by
  induction t generalizing skip with
  | nil => exact fun h => hNil (List.eq_nil_of_infix_nil h)
  | cons c t ih =>
    intro h
    cases skip with
    | succ skip => exact ih skip h
    | zero =>
      by_cases hHere : matchesHere pattern (c :: t) = true
      · rw [subScan, if_pos hHere] at h
        exact ih _ (infix_of_infix_marks_append hMarks.fixed hNil hPattern _ _ hMarks.only h)
      · rw [subScan, if_neg hHere] at h
        rcases List.infix_cons_iff.mp h with hPrefix | hInfix
        · -- A fresh occurrence at the kept code point would have been matched there.
          have hKept := prefix_of_prefix_subScan hMarks pattern hPattern (t := c :: t)
            (by rw [subScan, if_neg hHere]; exact hPrefix)
          exact hHere (matchesHere_of_prefix_lower hKept)
        · exact ih 0 hInfix

end Redaction

end Str

section Infix

variable {keyword t u : Text} {c : Char}

theorem prefix_append_cons_iff (h : c ∉ keyword) : keyword <+: t ++ c :: u ↔ keyword <+: t := by
  induction t generalizing keyword with
  | nil =>
    cases keyword with
    | nil => simp
    | cons d keyword =>
      have hOther : d ≠ c := fun hSame => h (hSame ▸ List.mem_cons_self)
      simp [List.cons_prefix_cons, hOther]
  | cons d t ih =>
    cases keyword with
    | nil => simp
    | cons e keyword =>
      rw [List.cons_append, List.cons_prefix_cons, List.cons_prefix_cons,
        ih fun hMem => h (List.mem_cons_of_mem e hMem)]

theorem infix_append_cons_iff (h : c ∉ keyword) :
    keyword <:+: t ++ c :: u ↔ keyword <:+: t ∨ keyword <:+: u := by
  induction t with
  | nil =>
    rw [List.nil_append, List.infix_cons_iff, List.infix_nil,
      ← List.nil_append (c :: u), prefix_append_cons_iff h, List.prefix_nil]
  | cons d t ih =>
    rw [List.cons_append, List.infix_cons_iff, List.infix_cons_iff, ih, ← List.cons_append,
      prefix_append_cons_iff h, or_assoc]

/-- A keyword without the separator lies in one of the parts. -/
theorem infix_intercalate_iff (hNil : keyword ≠ []) (h : c ∉ keyword) (parts : List Text) :
    keyword <:+: [c].intercalate parts ↔ ∃ part ∈ parts, keyword <:+: part := by
  induction parts with
  | nil => simp [List.intercalate_nil, hNil]
  | cons part parts ih =>
    cases parts with
    | nil => simp [List.intercalate_singleton]
    | cons next parts =>
      rw [List.intercalate_cons_cons, List.append_assoc, List.singleton_append,
        infix_append_cons_iff h, ih]
      simp only [List.exists_mem_cons_iff]

theorem lower_intercalate (parts : List Text) :
    lower ([' '].intercalate parts) = [' '].intercalate (parts.map lower) := by
  induction parts with
  | nil => rfl
  | cons part parts ih =>
    cases parts with
    | nil => simp [List.intercalate_singleton]
    | cons next parts =>
      rw [List.map_cons, List.map_cons, List.intercalate_cons_cons, List.intercalate_cons_cons,
        ← List.map_cons, ← ih, lower, List.map_append, List.map_append]
      rfl

end Infix

end StockAiPlatform.Python
