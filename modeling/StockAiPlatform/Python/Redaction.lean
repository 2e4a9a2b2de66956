import StockAiPlatform.Python.Text
import Mathlib.Data.List.TakeWhile

/-! # Redacted values

`re.sub` for a pattern `(key|...)=[^...]+` whose match keeps the key and loses the
value. No key has a separator in it, so a match always ends its key at the first one.
-/

namespace StockAiPlatform.Python
set_option autoImplicit false

theorem eq_false_of_all_not {f : Char → Bool} {text : Text} (h : (text.all fun c => !f c) = true) :
    ∀ c ∈ text, f c = false :=
  fun c hc => (Bool.not_eq_true' _).mp (List.all_eq_true.mp h c hc)

/-- The keys, read ignoring case, what ends a value, and what stands for it afterwards. -/
structure Redactor where
  keys : List Text
  sep : Char
  stop : Char → Bool
  mask : Text
  sep_key : ∀ key ∈ keys, ∀ p ∈ key, sameIgnoringCase p sep = false
  stop_key : ∀ key ∈ keys, ∀ p ∈ key, ∀ c, sameIgnoringCase p c = true → stop c = false
  stop_sep : stop sep = false
  mask_ne_nil : mask ≠ []
  stop_mask : ∀ c ∈ mask, stop c = false
  sep_mask : sep ∉ mask

namespace Redactor

variable (r : Redactor)

/-- A separator, and a value of at least one code point. -/
def follows : Text → Bool
  | s :: c :: _ => s == r.sep && !r.stop c
  | _ => false

def holds (t key : Text) : Bool := matchesHere key t && r.follows (t.drop key.length)

/-- The length of the key of a match at the start of the text. -/
def keyAt (t : Text) : Option Nat := (r.keys.find? (r.holds t)).map List.length

/-- The scan behind `re.sub`: `skip` code points of the last match are still to be passed. -/
def scan : Nat → Text → Text
  | _, [] => []
  | skip + 1, _ :: t => scan skip t
  | 0, c :: t =>
    match r.keyAt (c :: t) with
    | some n =>
      (c :: t).take (n + 1) ++ r.mask ++
        scan (n + (((c :: t).drop (n + 1)).takeWhile fun c => !r.stop c).length) t
    | none => c :: scan 0 t

def redact (t : Text) : Text := r.scan 0 t

/-- A key in any case. -/
def isKey (w : Text) : Bool := r.keys.any fun key => key.length == w.length && matchesHere key w

def StopFree (w : Text) : Prop := ∀ c ∈ w, r.stop c = false

section Keys

variable {r} {w rest : Text}

theorem holds_eq (hSep : r.sep ∉ w) {key : Text} (hKey : key ∈ r.keys) :
    r.holds (w ++ r.sep :: rest) key =
      (key.length == w.length && matchesHere key w && rest.head?.any fun c => !r.stop c) := by
  have hAll := r.sep_key key hKey
  clear hKey
  rw [holds]
  induction key generalizing w with
  | nil =>
    cases w with
    | nil => cases rest <;> simp [matchesHere, follows]
    | cons c w =>
      have hOther : c ≠ r.sep := fun h => hSep (h ▸ List.mem_cons_self)
      cases hRest : w ++ r.sep :: rest with
      | nil => simp at hRest
      | cons d t => simp [matchesHere, follows, hRest, hOther]
  | cons p key ih =>
    cases w with
    | nil => simp [matchesHere, hAll p List.mem_cons_self]
    | cons c w =>
      have hTail := ih (fun h => hSep (List.mem_cons_of_mem c h))
        fun q hq => hAll q (List.mem_cons_of_mem p hq)
      simp only [List.cons_append, matchesHere, List.length_cons, List.drop_succ_cons, Bool.and_assoc,
        hTail]
      cases sameIgnoringCase p c <;> simp

theorem keyAt_eq (hSep : r.sep ∉ w) : r.keyAt (w ++ r.sep :: rest) =
    if r.isKey w && rest.head?.any (fun c => !r.stop c) then some w.length else none := by
  rw [keyAt]
  cases hFind : r.keys.find? (r.holds (w ++ r.sep :: rest)) with
  | some key =>
    have hMem := List.mem_of_find?_eq_some hFind
    have hHolds := List.find?_some hFind
    rw [holds_eq hSep hMem, Bool.and_eq_true] at hHolds
    have hKey : r.isKey w = true := List.any_eq_true.mpr ⟨key, hMem, hHolds.1⟩
    rw [Bool.and_eq_true, beq_iff_eq] at hHolds
    rw [hKey, hHolds.2, Option.map_some, hHolds.1.1]
    rfl
  | none =>
    rw [Option.map_none, if_neg]
    rw [Bool.and_eq_true, isKey, List.any_eq_true]
    rintro ⟨⟨key, hMem, hKey⟩, hHead⟩
    have hNone := List.find?_eq_none.mp hFind key hMem
    rw [holds_eq hSep hMem, hKey, hHead] at hNone
    exact hNone rfl

theorem keyAt_of_sep_notMem (h : r.sep ∉ w) : r.keyAt w = none := by
  rw [keyAt, Option.map_eq_none_iff, List.find?_eq_none]
  intro key _ hHolds
  rw [holds, Bool.and_eq_true] at hHolds
  cases hDrop : w.drop key.length with
  | nil => simp [hDrop, follows] at hHolds
  | cons c t =>
    have hMem : c ∈ w := List.mem_of_mem_drop (hDrop ▸ List.mem_cons_self)
    have hOther : c ≠ r.sep := fun hSame => h (hSame ▸ hMem)
    cases t <;> simp [hDrop, follows, hOther] at hHolds

theorem stopFree_of_matches {key : Text}
    (hKey : ∀ p ∈ key, ∀ c, sameIgnoringCase p c = true → r.stop c = false) (hLength : key.length = w.length) (h : matchesHere key w = true) : r.StopFree w := by
  induction key generalizing w with
  | nil =>
    cases List.length_eq_zero_iff.mp hLength.symm
    exact fun c hc => absurd hc List.not_mem_nil
  | cons p key ih =>
    cases w with
    | nil => cases hLength
    | cons c w =>
      rw [matchesHere, Bool.and_eq_true] at h
      have hRest := ih (fun q hq => hKey q (List.mem_cons_of_mem p hq)) (Nat.succ.inj hLength) h.2
      exact List.forall_mem_cons.mpr ⟨hKey p List.mem_cons_self c h.1, hRest⟩

theorem stopFree_of_isKey (h : r.isKey w = true) : r.StopFree w := by
  obtain ⟨key, hMem, hKey⟩ := List.any_eq_true.mp h
  rw [Bool.and_eq_true, beq_iff_eq] at hKey
  exact stopFree_of_matches (r.stop_key key hMem) hKey.1 hKey.2

theorem sep_notMem_of_matches {key : Text} (hKey : ∀ p ∈ key, sameIgnoringCase p r.sep = false)
    (hLength : key.length = w.length) (h : matchesHere key w = true) : r.sep ∉ w := by
  induction key generalizing w with
  | nil =>
    cases List.length_eq_zero_iff.mp hLength.symm
    exact List.not_mem_nil
  | cons p key ih =>
    cases w with
    | nil => cases hLength
    | cons c w =>
      rw [matchesHere, Bool.and_eq_true] at h
      have hRest := ih (fun q hq => hKey q (List.mem_cons_of_mem p hq)) (Nat.succ.inj hLength) h.2
      rw [List.mem_cons, not_or]
      refine ⟨fun hSame => ?_, hRest⟩
      rw [← hSame, hKey p List.mem_cons_self] at h
      cases h.1

theorem sep_notMem_of_isKey (h : r.isKey w = true) : r.sep ∉ w := by
  obtain ⟨key, hMem, hKey⟩ := List.any_eq_true.mp h
  rw [Bool.and_eq_true, beq_iff_eq] at hKey
  exact sep_notMem_of_matches (r.sep_key key hMem) hKey.1 hKey.2

/-- Only the first code point of a value counts for a match. -/
theorem keyAt_congr (x : Text) {v u : Text} (hValue : (v.head?.any fun c => !r.stop c) = true)
    (hOther : (u.head?.any fun c => !r.stop c) = true) :
    r.keyAt (x ++ r.sep :: v) = r.keyAt (x ++ r.sep :: u) := by
  by_cases hSep : r.sep ∈ x
  · obtain ⟨w, t, rfl, hFirst⟩ := List.eq_append_cons_of_mem hSep
    simp only [List.append_assoc, List.cons_append]
    rw [keyAt_eq hFirst, keyAt_eq hFirst]
    cases t <;> rfl
  · rw [keyAt_eq hSep, keyAt_eq hSep, hValue, hOther]

theorem mem_of_split {x y w t : Text} {s a : Char} (h : x ++ s :: y = w ++ a :: t) (hFirst : a ∉ x)
    (hOther : s ≠ a) : s ∈ w := by
  rcases List.append_eq_append_iff.mp h with ⟨m, rfl, hTail⟩ | ⟨m, rfl, hTail⟩
  · cases m with
    | nil => exact absurd (List.cons.inj hTail).1 hOther
    | cons c m => simp [(List.cons.inj hTail).1]
  · cases m with
    | nil => exact absurd (List.cons.inj hTail).1.symm hOther
    | cons c m => simp [(List.cons.inj hTail).1] at hFirst

/-- A match does not reach past the code point that ends a value. -/
theorem keyAt_append_stop (x : Text) {s : Char} (hStop : r.stop s = true) (y : Text) :
    r.keyAt (x ++ s :: y) = r.keyAt x := by
  by_cases hSep : r.sep ∈ x
  · obtain ⟨w, t, rfl, hFirst⟩ := List.eq_append_cons_of_mem hSep
    simp only [List.append_assoc, List.cons_append]
    rw [keyAt_eq hFirst, keyAt_eq hFirst]
    cases t with
    | nil => simp [hStop]
    | cons c t => rfl
  · rw [keyAt_of_sep_notMem hSep]
    by_cases hLater : r.sep ∈ x ++ s :: y
    · obtain ⟨w, t, hSplit, hFirst⟩ := List.eq_append_cons_of_mem hLater
      have hOther : s ≠ r.sep := by
        rintro rfl
        rw [r.stop_sep] at hStop
        cases hStop
      rw [hSplit, keyAt_eq hFirst, if_neg]
      rw [Bool.and_eq_true]
      rintro ⟨hKey, -⟩
      rw [stopFree_of_isKey hKey s (mem_of_split hSplit hSep hOther)] at hStop
      cases hStop
    · exact keyAt_of_sep_notMem hLater

end Keys

section Scan

variable {r}

theorem scan_eq (skip : Nat) (t : Text) : r.scan skip t = r.redact (t.drop skip) := by
  induction t generalizing skip with
  | nil => rw [List.drop_nil, scan, redact, scan]
  | cons c t ih =>
    cases skip with
    | zero => rfl
    | succ skip => rw [scan, ih, List.drop_succ_cons]

theorem redact_of_none {c : Char} {t : Text} (h : r.keyAt (c :: t) = none) :
    r.redact (c :: t) = c :: r.redact t := by
  rw [redact, scan, h]
  rfl

theorem drop_length_takeWhile (p : Char → Bool) (t : Text) :
    t.drop (t.takeWhile p).length = t.dropWhile p := by
  induction t with
  | nil => rfl
  | cons c t ih => cases h : p c <;> simp [h, ih]

/-- After a match the scan goes on behind the value. -/
theorem redact_of_some {c : Char} {t : Text} {n : Nat} (h : r.keyAt (c :: t) = some n) :
    r.redact (c :: t) = (c :: t).take (n + 1) ++ r.mask ++
      r.redact (((c :: t).drop (n + 1)).dropWhile fun c => !r.stop c) := by
  rw [redact, scan, h]
  simp only
  rw [scan_eq, List.drop_succ_cons, ← List.drop_drop, drop_length_takeWhile]

theorem lt_of_keyAt {t : Text} {n : Nat} (h : r.keyAt t = some n) : n < t.length := by
  by_cases hSep : r.sep ∈ t
  · obtain ⟨w, rest, rfl, hFirst⟩ := List.eq_append_cons_of_mem hSep
    rw [keyAt_eq hFirst] at h
    obtain ⟨-, hLength⟩ := Option.ite_none_right_eq_some.mp h
    cases hLength
    simp
  · rw [keyAt_of_sep_notMem hSep] at h
    cases h

/-- What ends a value splits the work. -/
theorem redact_append_stop (x : Text) {s : Char} (hStop : r.stop s = true) (y : Text) :
    r.redact (x ++ s :: y) = r.redact x ++ s :: r.redact y := by
  induction hLength : x.length using Nat.strong_induction_on generalizing x with
  | _ length ih =>
    cases x with
    | nil =>
      have hNone : r.keyAt (s :: y) = none :=
        (keyAt_append_stop [] hStop y).trans (keyAt_of_sep_notMem List.not_mem_nil)
      exact redact_of_none hNone
    | cons c x =>
      have hSame : r.keyAt (c :: (x ++ s :: y)) = r.keyAt (c :: x) := keyAt_append_stop (c :: x) hStop y
      rw [List.length_cons] at hLength
      rw [List.cons_append]
      cases hKey : r.keyAt (c :: x) with
      | none =>
        rw [redact_of_none hKey, redact_of_none (hSame.trans hKey), ih x.length (by omega) x rfl,
          List.cons_append]
      | some n =>
        have hInside := lt_of_keyAt hKey
        have hTake : (c :: (x ++ s :: y)).take (n + 1) = (c :: x).take (n + 1) :=
          List.take_append_of_le_length hInside
        have hDrop : (c :: (x ++ s :: y)).drop (n + 1) = (c :: x).drop (n + 1) ++ s :: y := by
          rw [← List.cons_append, List.drop_append_of_le_length (Nat.succ_le_of_lt hInside)]
        have hValue : ((c :: x).drop (n + 1) ++ s :: y).dropWhile (fun c => !r.stop c) =
            ((c :: x).drop (n + 1)).dropWhile (fun c => !r.stop c) ++ s :: y := by
          rw [List.dropWhile_append]
          split
          next hAll =>
            rw [List.isEmpty_iff.mp hAll, List.dropWhile_cons_of_neg (by simp [hStop])]
            rfl
          next => rfl
        have hShorter : (((c :: x).drop (n + 1)).dropWhile fun c => !r.stop c).length < length := by
          have hSuffix := (List.dropWhile_suffix (fun c => !r.stop c) (l := (c :: x).drop (n + 1))).length_le
          rw [List.length_drop, List.length_cons] at hSuffix
          omega
        rw [redact_of_some hKey, redact_of_some (hSame.trans hKey), hTake, hDrop, hValue,
          ih _ hShorter _ rfl, List.append_assoc, List.append_assoc, List.append_assoc]

/-- Every text is a word without a stop, or one before a stop and a text. -/
theorem word_induction {P : Text → Prop} (hWord : ∀ w, r.StopFree w → P w)
    (hStop : ∀ w s t, r.StopFree w → r.stop s = true → P t → P (w ++ s :: t)) (t : Text) : P t := by
  suffices hPrefixed : ∀ w, r.StopFree w → P (w ++ t) from hPrefixed [] fun c hc => absurd hc List.not_mem_nil
  induction t with
  | nil => exact fun w hw => (List.append_nil w).symm ▸ hWord w hw
  | cons c t ih =>
    intro w hw
    cases hc : r.stop c with
    | true => exact hStop w c t hw hc (ih [] fun c hc => absurd hc List.not_mem_nil)
    | false =>
      have hLonger : r.StopFree (w ++ [c]) := by
        intro d hd
        rcases List.mem_append.mp hd with hOld | hNew
        · exact hw d hOld
        · rwa [List.mem_singleton.mp hNew]
      have hRest := ih (w ++ [c]) hLonger
      rwa [List.append_assoc] at hRest

theorem head?_of_stopFree {v : Text} (hFree : r.StopFree v) (hNil : v ≠ []) :
    (v.head?.any fun c => !r.stop c) = true := by
  cases v with
  | nil => exact absurd rfl hNil
  | cons c v => simp [hFree c List.mem_cons_self]

theorem head?_mask : (r.mask.head?.any fun c => !r.stop c) = true :=
  head?_of_stopFree r.stop_mask r.mask_ne_nil

theorem split_of_keyAt {t : Text} {n : Nat} (h : r.keyAt t = some n) :
    ∃ w v, t = w ++ r.sep :: v ∧ w.length = n ∧ r.isKey w = true ∧
      (v.head?.any fun c => !r.stop c) = true := by
  by_cases hSep : r.sep ∈ t
  · obtain ⟨w, v, rfl, hFirst⟩ := List.eq_append_cons_of_mem hSep
    rw [keyAt_eq hFirst] at h
    obtain ⟨hMatch, hLength⟩ := Option.ite_none_right_eq_some.mp h
    rw [Bool.and_eq_true] at hMatch
    exact ⟨w, v, rfl, Option.some.inj hLength, hMatch⟩
  · rw [keyAt_of_sep_notMem hSep] at h
    cases h

theorem keyAt_of_isKey {w v : Text} (hKey : r.isKey w = true)
    (hValue : (v.head?.any fun c => !r.stop c) = true) : r.keyAt (w ++ r.sep :: v) = some w.length := by
  rw [keyAt_eq (sep_notMem_of_isKey hKey), hKey, hValue]
  rfl

@[simp] theorem redact_nil : r.redact [] = [] := rfl

/-- A match takes what is left of its word. -/
theorem redact_key {w v : Text} (hKey : r.isKey w = true) (hFree : r.StopFree v) (hNil : v ≠ []) :
    r.redact (w ++ r.sep :: v) = w ++ r.sep :: r.mask := by
  have hAt := keyAt_of_isKey hKey (head?_of_stopFree hFree hNil)
  have hDrop : (w ++ r.sep :: v).drop (w.length + 1) = v := by
    rw [← List.drop_drop, List.drop_left]
    rfl
  have hTake : (w ++ r.sep :: v).take (w.length + 1) = w ++ [r.sep] := by
    rw [List.take_append, List.take_of_length_le (Nat.le_succ _)]
    simp
  have hValue : v.dropWhile (fun c => !r.stop c) = [] :=
    List.dropWhile_eq_nil_iff.mpr fun c hc => by simp [hFree c hc]
  obtain ⟨c, t, hCons⟩ : ∃ c t, w ++ r.sep :: v = c :: t :=
    List.exists_cons_of_ne_nil (by simp)
  rw [hCons] at hAt hDrop hTake ⊢
  rw [redact_of_some hAt, hTake, hDrop, hValue, redact_nil, List.append_nil, List.append_assoc]
  rfl

def head (w : Text) : Text := w.takeWhile fun c => c != r.sep

theorem sep_notMem_head (w : Text) : r.sep ∉ r.head w := by
  intro hMem
  have hOther := List.mem_takeWhile_imp hMem
  simp at hOther

theorem head_append {w : Text} (h : r.sep ∉ w) (v : Text) : r.head (w ++ r.sep :: v) = w := by
  have hAll : ∀ c ∈ w, (c != r.sep) = true := fun c hc => by
    simpa using fun hSame : c = r.sep => h (hSame ▸ hc)
  rw [head, List.takeWhile_append_of_pos hAll, List.takeWhile_cons_of_neg (by simp), List.append_nil]

theorem head_congr (x v u : Text) : r.head (x ++ r.sep :: v) = r.head (x ++ r.sep :: u) := by
  by_cases hSep : r.sep ∈ x
  · obtain ⟨w, t, rfl, hFirst⟩ := List.eq_append_cons_of_mem hSep
    simp only [List.append_assoc, List.cons_append, head_append hFirst]
  · rw [head_append hSep, head_append hSep]

theorem redact_word_of_some {c : Char} {w : Text} (hFree : r.StopFree (c :: w)) {n : Nat}
    (h : r.keyAt (c :: w) = some n) : r.redact (c :: w) = r.head (c :: w) ++ r.sep :: r.mask := by
  obtain ⟨k, v, hSplit, -, hKey, hValue⟩ := split_of_keyAt h
  have hRest : r.StopFree v := fun d hd => hFree d (by simp [hSplit, hd])
  have hNil : v ≠ [] := by
    rintro rfl
    cases hValue
  rw [hSplit, redact_key hKey hRest hNil, head_append (sep_notMem_of_isKey hKey)]

theorem redact_word {w : Text} (h : r.StopFree w) :
    r.redact w = w ∨ ∃ u v, w = u ++ r.sep :: v ∧ v ≠ [] ∧ r.redact w = u ++ r.sep :: r.mask := by
  induction w with
  | nil => exact .inl rfl
  | cons c w ih =>
    have hRest : r.StopFree w := fun d hd => h d (List.mem_cons_of_mem c hd)
    cases hKey : r.keyAt (c :: w) with
    | none =>
      rw [redact_of_none hKey]
      rcases ih hRest with hSame | ⟨u, v, hSplit, hNil, hRedact⟩
      · exact .inl (by rw [hSame])
      · exact .inr ⟨c :: u, v, by rw [hSplit]; rfl, hNil, by rw [hRedact]; rfl⟩
    | some n =>
      obtain ⟨k, v, hSplit, -, hIsKey, hValue⟩ := split_of_keyAt hKey
      have hNil : v ≠ [] := by
        rintro rfl
        cases hValue
      refine .inr ⟨k, v, hSplit, hNil, ?_⟩
      rw [redact_word_of_some h hKey, hSplit, head_append (sep_notMem_of_isKey hIsKey)]

/-- The scan meets the same keys in what it has left. -/
theorem keyAt_redact {w : Text} (h : r.StopFree w) (c : Char) :
    r.keyAt (c :: r.redact w) = r.keyAt (c :: w) := by
  rcases redact_word h with hSame | ⟨u, v, rfl, hNil, hRedact⟩
  · rw [hSame]
  · have hValue : r.StopFree v := fun d hd => h d (by simp [hd])
    rw [hRedact]
    exact keyAt_congr (c :: u) head?_mask (head?_of_stopFree hValue hNil)

theorem redact_redact_word {w : Text} (h : r.StopFree w) : r.redact (r.redact w) = r.redact w := by
  induction w with
  | nil => rfl
  | cons c w ih =>
    have hRest : r.StopFree w := fun d hd => h d (List.mem_cons_of_mem c hd)
    cases hKey : r.keyAt (c :: w) with
    | none =>
      rw [redact_of_none hKey, redact_of_none ((keyAt_redact hRest c).trans hKey), ih hRest]
    | some n =>
      obtain ⟨k, v, hSplit, -, hIsKey, -⟩ := split_of_keyAt hKey
      rw [redact_word_of_some h hKey, hSplit, head_append (sep_notMem_of_isKey hIsKey)]
      exact redact_key hIsKey r.stop_mask r.mask_ne_nil

/-- A word does not tell one value of a key from another. -/
theorem redact_word_congr {u k v v' : Text} (hKey : r.isKey k = true) (hFree : r.StopFree u)
    (hv : r.StopFree v) (hNil : v ≠ []) (hv' : r.StopFree v') (hNil' : v' ≠ []) :
    r.redact (u ++ k ++ r.sep :: v) = r.redact (u ++ k ++ r.sep :: v') := by
  induction u with
  | nil => exact (redact_key hKey hv hNil).trans (redact_key hKey hv' hNil').symm
  | cons c u ih =>
    have hRest : r.StopFree u := fun d hd => hFree d (List.mem_cons_of_mem c hd)
    have hWord : ∀ x, r.StopFree x → r.StopFree (c :: (u ++ k ++ r.sep :: x)) := by
      intro x hx d hd
      simp only [List.mem_cons, List.mem_append] at hd
      rcases hd with rfl | (hu | hk) | rfl | hd
      · exact hFree d List.mem_cons_self
      · exact hRest d hu
      · exact stopFree_of_isKey hKey d hk
      · exact r.stop_sep
      · exact hx d hd
    have hSame : r.keyAt (c :: (u ++ k ++ r.sep :: v)) = r.keyAt (c :: (u ++ k ++ r.sep :: v')) :=
      keyAt_congr (c :: (u ++ k)) (head?_of_stopFree hv hNil) (head?_of_stopFree hv' hNil')
    simp only [List.cons_append]
    cases hAt : r.keyAt (c :: (u ++ k ++ r.sep :: v)) with
    | none => rw [redact_of_none hAt, redact_of_none (hSame.symm.trans hAt), ih hRest]
    | some n =>
      have hHead : r.head (c :: (u ++ k ++ r.sep :: v)) = r.head (c :: (u ++ k ++ r.sep :: v')) :=
        head_congr (c :: (u ++ k)) v v'
      rw [redact_word_of_some (hWord v hv) hAt, redact_word_of_some (hWord v' hv') (hSame.symm.trans hAt),
        hHead]

theorem value_of_redact_word {w u k v : Text} (h : r.StopFree w) (hRedact : r.redact w = u ++ k ++ r.sep :: v)
    (hKey : r.isKey k = true) (hValue : (v.head?.any fun c => !r.stop c) = true) : v = r.mask := by
  induction w generalizing u with
  | nil => simp at hRedact
  | cons c w ih =>
    have hRest : r.StopFree w := fun d hd => h d (List.mem_cons_of_mem c hd)
    cases hAt : r.keyAt (c :: w) with
    | some n =>
      rw [redact_word_of_some h hAt] at hRedact
      exact ((List.append_cons_inj_of_notMem (sep_notMem_head _) r.sep_mask).mp hRedact).2.2.symm
    | none =>
      rw [redact_of_none hAt] at hRedact
      cases u with
      | nil =>
        have hFound := keyAt_of_isKey hKey hValue
        rw [← List.nil_append k, ← hRedact, keyAt_redact hRest, hAt] at hFound
        cases hFound
      | cons d u => exact ih hRest (List.cons.inj hRedact).2

theorem stopFree_redact {w : Text} (h : r.StopFree w) : r.StopFree (r.redact w) := by
  rcases redact_word h with hSame | ⟨u, v, rfl, -, hRedact⟩
  · rw [hSame]
    exact h
  · rw [hRedact]
    intro c hc
    rcases List.mem_append.mp hc with hu | hMask
    · exact h c (by simp [hu])
    · rcases List.mem_cons.mp hMask with rfl | hMask
      · exact r.stop_sep
      · exact r.stop_mask c hMask

end Scan

/-! ## Whole texts -/

/-- Where a value ends. -/
def Ends (rest : Text) : Prop := ∀ c ∈ rest.head?, r.stop c = true

section Texts

variable {r} {u k v v' rest t : Text}

theorem redact_append (x : Text) (h : r.Ends rest) : r.redact (x ++ rest) = r.redact x ++ r.redact rest := by
  cases rest with
  | nil => rw [List.append_nil, redact_nil, List.append_nil]
  | cons s rest =>
    have hStop := h s rfl
    have hAlone := redact_append_stop [] hStop rest
    rw [List.nil_append, redact_nil, List.nil_append] at hAlone
    rw [redact_append_stop x hStop, hAlone]

theorem redact_redact (t : Text) : r.redact (r.redact t) = r.redact t := by
  induction t using word_induction (r := r) with
  | hWord w hw => exact redact_redact_word hw
  | hStop w s t hw hs ih =>
    rw [redact_append_stop w hs, redact_append_stop _ hs, redact_redact_word hw, ih]

/-- The text that comes out is the same whatever the value of a key was. -/
theorem redact_congr (hKey : r.isKey k = true) (hv : r.StopFree v) (hNil : v ≠ [])
    (hv' : r.StopFree v') (hNil' : v' ≠ []) (hRest : r.Ends rest) :
    r.redact (u ++ (k ++ r.sep :: v) ++ rest) = r.redact (u ++ (k ++ r.sep :: v') ++ rest) := by
  rw [redact_append _ hRest, redact_append _ hRest]
  congr 1
  induction u using word_induction (r := r) with
  | hWord w hw =>
    rw [← List.append_assoc, ← List.append_assoc]
    exact redact_word_congr hKey hw hv hNil hv' hNil'
  | hStop w s t hw hs ih =>
    simp only [List.append_assoc, List.cons_append] at ih ⊢
    rw [redact_append_stop w hs, redact_append_stop w hs, ih]

theorem takeWhile_ends {w : Text} (hw : r.StopFree w) (hRest : r.Ends rest) :
    (w ++ rest).takeWhile (fun c => !r.stop c) = w := by
  have hAll : ∀ c ∈ w, (!r.stop c) = true := fun c hc => by rw [hw c hc]; rfl
  rw [List.takeWhile_append_of_pos hAll]
  cases rest with
  | nil => exact List.append_nil w
  | cons c rest =>
    rw [List.takeWhile_cons_of_neg (by simp [hRest c rfl]), List.append_nil]

/-- No value of a key is left but the mask. -/
theorem value_of_redact (h : r.redact t = u ++ (k ++ r.sep :: v) ++ rest) (hKey : r.isKey k = true)
    (hv : r.StopFree v) (hNil : v ≠ []) (hRest : r.Ends rest) : v = r.mask := by
  have hValue := head?_of_stopFree hv hNil
  have hPair : r.StopFree (k ++ r.sep :: v) := by
    intro c hc
    rcases List.mem_append.mp hc with hk | hc
    · exact stopFree_of_isKey hKey c hk
    · rcases List.mem_cons.mp hc with rfl | hc
      · exact r.stop_sep
      · exact hv c hc
  induction t using word_induction (r := r) generalizing u with
  | hWord w hw =>
    have hFree := stopFree_redact hw
    cases rest with
    | nil =>
      rw [List.append_nil, ← List.append_assoc] at h
      exact value_of_redact_word hw h hKey hValue
    | cons s rest =>
      have hStop := hFree s (by simp [h])
      rw [hRest s rfl] at hStop
      cases hStop
  | hStop w s t hw hs ih =>
    rw [redact_append_stop w hs, List.append_assoc] at h
    rcases List.append_eq_append_iff.mp h with ⟨m, rfl, hTail⟩ | ⟨m, hWord, hTail⟩
    · cases m with
      | nil =>
        obtain ⟨c, y, hCons⟩ : ∃ c y, k ++ r.sep :: v = c :: y := List.exists_cons_of_ne_nil (by simp)
        rw [List.nil_append, hCons] at hTail
        have hFree := hPair c (by simp [hCons])
        rw [← (List.cons.inj hTail).1, hs] at hFree
        cases hFree
      | cons c m => exact ih ((List.cons.inj hTail).2.trans (List.append_assoc m _ rest).symm)
    · have hFree : r.StopFree m := fun c hc => stopFree_redact hw c (by simp [hWord, hc])
      have hEnds : r.Ends (s :: r.redact t) := by
        intro c hc
        cases hc
        exact hs
      have hSame := congrArg (List.takeWhile fun c => !r.stop c) hTail
      rw [takeWhile_ends hPair hRest, takeWhile_ends hFree hEnds] at hSame
      rw [← hSame, ← List.append_assoc] at hWord
      exact value_of_redact_word hw hWord hKey hValue

theorem redact_of_sep_notMem (h : r.sep ∉ t) : r.redact t = t := by
  induction t with
  | nil => rfl
  | cons c t ih =>
    rw [redact_of_none (keyAt_of_sep_notMem h), ih fun hMem => h (List.mem_cons_of_mem c hMem)]

variable (r) in
/-- The same text but for the values of keys. -/
inductive Masks : Text → Text → Prop where
  | nil : Masks [] []
  | keep {t u : Text} (c : Char) (h : Masks t u) : Masks (c :: t) (c :: u)
  | value {k v rest u : Text} (hKey : r.isKey k = true) (hv : r.StopFree v) (hNil : v ≠ [])
      (hRest : r.Ends rest) (h : Masks rest u) :
      Masks (k ++ r.sep :: v ++ rest) (k ++ r.sep :: r.mask ++ u)

/-- The scan replaces nothing but values. -/
theorem masks_redact (t : Text) : r.Masks t (r.redact t) := by
  induction hLength : t.length using Nat.strong_induction_on generalizing t with
  | _ length ih =>
    cases t with
    | nil => exact .nil
    | cons c t =>
      rw [List.length_cons] at hLength
      cases hKey : r.keyAt (c :: t) with
      | none =>
        rw [redact_of_none hKey]
        exact .keep c (ih t.length (by omega) t rfl)
      | some n =>
        obtain ⟨k, value, hSplit, -, hIsKey, hValue⟩ := split_of_keyAt hKey
        let v := value.takeWhile fun c => !r.stop c
        let rest := value.dropWhile fun c => !r.stop c
        have hParts : v ++ rest = value := List.takeWhile_append_dropWhile
        have hv : r.StopFree v := fun d hd => by simpa using List.mem_takeWhile_imp hd
        have hNil : v ≠ [] := by
          cases value with
          | nil => cases hValue
          | cons d value =>
            have hStart : (!r.stop d) = true := hValue
            simp [v, hStart]
        have hRest : r.Ends rest := by
          intro d hd
          have hNot := List.head?_dropWhile_not (fun c => !r.stop c) value
          rw [show (value.dropWhile fun c => !r.stop c).head? = some d from hd] at hNot
          simpa using hNot
        have hText : c :: t = k ++ r.sep :: v ++ rest := by rw [hSplit, ← hParts]; simp
        have hShorter : rest.length < length := by
          have hCount := congrArg List.length hText
          simp only [List.length_cons, List.length_append] at hCount
          omega
        rw [hText, redact_append _ hRest, redact_key hIsKey hv hNil]
        exact .value hIsKey hv hNil hRest (ih _ hShorter rest rfl)

end Texts

end Redactor

end StockAiPlatform.Python
