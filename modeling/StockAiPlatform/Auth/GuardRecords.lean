import StockAiPlatform.Auth.BruteForce
import StockAiPlatform.Auth.Security

/-! # The records of the guard

A failure changes the record of its key alone, and the keys of two pairs are
the same only if the digest of their texts collides.
-/

namespace StockAiPlatform
set_option autoImplicit false

open Python

section Records

variable {guard : BruteForceGuard} {key other : String} {now : ℚ}

/-- A new window is opened, as the last one expired and the key is not locked. -/
def BruteForceGuard.OpensWindow (guard : BruteForceGuard) (record : FailureRecord) (now : ℚ) : Prop :=
  record.lockedUntil ≤ now ∧ guard.windowSeconds < now - record.windowStart

instance (guard : BruteForceGuard) (record : FailureRecord) (now : ℚ) :
    Decidable (guard.OpensWindow record now) := inferInstanceAs (Decidable (_ ∧ _))

/-- The record of a key after a failure. -/
def BruteForceGuard.failed (guard : BruteForceGuard) (record : FailureRecord) (now : ℚ) :
    FailureRecord :=
  let current := if guard.OpensWindow record now then { record with count := 0, windowStart := now }
    else record
  { current with
    count := current.count + 1
    lockedUntil := if guard.maxFailures ≤ current.count + 1 then now + guard.lockoutSeconds
      else current.lockedUntil }

theorem lookup_filter_ne {records : List (String × FailureRecord)} (h : other ≠ key) :
    (records.filter fun entry => entry.1 ≠ key).lookup other = records.lookup other := by
  induction records with
  | nil => rfl
  | cons entry records ih =>
    obtain ⟨name, record⟩ := entry
    by_cases hKey : name = key
    · have hOther : (other == name) = false := beq_eq_false_iff_ne.mpr (hKey ▸ h)
      rw [List.filter_cons_of_neg (by simpa using hKey), ih, List.lookup_cons, hOther]
    · rw [List.filter_cons_of_pos (by simpa using hKey), List.lookup_cons, List.lookup_cons, ih]

theorem lookup_filter_self {records : List (String × FailureRecord)} :
    (records.filter fun entry => entry.1 ≠ key).lookup key = none := by
  rw [List.lookup_eq_none_iff]
  intro entry hEntry
  have hNe := of_decide_eq_true (List.mem_filter.mp hEntry).2
  exact bne_iff_ne.mpr hNe.symm

theorem getRecord_recordFailure {username : String} {sourceIpHash : Option String}
    (hKey : BruteForceGuard.makeKey username sourceIpHash = key) (other : String) :
    (guard.recordFailure username sourceIpHash now).getRecord other =
      if other = key then guard.failed (guard.getRecord key) now else guard.getRecord other := by
  have hRecords : (guard.recordFailure username sourceIpHash now).records =
      (key, guard.failed (guard.getRecord key) now) ::
        guard.records.filter fun entry => entry.1 ≠ key := by
    subst hKey
    rfl
  rw [BruteForceGuard.getRecord, hRecords]
  by_cases hSame : other = key
  · rw [if_pos hSame, hSame, List.lookup_cons_self]
    rfl
  · rw [if_neg hSame, List.lookup_cons, beq_eq_false_iff_ne.mpr hSame, lookup_filter_ne hSame]
    rfl

theorem getRecord_recordSuccess {username : String} {sourceIpHash : Option String}
    (hKey : BruteForceGuard.makeKey username sourceIpHash = key) (other : String) :
    (guard.recordSuccess username sourceIpHash).getRecord other =
      if other = key then {} else guard.getRecord other := by
  have hRecords : (guard.recordSuccess username sourceIpHash).records =
      guard.records.filter fun entry => entry.1 ≠ key := by
    subst hKey
    rfl
  rw [BruteForceGuard.getRecord, hRecords]
  by_cases hSame : other = key
  · rw [if_pos hSame, hSame, lookup_filter_self]
    rfl
  · rw [if_neg hSame, lookup_filter_ne hSame]
    rfl

/-- A failure starts a window and a count, or adds to the count. -/
theorem failed_cases (guard : BruteForceGuard) (record : FailureRecord) (now : ℚ) :
    (guard.OpensWindow record now ∧ (guard.failed record now).windowStart = now ∧
        (guard.failed record now).count = 1) ∨
      (¬ guard.OpensWindow record now ∧
        (guard.failed record now).windowStart = record.windowStart ∧
        (guard.failed record now).count = record.count + 1) := by
  rw [BruteForceGuard.failed]
  by_cases h : guard.OpensWindow record now
  · rw [if_pos h]
    exact .inl ⟨h, rfl, rfl⟩
  · rw [if_neg h]
    exact .inr ⟨h, rfl, rfl⟩

theorem lockedUntil_failed {record : FailureRecord}
    (h : guard.maxFailures ≤ (guard.failed record now).count) :
    (guard.failed record now).lockedUntil = now + guard.lockoutSeconds := if_pos h

end Records

section Keys

/-- Cut at the last separator, a text comes apart in one way. -/
theorem append_cons_inj {c : Char} {a a' b b' : List Char} (hb : c ∉ b) (hb' : c ∉ b')
    (h : a ++ c :: b = a' ++ c :: b') : a = a' ∧ b = b' := by
  have hCut : ∀ start rest : List Char, c ∉ rest →
      (start ++ c :: rest).reverse.takeWhile (fun d => decide (d ≠ c)) = rest.reverse := by
    intro start rest hRest
    rw [List.reverse_append, List.reverse_cons, List.append_assoc, List.takeWhile_append_of_pos]
    · simp
    · intro d hd
      refine decide_eq_true ?_
      rintro rfl
      exact hRest (List.mem_reverse.mp hd)
  have hRest : b = b' := by
    rw [← List.reverse_inj, ← hCut a b hb, ← hCut a' b' hb', h]
  subst hRest
  exact ⟨List.append_cancel_right h, rfl⟩

/-- What the audit hash of an address is: nothing, or a digest. -/
theorem hashForAudit_cases (value : Option String) :
    hashForAudit value = none ∨ ∃ text, hashForAudit value = some (sha256Hexdigest text) := by
  cases value with
  | none => exact .inl rfl
  | some text =>
    simp only [hashForAudit, Option.bind_some]
    split
    · exact .inl rfl
    · exact .inr ⟨_, rfl⟩

theorem sha256Hexdigest_ne_empty (text : String) : sha256Hexdigest text ≠ "" := by
  intro h
  have hLength := length_sha256Hexdigest text
  rw [h] at hLength
  exact absurd hLength (by decide)

theorem ipPart_digest (text : String) : ipPart (some (sha256Hexdigest text)) = sha256Hexdigest text :=
  if_neg (sha256Hexdigest_ne_empty text)

theorem colon_not_mem_ipPart (value : Option String) : ':' ∉ (ipPart (hashForAudit value)).toList := by
  obtain hNone | ⟨text, hSome⟩ := hashForAudit_cases value
  · rw [hNone]
    decide
  · rw [hSome, ipPart_digest]
    intro hColon
    exact absurd (mem_sha256Hexdigest hColon) (by decide)

theorem sha256Hexdigest_ne_unknown (text : String) : sha256Hexdigest text ≠ "unknown" := by
  intro h
  have hLength := length_sha256Hexdigest text
  rw [h] at hLength
  exact absurd hLength (by decide)

theorem ipPart_injective {value value' : Option String}
    (h : ipPart (hashForAudit value) = ipPart (hashForAudit value')) :
    hashForAudit value = hashForAudit value' := by
  obtain hNone | ⟨text, hSome⟩ := hashForAudit_cases value <;>
    obtain hNone' | ⟨text', hSome'⟩ := hashForAudit_cases value'
  · rw [hNone, hNone']
  · rw [hNone, hSome', ipPart_digest] at h
    exact absurd h.symm (sha256Hexdigest_ne_unknown text')
  · rw [hSome, hNone', ipPart_digest] at h
    exact absurd h (sha256Hexdigest_ne_unknown text)
  · rw [hSome, hSome', ipPart_digest, ipPart_digest] at h
    rw [hSome, hSome', h]

/-- The pair of a name and an address can be read off the text of its key. -/
theorem rawKey_injective {username username' : String} {sourceIp sourceIp' : Option String}
    (h : rawKey username (hashForAudit sourceIp) = rawKey username' (hashForAudit sourceIp')) :
    username = username' ∧ hashForAudit sourceIp = hashForAudit sourceIp' := by
  have hList := congrArg String.toList h
  simp only [rawKey, String.toList_append, List.append_assoc] at hList
  obtain ⟨hName, hPart⟩ := append_cons_inj (colon_not_mem_ipPart sourceIp)
    (colon_not_mem_ipPart sourceIp') hList
  exact ⟨String.toList_injective hName, ipPart_injective (String.toList_injective hPart)⟩

end Keys

end StockAiPlatform
