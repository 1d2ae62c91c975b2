import PgMaintainer.Dsn.Render

/-!
# What a redacted connection string says

A keyword string is rebuilt from its pairs with the passwords masked, so it reads as the pairs it
had, and nothing of a password is left to tell two strings apart.
-/

namespace PgMaintainer

/-- Whether a pair sets the password. -/
def isPasswordPair (pair : Text × Text) : Bool := pair.1.toAsciiLowercase = "password".toList

/-- A pair, its value masked if it is a password. -/
def maskPair (pair : Text × Text) : Text × Text :=
  if isPasswordPair pair then (pair.1, mask) else pair

/-- How a redacted pair is written. -/
def writeRedacted (pair : Text × Text) : Written :=
  ⟨pair.1, if isPasswordPair pair then mask else escapeKeywordValue pair.2, (maskPair pair).2⟩

/-- A redacted pair is rendered as it is written. -/
theorem redact_pair_eq (pair : Text × Text) : redactPair pair = (writeRedacted pair).render := by
  by_cases h : pair.1.toAsciiLowercase = "password".toList
  · have hpassword : isPasswordPair pair = true := decide_eq_true h
    rw [redactPair, if_pos h, writeRedacted, if_pos hpassword]
    rfl
  · have hother : isPasswordPair pair = false := decide_eq_false h
    rw [redactPair, if_neg h, writeRedacted, hother]
    rfl

/-- What it reads back as is the masked pair. -/
theorem write_redacted_pair (pair : Text × Text) : (writeRedacted pair).pair = maskPair pair := by
  unfold writeRedacted Written.pair maskPair
  split <;> rfl

/-- A redacted pair reads as the masked one. -/
theorem write_redacted_reads {pair : Text × Text} (hkey : IsKey pair.1) :
    (writeRedacted pair).Reads := by
  refine ⟨hkey, ?_⟩
  unfold writeRedacted maskPair
  by_cases h : isPasswordPair pair = true
  · simpa [h] using reads_mask
  · simpa [h] using reads_escaped pair.2

/-- Masking again changes nothing, so a redacted pair shows nothing else of its password. -/
theorem redact_mask_pair (pair : Text × Text) : redactPair (maskPair pair) = redactPair pair := by
  by_cases h : pair.1.toAsciiLowercase = "password".toList
  · have hpassword : isPasswordPair pair = true := decide_eq_true h
    rw [maskPair, if_pos hpassword]
    exact (if_pos h).trans (if_pos h).symm
  · have hother : isPasswordPair pair = false := decide_eq_false h
    rw [maskPair, hother]
    rfl

section Keyword

variable {s : Text} {pairs : List (Text × Text)}

/-- An accepted keyword string is rebuilt from its pairs. -/
theorem redact_of_ok (huri : isUri s.trim = false) (h : splitKeywordPairs s.trim = .ok pairs) :
    redact s = [' '].intercalate (pairs.map redactPair) := by
  simp [redact, huri, h]

/-- A rejected one is left out. -/
theorem redact_of_error {text : Malformed} (huri : isUri s.trim = false)
    (h : splitKeywordPairs s.trim = .error text) : redact s = "[REDACTED]".toList := by
  simp [redact, huri, h]

/-- What is rebuilt reads as the masked pairs. -/
theorem split_redact (huri : isUri s.trim = false) (h : splitKeywordPairs s.trim = .ok pairs) :
    splitKeywordPairs (redact s) = .ok (pairs.map maskPair) := by
  have hreads : ∀ w ∈ pairs.map writeRedacted, w.Reads := by
    intro w hw
    obtain ⟨pair, hpair, rfl⟩ := List.mem_map.1 hw
    exact write_redacted_reads (split_keys h pair hpair)
  have hsplit := split_joined hreads
  rw [List.map_map, List.map_map] at hsplit
  rw [redact_of_ok huri h, List.map_congr_left fun pair _ => redact_pair_eq pair]
  refine hsplit.trans (congrArg _ (List.map_congr_left fun pair _ => ?_))
  exact write_redacted_pair pair

end Keyword

/-- Redaction of a keyword string is exact: an accepted string is still accepted and reads as the
pairs it had with the passwords masked, strings that differ in their passwords only come out equal,
and a rejected string is left out. -/
theorem redact_keyword_string (s : Text) (huri : isUri s.trim = false) :
    (∀ pairs, splitKeywordPairs s.trim = .ok pairs →
      splitKeywordPairs (redact s) = .ok (pairs.map maskPair)) ∧
    (∀ t pairs others, isUri t.trim = false → splitKeywordPairs s.trim = .ok pairs →
      splitKeywordPairs t.trim = .ok others → others.map maskPair = pairs.map maskPair →
      redact t = redact s) ∧
    (∀ text, splitKeywordPairs s.trim = .error text → redact s = "[REDACTED]".toList) := by
  refine ⟨fun pairs h => split_redact huri h, ?_, fun text h => redact_of_error huri h⟩
  intro t pairs others hturi hs ht hsame
  have hshow : ∀ list : List (Text × Text),
      list.map redactPair = (list.map maskPair).map redactPair := by
    intro list
    rw [List.map_map]
    exact List.map_congr_left fun pair _ => (redact_mask_pair pair).symm
  rw [redact_of_ok huri hs, redact_of_ok hturi ht, hshow others, hshow pairs, hsame]

/-- With a password that has to be quoted. -/
theorem redact_quoted_password :
    splitKeywordPairs (redact "host=h PassWord = 'se\\'cret x'".toList) =
      .ok [("host".toList, "h".toList), ("PassWord".toList, "***".toList)] := by
  have h := (redact_keyword_string "host=h PassWord = 'se\\'cret x'".toList (by decide)).1
    [("host".toList, "h".toList), ("PassWord".toList, "se'cret x".toList)] (by decide +kernel)
  rw [h]
  decide

end PgMaintainer
