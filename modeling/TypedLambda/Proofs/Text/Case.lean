/-
Lower case and what stands between words.

Changing the case of a letter never makes a separator or loses one: a blank, a comma, an equals sign
or a dot is its own lower and upper case, and the lower case of nothing else.  For the characters from
128 on this is a fact about the tables, and it is checked there, stretch by stretch and not letter by
letter.

Lower case looks beyond a letter only at a capital sigma, and there it does not look past a separator
other than a dot, because none of these is passed over and none is cased.  So a text that they divide
is put into lower case piece by piece.

Upper case after lower case is not upper case for every text: the dotted capital I comes back as
another.  It is, if all that the upper case consists of is below 128, as in the name of a level.
-/
import TypedLambda.Text.Blank
import TypedLambda.Text.Case
import TypedLambda.Text.Split

namespace TypedLambda.Text

/-- The blanks, and the signs with a meaning in lists of dotted names. -/
def isSeparator (c : Char) : Bool :=
  isBlank c || c == ',' || c == '=' || c == '.'

namespace Case

/-! ### Tables -/

/-- The separators from 128 on, as closed ranges. -/
def separatorRanges : List (Nat × Nat) :=
  [(0x85, 0x85), (0xA0, 0xA0), (0x1680, 0x1680), (0x2000, 0x200A), (0x2028, 0x2029),
    (0x202F, 0x202F), (0x205F, 0x205F), (0x3000, 0x3000)]

theorem toNat_of_isSeparator {c : Char} (h : isSeparator c = true) :
    (9 ≤ c.toNat ∧ c.toNat < 0x40) ∨
      ∃ r ∈ separatorRanges, 128 ≤ r.1 ∧ r.1 ≤ c.toNat ∧ c.toNat ≤ r.2 := by
  simp only [isSeparator, isBlank, isSpace, Bool.or_eq_true, Bool.and_eq_true, decide_eq_true_eq,
    beq_iff_eq] at h
  simp only [separatorRanges, List.mem_cons, List.not_mem_nil, or_false, exists_eq_or_imp,
    exists_eq_left]
  rcases h with ((h | rfl) | rfl) | rfl
  · omega
  all_goals exact .inl (by decide)

/-- No separator is in a stretch, and no partner of a stretch is a separator. -/
theorem lowerStretches_avoid : ∀ s ∈ lowerStretches.toList,
    0x40 ≤ s.first + s.shift ∧ ∀ r ∈ separatorRanges, (s.last < r.1 ∨ r.2 < s.first) ∧
      (s.last + s.shift < r.1 ∨ (r.2 : Int) < s.first + s.shift) := by
  decide +kernel

theorem upperStretches_avoid : ∀ s ∈ upperStretches.toList, ∀ r ∈ separatorRanges,
    s.last < r.1 ∨ r.2 < s.first := by
  decide +kernel

theorem lowerSequences_avoid : ∀ e ∈ lowerSequences.toList, e.2 ≠ [] ∧
    (∀ r ∈ separatorRanges, e.1 < r.1 ∨ r.2 < e.1) ∧
    ∀ n ∈ e.2, isSeparator (Char.ofNat n) = false := by
  decide +kernel

theorem upperSequences_avoid : ∀ e ∈ upperSequences.toList, ∀ r ∈ separatorRanges,
    e.1 < r.1 ∨ r.2 < e.1 := by
  decide +kernel

/--
What turns into a character below 128 is in no stretch for the other case.  The partners of a stretch
from 128 on are characters, none of them a surrogate.
-/
theorem upperStretches_small : ∀ s ∈ upperStretches.toList,
    (128 ≤ s.first + s.shift ∧
      (s.last + s.shift < 0xD800 ∨ 0xDFFF < s.first + s.shift ∧ s.last + s.shift < 0x110000)) ∨
    (∀ t ∈ lowerStretches.toList, s.last < t.first ∨ t.last < s.first) ∧
      ∀ e ∈ lowerSequences.toList, e.1 < s.first ∨ s.last < e.1 := by
  decide +kernel

theorem upperSequences_small : ∀ e ∈ upperSequences.toList,
    (∃ n ∈ e.2, 128 ≤ (Char.ofNat n).toNat) ∨
    (∀ t ∈ lowerStretches.toList, t.last < e.1 ∨ e.1 < t.first) ∧
      ∀ e' ∈ lowerSequences.toList, e'.1 ≠ e.1 := by
  decide +kernel

theorem casedRanges_avoid : ∀ w ∈ casedRanges.toList, ∀ r ∈ separatorRanges,
    w.2 < r.1 ∨ r.2 < w.1 := by
  decide +kernel

theorem ignorableRanges_avoid : ∀ w ∈ ignorableRanges.toList, ∀ r ∈ separatorRanges,
    w.2 < r.1 ∨ r.2 < w.1 := by
  decide +kernel

/-! ### One character -/

variable {sequences : Array (Nat × List Nat)} {stretches : Array Stretch} {c d : Char}

/-- A code that is no character's is that of the null character. -/
theorem toNat_ofNat (n : Nat) : (Char.ofNat n).toNat = if n.isValidChar then n else 0 := by
  by_cases h : n.isValidChar
  · rw [if_pos h, Char.ofNat, dif_pos h]
    rfl
  · rw [if_neg h, Char.ofNat, dif_neg h]
    rfl

/-- What holds of the characters that the first codes stand for holds of every character below. -/
theorem of_toNat_lt {P : Char → Prop} {bound : Nat} (h : ∀ n < bound, P (Char.ofNat n))
    (hc : c.toNat < bound) : P c := by
  have hP := h c.toNat hc
  rwa [Char.ofNat_toNat] at hP

theorem mapped_ne_nil (h : ∀ e ∈ sequences.toList, e.2 ≠ []) :
    mapped sequences stretches c ≠ [] := by
  rw [mapped]
  split
  · next n codes hfind =>
      have hne : codes ≠ [] := h _ (Array.mem_toList_iff.mpr (Array.mem_of_find?_eq_some hfind))
      simpa using hne
  · simp

/-- What is in neither table stays as it is. -/
theorem mapped_eq_self (hsequences : ∀ e ∈ sequences.toList, e.1 ≠ c.toNat)
    (hstretches : ∀ s ∈ stretches.toList, s.last < c.toNat ∨ c.toNat < s.first) :
    mapped sequences stretches c = [c] := by
  have hfind : sequences.find? (·.1 == c.toNat) = none := by
    simpa using hsequences
  have hshift : shifted? stretches c.toNat = none := by
    rw [shifted?, Array.findSome?_eq_none_iff]
    intro s hs
    have hout := hstretches s (Array.mem_toList_iff.mpr hs)
    rw [if_neg (by omega)]
  rw [mapped, hfind, hshift]
  rfl

/-- A character turns into a sequence, or its partner, or it stays. -/
theorem mapped_cases (sequences : Array (Nat × List Nat)) (stretches : Array Stretch) (c : Char) :
    (∃ e ∈ sequences.toList, e.1 = c.toNat ∧ mapped sequences stretches c = e.2.map Char.ofNat) ∨
      (∃ s ∈ stretches.toList, s.first ≤ c.toNat ∧ c.toNat ≤ s.last ∧
        mapped sequences stretches c = [Char.ofNat ((c.toNat : Int) + s.shift).toNat]) ∨
      mapped sequences stretches c = [c] := by
  rw [mapped]
  split
  · next n codes hfind =>
      have hcode := Array.find?_some hfind
      exact .inl ⟨_, Array.mem_toList_iff.mpr (Array.mem_of_find?_eq_some hfind),
        by simpa using hcode, rfl⟩
  · rcases hs : shifted? stretches c.toNat with _ | n
    · exact .inr (.inr rfl)
    · obtain ⟨s, hmem, hs⟩ := Array.exists_of_findSome?_eq_some hs
      split at hs
      · next hin =>
          obtain rfl := Option.some.inj hs
          exact .inr (.inl ⟨s, Array.mem_toList_iff.mpr hmem, hin.1, hin.2.1, rfl⟩)
      · cases hs

theorem lowerChar_ne_nil : lowerChar c ≠ [] := by
  rw [lowerChar]
  split
  · simp
  · exact mapped_ne_nil fun e he => (lowerSequences_avoid e he).1

/-! ### Separators -/

theorem lowerChar_of_isSeparator (hc : isSeparator c = true) : lowerChar c = [c] := by
  obtain hascii | ⟨r, hr, hlarge, hfirst, hlast⟩ := toNat_of_isSeparator hc
  · have hsame : c.toLower = c := of_toNat_lt (P := fun c => c.toLower = c) (by decide) hascii.2
    rw [lowerChar, if_pos (by omega), hsame]
  · rw [lowerChar, if_neg (by omega)]
    refine mapped_eq_self (fun e he => ?_) fun s hs => ?_
    · have havoid := (lowerSequences_avoid e he).2.1 r hr
      omega
    · have havoid := ((lowerStretches_avoid s hs).2 r hr).1
      omega

theorem upperChar_of_isSeparator (hc : isSeparator c = true) : upperChar c = [c] := by
  obtain hascii | ⟨r, hr, hlarge, hfirst, hlast⟩ := toNat_of_isSeparator hc
  · have hsame : c.toUpper = c := of_toNat_lt (P := fun c => c.toUpper = c) (by decide) hascii.2
    rw [upperChar, if_pos (by omega), hsame]
  · rw [upperChar, if_neg (by omega)]
    refine mapped_eq_self (fun e he => ?_) fun s hs => ?_
    · have havoid := upperSequences_avoid e he r hr
      omega
    · have havoid := upperStretches_avoid s hs r hr
      omega

/-- A separator is the lower case of nothing else. -/
theorem eq_of_mem_lowerChar (hd : isSeparator d = true) (h : d ∈ lowerChar c) : d = c := by
  rw [lowerChar] at h
  split at h
  · next hc =>
      obtain rfl := List.mem_singleton.mp h
      exact of_toNat_lt (P := fun c => isSeparator c.toLower = true → c.toLower = c)
        (by decide +kernel) hc hd
  · obtain ⟨e, he, -, hmapped⟩ | ⟨s, hs, hfirst, hlast, hmapped⟩ | hmapped :=
      mapped_cases lowerSequences lowerStretches c
    all_goals rw [hmapped] at h
    · obtain ⟨n, hn, rfl⟩ := List.mem_map.mp h
      rw [(lowerSequences_avoid e he).2.2 n hn] at hd
      cases hd
    · obtain rfl := List.mem_singleton.mp h
      obtain ⟨hmin, havoid⟩ := lowerStretches_avoid s hs
      -- the null character is no separator, so it does not matter whether there is a partner
      have hpartner : (Char.ofNat ((c.toNat : Int) + s.shift).toNat).toNat =
          ((c.toNat : Int) + s.shift).toNat ∨
            (Char.ofNat ((c.toNat : Int) + s.shift).toNat).toNat = 0 := by
        rw [toNat_ofNat]
        split
        · exact .inl rfl
        · exact .inr rfl
      obtain hascii | ⟨r, hr, hlarge, hrfirst, hrlast⟩ := toNat_of_isSeparator hd
      · omega
      · have hout := (havoid r hr).2
        omega
    · exact List.mem_singleton.mp h

theorem count_lowerChar (hd : isSeparator d = true) :
    (lowerChar c).count d = [c].count d := by
  by_cases hc : c = d
  · rw [hc, lowerChar_of_isSeparator hd]
  · have hnot : d ∉ lowerChar c := fun h => hc (eq_of_mem_lowerChar hd h).symm
    rw [List.count_eq_zero_of_not_mem hnot, List.count_eq_zero_of_not_mem (by simpa using Ne.symm hc)]

/-! ### Upper case after lower case -/

/-- What has an upper case below 128 has no lower case of its own, from 128 on. -/
theorem lowerChar_of_upperChar_small (hc : 128 ≤ c.toNat)
    (h : ∀ d ∈ upperChar c, d.toNat < 128) : lowerChar c = [c] := by
  rw [upperChar, if_neg (by omega)] at h
  rw [lowerChar, if_neg (by omega)]
  obtain ⟨e, he, hcode, hmapped⟩ | ⟨s, hs, hfirst, hlast, hmapped⟩ | hmapped :=
    mapped_cases upperSequences upperStretches c
  all_goals rw [hmapped] at h
  · obtain ⟨n, hn, hlarge⟩ | ⟨hstretches, hsequences⟩ := upperSequences_small e he
    · have hsmall := h _ (List.mem_map_of_mem hn)
      omega
    · rw [hcode] at hstretches hsequences
      exact mapped_eq_self hsequences hstretches
  · have hsmall := h _ (List.mem_singleton_self _)
    obtain ⟨hmin, hvalid⟩ | ⟨hstretches, hsequences⟩ := upperStretches_small s hs
    · have hchar : ((c.toNat : Int) + s.shift).toNat.isValidChar := by
        simp only [Nat.isValidChar]
        omega
      rw [toNat_ofNat, if_pos hchar] at hsmall
      omega
    · refine mapped_eq_self (fun e he => ?_) fun t ht => ?_
      · have hout := hsequences e he
        omega
      · have hout := hstretches t ht
        omega
  · have hsmall := h c (List.mem_singleton_self c)
    omega

theorem flatMap_upperChar_lowerChar (h : ∀ d ∈ upperChar c, d.toNat < 128) :
    (lowerChar c).flatMap upperChar = upperChar c := by
  by_cases hc : c.toNat < 128
  · obtain ⟨hlower, hupper⟩ : c.toLower.toNat < 128 ∧ c.toLower.toUpper = c.toUpper :=
      of_toNat_lt (P := fun c => c.toLower.toNat < 128 ∧ c.toLower.toUpper = c.toUpper)
        (by decide +kernel) hc
    rw [lowerChar, if_pos hc, List.flatMap_singleton, upperChar, if_pos hlower, hupper, upperChar,
      if_pos hc]
  · rw [lowerChar_of_upperChar_small (by omega) h, List.flatMap_singleton]

/-! ### Ends of words -/

theorem not_within {ranges : Array (Nat × Nat)}
    (h : ∀ w ∈ ranges.toList, w.2 < c.toNat ∨ c.toNat < w.1) : within ranges c = false := by
  rw [within, Array.any_eq_false']
  intro w hw
  have hout := h w (Array.mem_toList_iff.mpr hw)
  simp only [Bool.and_eq_true, decide_eq_true_eq, not_and]
  omega

/-- No sigma is influenced by what is on the other side of the character. -/
structure EndsWord (c : Char) : Prop where
  fixed : lowerChar c = [c]
  uncased : isCased c = false
  notIgnorable : isIgnorable c = false

theorem endsWord_of_isSeparator (hc : isSeparator c = true) (hdot : c ≠ '.') : EndsWord c := by
  refine ⟨lowerChar_of_isSeparator hc, ?_, ?_⟩
  all_goals obtain hascii | ⟨r, hr, hlarge, hfirst, hlast⟩ := toNat_of_isSeparator hc
  · rw [isCased, if_pos (by omega)]
    exact of_toNat_lt (P := fun c => c.isAlpha = false) (by decide) hascii.2
  · rw [isCased, if_neg (by omega)]
    refine not_within fun w hw => ?_
    have havoid := casedRanges_avoid w hw r hr
    omega
  · rw [isIgnorable, if_pos (by omega)]
    exact of_toNat_lt
      (P := fun c => isSeparator c = true → c ≠ '.' → "'.:^\x60".toList.contains c = false)
      (by decide +kernel) hascii.2 hc hdot
  · rw [isIgnorable, if_neg (by omega)]
    refine not_within fun w hw => ?_
    have havoid := ignorableRanges_avoid w hw r hr
    omega

end Case

end TypedLambda.Text
