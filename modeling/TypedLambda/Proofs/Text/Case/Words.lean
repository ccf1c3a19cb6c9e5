/-
Lower case of a text, piece by piece.

Only a capital sigma is put into lower case by what stands around it, and it does not see past a
character that ends words: this one is neither passed over nor a cased letter.  So what is before such
a character and what is after it can be put into lower case apart from each other, and blanks around a
piece are a special case of that.

A dot is passed over.  A dotted name is therefore one piece, but the number of its dots is kept, like
that of every separator.
-/
import TypedLambda.Proofs.Text.Case

namespace TypedLambda.Text

theorem toList_toLower (s : String) : (toLower s).toList = Case.lowerFrom [] s.toList :=
  String.toList_ofList

theorem toList_toUpper (s : String) : (toUpper s).toList = s.toList.flatMap Case.upperChar :=
  String.toList_ofList

namespace Case

variable {b d sep : Char}

/-! ### Separators are kept -/

/-- The lower case of a first character, whatever it is, holds no new separator. -/
theorem lowerFrom_cons (before : List Char) (c : Char) (rest : List Char) :
    ∃ cs, lowerFrom before (c :: rest) = cs ++ lowerFrom (c :: before) rest ∧ cs ≠ [] ∧
      ∀ d, isSeparator d = true → cs.count d = [c].count d := by
  by_cases hc : c = 'Σ'
  · refine ⟨[lowerSigma before rest], by rw [lowerFrom, if_pos hc], List.cons_ne_nil _ _, ?_⟩
    intro d hd
    have hsigma : d ≠ lowerSigma before rest ∧ d ≠ c := by
      constructor
      · rintro rfl
        rw [lowerSigma] at hd
        split at hd <;> cases hd
      · rintro rfl
        rw [hc] at hd
        cases hd
    rw [List.count_singleton, List.count_singleton, if_neg (by simpa using hsigma.1.symm),
      if_neg (by simpa using hsigma.2.symm)]
  · exact ⟨lowerChar c, by rw [lowerFrom, if_neg hc], lowerChar_ne_nil, fun d hd => count_lowerChar hd⟩

theorem count_lowerFrom (hd : isSeparator d = true) (before cs : List Char) :
    (lowerFrom before cs).count d = cs.count d := by
  induction cs generalizing before with
  | nil => rfl
  | cons c cs ih =>
      obtain ⟨first, hfirst, -, hcount⟩ := lowerFrom_cons before c cs
      rw [hfirst, List.count_append, ih, hcount d hd, ← List.count_append, List.singleton_append]

theorem mem_lowerFrom_iff (hd : isSeparator d = true) (before cs : List Char) :
    d ∈ lowerFrom before cs ↔ d ∈ cs := by
  rw [← List.count_pos_iff, count_lowerFrom hd, List.count_pos_iff]

theorem lowerFrom_eq_nil_iff (before cs : List Char) : lowerFrom before cs = [] ↔ cs = [] := by
  cases cs with
  | nil => exact Iff.rfl
  | cons c cs =>
      obtain ⟨first, hfirst, hne, -⟩ := lowerFrom_cons before c cs
      simp [hfirst, hne]

/-! ### Pieces -/

theorem startsCased_append_cons (hb : EndsWord b) (cs rest : List Char) :
    startsCased (cs ++ b :: rest) = startsCased cs := by
  induction cs with
  | nil => simp [startsCased, List.dropWhile, hb.notIgnorable, hb.uncased]
  | cons c cs ih =>
      by_cases hc : isIgnorable c = true
      · simpa [startsCased, List.dropWhile, hc] using ih
      · simp [startsCased, List.dropWhile, hc]

/-- What stands before the end of a word makes no difference. -/
theorem lowerFrom_append_cons_left (hb : EndsWord b) (before earlier cs : List Char) :
    lowerFrom (before ++ b :: earlier) cs = lowerFrom before cs := by
  induction cs generalizing before with
  | nil => rfl
  | cons c cs ih =>
      have ih := ih (c :: before)
      rw [List.cons_append] at ih
      rw [lowerFrom, lowerFrom, lowerSigma, lowerSigma, startsCased_append_cons hb, ih]

theorem EndsWord.ne_sigma (hb : EndsWord b) : b ≠ 'Σ' := by
  rintro rfl
  have hcased : isCased 'Σ' = true := by decide +kernel
  rw [hb.uncased] at hcased
  cases hcased

/-- **Lower case is taken piece by piece.** -/
theorem lowerFrom_append_cons (hb : EndsWord b) (before cs rest : List Char) :
    lowerFrom before (cs ++ b :: rest) = lowerFrom before cs ++ b :: lowerFrom [] rest := by
  induction cs generalizing before with
  | nil =>
      have hrest := lowerFrom_append_cons_left hb [] before rest
      rw [List.nil_append] at hrest
      show lowerFrom before (b :: rest) = b :: lowerFrom [] rest
      rw [lowerFrom, if_neg hb.ne_sigma, hb.fixed, hrest, List.singleton_append]
  | cons c cs ih =>
      rw [List.cons_append, lowerFrom, lowerFrom, lowerSigma, startsCased_append_cons hb, ih,
        List.append_assoc]
      rfl

/-- What ends words may be put before a text or after it. -/
theorem lowerFrom_append_left {bs : List Char} (hbs : ∀ b ∈ bs, EndsWord b) (cs : List Char) :
    lowerFrom [] (bs ++ cs) = bs ++ lowerFrom [] cs := by
  induction bs with
  | nil => rfl
  | cons b bs ih =>
      obtain ⟨hb, hbs⟩ := List.forall_mem_cons.mp hbs
      have hfirst := lowerFrom_append_cons hb [] [] (bs ++ cs)
      rw [ih hbs] at hfirst
      exact hfirst

theorem lowerFrom_append_right {bs : List Char} (hbs : ∀ b ∈ bs, EndsWord b) (cs : List Char) :
    lowerFrom [] (cs ++ bs) = lowerFrom [] cs ++ bs := by
  cases bs with
  | nil => rw [List.append_nil, List.append_nil]
  | cons b bs =>
      obtain ⟨hb, hbs⟩ := List.forall_mem_cons.mp hbs
      have hrest := lowerFrom_append_left hbs []
      rw [List.append_nil, lowerFrom, List.append_nil] at hrest
      rw [lowerFrom_append_cons hb, hrest]

theorem lowerFrom_joinWith (hsep : EndsWord sep) (parts : List (List Char)) :
    lowerFrom [] (joinWith sep parts) = joinWith sep (parts.map (lowerFrom [])) := by
  induction parts with
  | nil => rfl
  | cons part parts ih =>
      cases parts with
      | nil => rfl
      | cons next parts =>
          rw [joinWith, lowerFrom_append_cons hsep, ih]
          rfl

/-! ### Upper case after lower case -/

/-- Of a text with an upper case below 128 the lower case has the same. -/
theorem flatMap_upperChar_lowerFrom {cs : List Char}
    (h : ∀ d ∈ cs.flatMap upperChar, d.toNat < 128) (before : List Char) :
    (lowerFrom before cs).flatMap upperChar = cs.flatMap upperChar := by
  induction cs generalizing before with
  | nil => rfl
  | cons c cs ih =>
      rw [List.flatMap_cons] at h
      obtain ⟨hc, hcs⟩ := List.forall_mem_append.mp h
      have hsigma : c ≠ 'Σ' := by
        rintro rfl
        have hself : 'Σ' ∈ upperChar 'Σ' := by decide +kernel
        exact absurd (hc 'Σ' hself) (by decide)
      rw [lowerFrom, if_neg hsigma, List.flatMap_append, flatMap_upperChar_lowerChar hc, ih hcs,
        List.flatMap_cons]

end Case

end TypedLambda.Text
