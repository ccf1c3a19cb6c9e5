/-
The entry that decides about a record.

The modules above a module are its name cut off before each of its dots.  The search for an entry goes
through them from the longest to the shortest, and the empty name, which has the level for all other
modules, comes last.  Here the entry that it finds is described without a search: the module has it
itself or is below it, and every other such entry is above that one.  `Wanted` says with this what a
level and a list of entries ask for, and thresholds that agree with them module by module admit just
that.
-/
import TypedLambda.Log.Filter

namespace TypedLambda.Log

/-! ### Modules and those above them -/

/-- The module is the other one or above it. -/
def Covers (a m : String) : Prop :=
  a = m ∨ ∃ rest, m = a ++ "." ++ rest

theorem Covers.refl (m : String) : Covers m m :=
  .inl rfl

theorem Covers.length_le {a m : String} (h : Covers a m) : a.length ≤ m.length := by
  obtain rfl | ⟨rest, rfl⟩ := h
  · exact Nat.le_refl _
  · rw [String.length_append, String.length_append]
    omega

theorem Covers.antisymm {a b : String} (hab : Covers a b) (hba : Covers b a) : a = b := by
  obtain rfl | ⟨rest, hb⟩ := hab
  · rfl
  · have hlength := hba.length_le
    have hdot : ".".length = 1 := rfl
    rw [hb, String.length_append, String.length_append] at hlength
    omega

theorem Covers.eq_empty {a : String} (h : Covers a "") : a = "" := by
  obtain rfl | ⟨rest, hrest⟩ := h
  · rfl
  · have hlength := congrArg String.length hrest
    have hdot : ".".length = 1 := rfl
    have hempty : "".length = 0 := rfl
    rw [String.length_append, String.length_append] at hlength
    omega

theorem cons_eq_append_dot {a cs : List Char} {c : Char} :
    (∃ rest, c :: cs = rest ++ '.' :: a) ↔ c = '.' ∧ a = cs ∨ ∃ rest, cs = rest ++ '.' :: a := by
  constructor
  · rintro ⟨_ | ⟨d, rest⟩, h⟩
    · obtain ⟨rfl, rfl⟩ := List.cons_eq_cons.mp h
      exact .inl ⟨rfl, rfl⟩
    · exact .inr ⟨rest, (List.cons_eq_cons.mp h).2⟩
  · rintro (⟨rfl, rfl⟩ | ⟨rest, rfl⟩)
    · exact ⟨[], rfl⟩
    · exact ⟨c :: rest, rfl⟩

theorem mem_ancestors {a cs : List Char} :
    a ∈ ancestors cs ↔ a = [] ∨ ∃ rest, cs = rest ++ '.' :: a := by
  induction cs with
  | nil => simp [ancestors]
  | cons c cs ih =>
      rw [cons_eq_append_dot, ancestors]
      split
      · next hc => rw [List.mem_cons, ih, eq_true hc, true_and, or_left_comm]
      · next hc => rw [ih, eq_false hc, false_and, false_or]

theorem pairwise_ancestors (cs : List Char) :
    (ancestors cs).Pairwise fun a b => b ∈ ancestors a := by
  induction cs with
  | nil => exact List.pairwise_singleton _ _
  | cons c cs ih =>
      rw [ancestors]
      split
      · exact ih.cons fun _ hb => hb
      · exact ih

/-- Read backwards, the ancestors are what stands above the name. -/
theorem reverse_mem_ancestors_iff {a m : String} :
    a.toList.reverse ∈ ancestors m.toList.reverse ↔ a = "" ∨ ∃ rest, m = a ++ "." ++ rest := by
  rw [mem_ancestors]
  refine or_congr (by simp) ⟨?_, ?_⟩
  · rintro ⟨rest, hm⟩
    refine ⟨String.ofList rest.reverse, ?_⟩
    rw [← String.toList_inj, ← List.reverse_inj, hm]
    simp
  · rintro ⟨rest, rfl⟩
    exact ⟨rest.toList.reverse, by simp⟩

theorem mem_lineage {a m : String} : a ∈ lineage m ↔ a = "" ∨ Covers a m := by
  have hmem : a ∈ lineage m ↔ a = m ∨ a.toList.reverse ∈ ancestors m.toList.reverse := by
    rw [lineage, List.map_cons, List.mem_cons, List.reverse_reverse, String.ofList_toList,
      List.mem_map]
    refine or_congr Iff.rfl ⟨?_, ?_⟩
    · rintro ⟨cs, hcs, rfl⟩
      rwa [String.toList_ofList, List.reverse_reverse]
    · intro ha
      exact ⟨_, ha, by rw [List.reverse_reverse, String.ofList_toList]⟩
  rw [hmem, reverse_mem_ancestors_iff, Covers, or_left_comm]

/-- What comes later in the search is above what comes earlier. -/
theorem pairwise_lineage (m : String) :
    (lineage m).Pairwise fun a b => b = "" ∨ ∃ rest, a = b ++ "." ++ rest := by
  rw [lineage, List.pairwise_map]
  have hpairwise := (pairwise_ancestors m.toList.reverse).cons fun _ hb => hb
  refine hpairwise.imp fun {cs ds} h => ?_
  rw [← reverse_mem_ancestors_iff]
  simpa using h

/-! ### What a filter asks for -/

/-- A module and the level from which on its records are written; `none` drops them all. -/
abbrev Entry := String × Option Level

/-- A later entry for the same module counts. -/
def settingFor (es : List Entry) (m : String) : Option (Option Level) :=
  es.reverse.lookup m

/-- Among the module and those above it, the nearest with an entry. -/
structure Decides (es : List Entry) (m a : String) : Prop where
  covers : Covers a m
  entry : settingFor es a ≠ none
  nearest : ∀ b, Covers b m → settingFor es b ≠ none → Covers b a

/-- A record of the module with the number is to be written. -/
def Wanted (g : Level) (es : List Entry) (m : String) (k : Nat) : Prop :=
  (∃ a l, Decides es m a ∧ settingFor es a = some (some l) ∧ l.number ≤ k) ∨
    (∀ a, Covers a m → settingFor es a = none) ∧ g.number ≤ k

variable {es : List Entry} {g : Level} {ts : Thresholds} {m a b : String}

theorem Decides.unique (ha : Decides es m a) (hb : Decides es m b) : a = b :=
  (hb.nearest a ha.covers ha.entry).antisymm (ha.nearest b hb.covers hb.entry)

theorem Decides.wanted_iff (ha : Decides es m a) (k : Nat) :
    Wanted g es m k ↔ ∃ l, settingFor es a = some (some l) ∧ l.number ≤ k := by
  constructor
  · rintro (⟨b, l, hb, hl⟩ | ⟨hnone, -⟩)
    · rw [ha.unique hb]
      exact ⟨l, hl⟩
    · exact absurd (hnone a ha.covers) ha.entry
  · rintro ⟨l, hl⟩
    exact .inl ⟨a, l, ha, hl⟩

theorem wanted_iff_of_no_entry (hnone : ∀ a, Covers a m → settingFor es a = none) (k : Nat) :
    Wanted g es m k ↔ g.number ≤ k := by
  constructor
  · rintro (⟨a, l, ha, -⟩ | ⟨-, hg⟩)
    · exact absurd (hnone a ha.covers) ha.entry
    · exact hg
  · intro hg
    exact .inr ⟨hnone, hg⟩

/-! ### The search -/

/-- The thresholds are those of a level and of entries for modules with names. -/
structure Thresholds.Reflects (ts : Thresholds) (g : Level) (es : List Entry) : Prop where
  default : ts.lookup "" = some (some g.number)
  entry : ∀ a, a ≠ "" → ts.lookup a = (settingFor es a).map (Option.map Level.number)
  named : settingFor es "" = none

theorem Thresholds.Reflects.lookup_eq_none_iff (h : ts.Reflects g es) (ha : a ≠ "") :
    ts.lookup a = none ↔ settingFor es a = none := by
  rw [h.entry a ha, Option.map_eq_none_iff]

/-- The search ends at the entry that decides, or at the level for all other modules. -/
theorem Thresholds.Reflects.findSome_lineage (h : ts.Reflects g es) (m : String) :
    (∃ a o, Decides es m a ∧ settingFor es a = some o ∧
        (lineage m).findSome? (ts.lookup ·) = some (o.map Level.number)) ∨
      (∀ a, Covers a m → settingFor es a = none) ∧
        (lineage m).findSome? (ts.lookup ·) = some (some g.number) := by
  have hsome : ((lineage m).findSome? (ts.lookup ·)).isSome := by
    rw [List.findSome?_isSome_iff]
    exact ⟨"", mem_lineage.mpr (.inl rfl), by rw [h.default]; rfl⟩
  obtain ⟨t, ht⟩ := Option.isSome_iff_exists.mp hsome
  obtain ⟨before, a, after, hsplit, ha, hbefore⟩ := List.findSome?_eq_some_iff.mp ht
  have hpairwise := pairwise_lineage m
  rw [hsplit, List.pairwise_append, List.pairwise_cons] at hpairwise
  -- whatever has an entry is the one found, or it comes later and is above it
  have hafter : ∀ b, Covers b m → settingFor es b ≠ none → Covers b a := by
    intro b hb hentry
    have hne : b ≠ "" := by
      rintro rfl
      exact hentry h.named
    have hmem : b ∈ lineage m := mem_lineage.mpr (.inr hb)
    rw [hsplit, List.mem_append, List.mem_cons] at hmem
    obtain hmem | rfl | hmem := hmem
    · exact absurd ((h.lookup_eq_none_iff hne).mp (hbefore b hmem)) hentry
    · exact .inl rfl
    · exact .inr ((hpairwise.2.1.1 b hmem).resolve_left hne)
  by_cases hempty : a = ""
  · subst hempty
    refine .inr ⟨?_, by rw [ht, ← ha, h.default]⟩
    intro b hb
    refine Classical.byContradiction fun hentry => ?_
    obtain rfl := (hafter b hb hentry).eq_empty
    exact hentry h.named
  · have hcovers : Covers a m := by
      have hmem : a ∈ lineage m := by simp [hsplit]
      exact (mem_lineage.mp hmem).resolve_left hempty
    rw [h.entry a hempty] at ha
    obtain ⟨o, ho, rfl⟩ := Option.map_eq_some_iff.mp ha
    exact .inl ⟨a, o, ⟨hcovers, by simp [ho], hafter⟩, ho, ht⟩

/-- **Thresholds admit what their level and entries ask for.** -/
theorem Thresholds.Reflects.admits_iff (h : ts.Reflects g es) (m : String) (k : Nat) :
    ts.admits m k = true ↔ Wanted g es m k := by
  obtain ⟨a, o, ha, ho, hfound⟩ | ⟨hnone, hfound⟩ := h.findSome_lineage m
  · rw [ha.wanted_iff, ho, admits, hfound]
    cases o with
    | none => simp
    | some l => simp
  · rw [wanted_iff_of_no_entry hnone, admits, hfound]
    exact decide_eq_true_iff

end TypedLambda.Log
