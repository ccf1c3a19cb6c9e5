/-
How a filter is written, and what is read.

`Spells` says of a text that it has a level and entries as its parts, between commas and in any order
of the level among the entries.  There may be blanks around a part, and around the two sides of an
equals sign, and a level may be in any case.  Reading such a text finds the level and the entries, each
under the lower case of its module: the text is put into lower case as a whole, and as no comma, no
equals sign and no blank comes or goes with that, this is the lower case of each name by itself.
-/
import TypedLambda.Proofs.Log.Nearest
import TypedLambda.Proofs.Text.Case.Words
import TypedLambda.Proofs.Results
import TypedLambda.Proofs.Text.Parts

namespace TypedLambda.Log

open Text

/-! ### Written filters -/

/-- The text is the core with blanks around it. -/
def Padded (core text : List Char) : Prop :=
  ∃ before after, (∀ c ∈ before, isBlank c = true) ∧ (∀ c ∈ after, isBlank c = true) ∧
    text = before ++ core ++ after

/-- The word is the name of a level in any case, or `false`. -/
inductive SpellsSetting (word : List Char) : Option Level → Prop
  | off (h : Text.toLower (String.ofList word) = "false") : SpellsSetting word none
  | level (l : Level) (h : Text.toUpper (String.ofList word) = l.name) : SpellsSetting word (some l)

/-- A name that can be given an entry. -/
structure IsModuleName (n : String) : Prop where
  nonempty : n ≠ ""
  plain : ∀ c ∈ n.toList, isBlank c = false ∧ c ≠ ',' ∧ c ≠ '='

instance (n : String) : Decidable (IsModuleName n) :=
  decidable_of_iff
    (n ≠ "" ∧ n.toList.all (fun c => !isBlank c && c != ',' && c != '=') = true)
    ⟨fun h => ⟨h.1, by simpa [and_assoc] using h.2⟩,
      fun h => ⟨h.nonempty, by simpa [and_assoc] using h.plain⟩⟩

structure SpellsEntry (text : List Char) (e : Entry) : Prop where
  named : IsModuleName e.1
  sides : ∃ left right word, text = left ++ '=' :: right ∧ Padded e.1.toList left ∧
    Padded word right ∧ SpellsSetting word e.2

def SpellsLevel (text : List Char) (g : Level) : Prop :=
  ∃ word, Padded word text ∧ SpellsSetting word (some g)

/-- The text is a filter with the level and the entries. -/
def Spells (s : String) (g : Level) (es : List Entry) : Prop :=
  ∃ before level after, s.toList = joinWith ',' (before ++ level :: after) ∧ SpellsLevel level g ∧
    ∃ first second, List.Forall₂ SpellsEntry before first ∧ List.Forall₂ SpellsEntry after second ∧
      es = first ++ second

/-! ### Blanks -/

theorem endsWord_of_isBlank {c : Char} (hc : isBlank c = true) : Case.EndsWord c := by
  refine Case.endsWord_of_isSeparator (by simp [isSeparator, hc]) ?_
  rintro rfl
  cases hc

theorem not_isBlank {c : Char} (hc : isSeparator c = false) : isBlank c = false := by
  simp only [isSeparator, Bool.or_eq_false_iff] at hc
  exact hc.1.1.1

/-- There is something in the text, and no blanks. -/
structure IsWord (cs : List Char) : Prop where
  nonempty : cs ≠ []
  not_blank : ∀ c ∈ cs, isBlank c = false

namespace Padded

variable {core text : List Char}

theorem refl (core : List Char) : Padded core core :=
  ⟨[], [], by simp, by simp, by simp⟩

theorem lower (h : Padded core text) :
    Padded (Case.lowerFrom [] core) (Case.lowerFrom [] text) := by
  obtain ⟨before, after, hbefore, hafter, rfl⟩ := h
  refine ⟨before, after, hbefore, hafter, ?_⟩
  rw [Case.lowerFrom_append_right fun c hc => endsWord_of_isBlank (hafter c hc),
    Case.lowerFrom_append_left fun c hc => endsWord_of_isBlank (hbefore c hc)]

theorem trim (h : Padded core text) (hcore : IsWord core) : trimBy isBlank text = core := by
  obtain ⟨before, after, hbefore, hafter, rfl⟩ := h
  rw [trimBy_append_right hafter, trimBy_append_left hbefore, trimBy_of_forall hcore.not_blank]

theorem not_mem (h : Padded core text) {d : Char} (hd : isBlank d = false) (hcore : d ∉ core) :
    d ∉ text := by
  obtain ⟨before, after, hbefore, hafter, rfl⟩ := h
  have hout : ∀ {bs : List Char}, (∀ c ∈ bs, isBlank c = true) → d ∉ bs := by
    intro bs hbs hmem
    rw [hbs d hmem] at hd
    cases hd
  simp [hout hbefore, hout hafter, hcore]

end Padded

/-- Trimming a text with two sides leaves each side with blanks around it at most. -/
theorem trimBy_sides {l r left right : List Char} (hleft : Padded l left) (hright : Padded r right)
    (hl : IsWord l) (hr : IsWord r) :
    ∃ left' right', trimBy isBlank (left ++ '=' :: right) = left' ++ '=' :: right' ∧
      Padded l left' ∧ Padded r right' := by
  obtain ⟨lb, la, hlb, hla, rfl⟩ := hleft
  obtain ⟨rb, ra, hrb, hra, rfl⟩ := hright
  refine ⟨l ++ la, rb ++ r, ?_, ⟨[], la, by simp, hla, rfl⟩, ⟨rb, [], hrb, by simp, by simp⟩⟩
  have hregroup : lb ++ l ++ la ++ '=' :: (rb ++ r ++ ra) =
      lb ++ (l ++ la ++ '=' :: (rb ++ r)) ++ ra := by simp
  rw [hregroup, trimBy_append_right hra, trimBy_append_left hlb]
  refine trimBy_eq_self ?_ ?_
  · obtain ⟨c, cs, rfl⟩ := List.exists_cons_of_ne_nil hl.nonempty
    simpa using hl.not_blank c List.mem_cons_self
  · have hassoc : l ++ la ++ '=' :: (rb ++ r) = (l ++ la ++ '=' :: rb) ++ r := by simp
    intro c hc
    rw [hassoc, List.getLast?_append_of_ne_nil _ hr.nonempty] at hc
    exact hr.not_blank c (List.mem_of_getLast? hc)

/-! ### Words -/

/-- What a setting is read as. -/
def rule : Option Level → Rule
  | none => .off
  | some l => .level l.name

theorem name_plain (l : Level) : ∀ c ∈ l.name.toList, c.toNat < 128 ∧ isSeparator c = false := by
  have hall : l.name.toList.all (fun c => c.toNat < 128 && !isSeparator c) = true := by
    cases l <;> decide
  simpa using hall

namespace SpellsSetting

variable {word : List Char} {o : Option Level}

theorem plain (h : SpellsSetting word o) : ∀ c ∈ word, isSeparator c = false := by
  intro c hc
  rw [← Bool.not_eq_true]
  intro hseparator
  cases h with
  | off h =>
      have hword : Case.lowerFrom [] word = "false".toList := by
        rw [← h, toList_toLower, String.toList_ofList]
      rw [← Case.mem_lowerFrom_iff hseparator [], hword] at hc
      have hall : "false".toList.all (fun c => !isSeparator c) = true := by decide
      have hfalse := List.all_eq_true.mp hall c hc
      rw [hseparator] at hfalse
      cases hfalse
  | level l h =>
      have hmem : c ∈ word.flatMap Case.upperChar :=
        List.mem_flatMap.mpr ⟨c, hc, by simp [Case.upperChar_of_isSeparator hseparator]⟩
      rw [← String.toList_ofList (l := word), ← toList_toUpper, h] at hmem
      rw [(name_plain l c hmem).2] at hseparator
      cases hseparator

theorem ne_nil (h : SpellsSetting word o) : word ≠ [] := by
  rintro rfl
  cases h with
  | off h => exact absurd h (by decide)
  | level l h =>
      revert h
      cases l <;> decide

theorem plain_lower (h : SpellsSetting word o) :
    ∀ c ∈ Case.lowerFrom [] word, isSeparator c = false := by
  intro c hc
  rw [← Bool.not_eq_true]
  intro hseparator
  rw [Case.mem_lowerFrom_iff hseparator] at hc
  rw [h.plain c hc] at hseparator
  cases hseparator

theorem isWord_lower (h : SpellsSetting word o) : IsWord (Case.lowerFrom [] word) := by
  refine ⟨?_, fun c hc => not_isBlank (h.plain_lower c hc)⟩
  rw [Ne, Case.lowerFrom_eq_nil_iff]
  exact h.ne_nil

/-- The lower case of the word still names the level. -/
theorem toUpper_lower {l : Level} (h : Text.toUpper (String.ofList word) = l.name) :
    Text.toUpper (String.ofList (Case.lowerFrom [] word)) = l.name := by
  have hword : word.flatMap Case.upperChar = l.name.toList := by
    rw [← h, toList_toUpper, String.toList_ofList]
  have hsmall : ∀ c ∈ word.flatMap Case.upperChar, c.toNat < 128 := by
    rw [hword]
    exact fun c hc => (name_plain l c hc).1
  rw [← String.toList_inj, toList_toUpper, String.toList_ofList,
    Case.flatMap_upperChar_lowerFrom hsmall, hword]

/-- A word is read in lower case. -/
theorem readRule (h : SpellsSetting word o) {text : List Char}
    (htext : Padded (Case.lowerFrom [] word) text) : FilterSpec.readRule text = rule o := by
  rw [FilterSpec.readRule, htext.trim h.isWord_lower]
  cases h with
  | off h =>
      rw [← h, toList_toLower, String.toList_ofList, if_pos rfl]
      rfl
  | level l h =>
      have hupper := toUpper_lower h
      have hword : Case.lowerFrom [] word ≠ "false".toList := by
        intro hword
        rw [hword] at hupper
        revert hupper
        cases l <;> decide
      rw [if_neg hword, hupper, rule]

end SpellsSetting

/-! ### Parts -/

/-- The entry under the lower case of its module. -/
def Entry.lower (e : Entry) : Entry :=
  (Text.toLower e.1, e.2)

theorem IsModuleName.isWord {n : String} (h : IsModuleName n) : IsWord n.toList := by
  refine ⟨?_, fun c hc => (h.plain c hc).1⟩
  rw [Ne, String.toList_eq_nil_iff]
  exact h.nonempty

theorem IsModuleName.lower {n : String} (h : IsModuleName n) : IsModuleName (Text.toLower n) := by
  constructor
  · rw [Ne, ← String.toList_eq_nil_iff, toList_toLower, Case.lowerFrom_eq_nil_iff]
    exact h.isWord.nonempty
  · intro c hc
    rw [toList_toLower] at hc
    by_cases hseparator : isSeparator c = true
    · exact h.plain c ((Case.mem_lowerFrom_iff hseparator [] _).mp hc)
    · simp only [isSeparator, Bool.or_eq_true, beq_iff_eq, not_or, Bool.not_eq_true] at hseparator
      exact ⟨hseparator.1.1.1, hseparator.1.1.2, hseparator.1.2⟩

/-- A part, as it is when it is read. -/
def asRead (text : List Char) : List Char :=
  trimBy isBlank (Case.lowerFrom [] text)

/-- The text holds no comma, and something is left of it when it is read. -/
def IsPart (text : List Char) : Prop :=
  ',' ∉ text ∧ asRead text ≠ []

section

variable {text : List Char} {e : Entry} {g : Level}

theorem SpellsEntry.asRead_eq (h : SpellsEntry text e) :
    ∃ left right word, asRead text = left ++ '=' :: right ∧ Padded e.lower.1.toList left ∧
      Padded (Case.lowerFrom [] word) right ∧ SpellsSetting word e.2 := by
  obtain ⟨left, right, word, rfl, hleft, hright, hword⟩ := h.sides
  have hlower : Case.lowerFrom [] (left ++ '=' :: right) =
      Case.lowerFrom [] left ++ '=' :: Case.lowerFrom [] right :=
    Case.lowerFrom_append_cons (Case.endsWord_of_isSeparator rfl (by decide)) _ _ _
  have hname : Padded e.lower.1.toList (Case.lowerFrom [] left) := by
    rw [Entry.lower, toList_toLower]
    exact hleft.lower
  obtain ⟨left', right', htrim, hleft', hright'⟩ :=
    trimBy_sides hname hright.lower h.named.lower.isWord hword.isWord_lower
  exact ⟨left', right', word, by rw [asRead, hlower, htrim], hleft', hright', hword⟩

theorem SpellsEntry.addPart (h : SpellsEntry text e) (f : FilterSpec) :
    f.addPart (asRead text) = { f with entries := setRule e.lower.1 (rule e.2) f.entries } := by
  obtain ⟨left, right, word, hread, hleft, hright, hword⟩ := h.asRead_eq
  have hname : IsModuleName e.lower.1 := h.named.lower
  have hequals : '=' ∉ left := hleft.not_mem rfl fun hmem => (hname.plain _ hmem).2.2 rfl
  rw [hread, FilterSpec.addPart, cutAt_eq_some_iff.mpr ⟨rfl, hequals⟩]
  dsimp only
  rw [hleft.trim hname.isWord, hword.readRule hright, String.ofList_toList]

theorem SpellsEntry.isPart (h : SpellsEntry text e) : IsPart text := by
  obtain ⟨left, right, word, htext, hleft, hright, hword⟩ := h.sides
  have hl : ',' ∉ left := hleft.not_mem rfl fun hmem => (h.named.plain _ hmem).2.1 rfl
  have hr : ',' ∉ right := hright.not_mem rfl fun hmem => (nomatch hword.plain _ hmem)
  obtain ⟨_, _, _, hread, -⟩ := h.asRead_eq
  exact ⟨by simp [htext, hl, hr], by simp [hread]⟩

theorem SpellsLevel.asRead_eq (h : SpellsLevel text g) :
    ∃ word, asRead text = Case.lowerFrom [] word ∧ SpellsSetting word (some g) := by
  obtain ⟨word, hpadded, hword⟩ := h
  exact ⟨word, hpadded.lower.trim hword.isWord_lower, hword⟩

theorem SpellsLevel.addPart (h : SpellsLevel text g) :
    ∃ level, Text.toUpper level = g.name ∧
      ∀ f : FilterSpec, f.addPart (asRead text) = { f with level := level } := by
  obtain ⟨word, hread, hword⟩ := h.asRead_eq
  have hequals : '=' ∉ Case.lowerFrom [] word := by
    intro hmem
    cases hword.plain_lower _ hmem
  refine ⟨String.ofList (Case.lowerFrom [] word), ?_, fun f => ?_⟩
  · cases hword with
    | level _ hname => exact SpellsSetting.toUpper_lower hname
  · rw [hread, FilterSpec.addPart, cutAt_eq_none_iff.mpr hequals]

theorem SpellsLevel.isPart (h : SpellsLevel text g) : IsPart text := by
  obtain ⟨word, hpadded, hword⟩ := h
  refine ⟨hpadded.not_mem rfl fun hmem => (nomatch hword.plain _ hmem), ?_⟩
  rw [asRead, hpadded.lower.trim hword.isWord_lower]
  exact hword.isWord_lower.nonempty

end

/-! ### Whole filters -/

/-- What entries are read as: a module stands where it came first, with the last of its settings. -/
def entriesOf (es : List Entry) : List (String × Rule) :=
  es.foldl (fun rs e => setRule e.1 (rule e.2) rs) []

theorem parts_of_joinWith {s : String} {texts : List (List Char)}
    (hs : s.toList = joinWith ',' texts) (hne : texts ≠ []) (h : ∀ text ∈ texts, IsPart text) :
    FilterSpec.parts s = texts.map asRead := by
  have hends : Case.EndsWord ',' := Case.endsWord_of_isSeparator rfl (by decide)
  have hlower : (Text.toLower s).toList = joinWith ',' (texts.map (Case.lowerFrom [])) := by
    rw [toList_toLower, hs, Case.lowerFrom_joinWith hends]
  have hsplit : splitAt ',' (Text.toLower s).toList = texts.map (Case.lowerFrom []) := by
    rw [hlower, splitAt_joinWith (by simpa using hne)]
    intro part hpart
    obtain ⟨text, htext, rfl⟩ := List.mem_map.mp hpart
    rw [Case.mem_lowerFrom_iff rfl]
    exact (h text htext).1
  rw [FilterSpec.parts, hsplit, List.map_map]
  refine List.filter_eq_self.mpr fun part hpart => ?_
  obtain ⟨text, htext, rfl⟩ := List.mem_map.mp hpart
  exact decide_eq_true (h text htext).2

theorem foldl_addPart {texts : List (List Char)} {es : List Entry}
    (h : List.Forall₂ SpellsEntry texts es) (f : FilterSpec) :
    (texts.map asRead).foldl FilterSpec.addPart f =
      { f with
        entries := (es.map Entry.lower).foldl (fun rs e => setRule e.1 (rule e.2) rs) f.entries } := by
  induction h generalizing f with
  | nil => rfl
  | cons hfirst _ ih =>
      rw [List.map_cons, List.foldl_cons, hfirst.addPart, ih]
      rfl

theorem Spells.named {s : String} {g : Level} {es : List Entry} (h : Spells s g es) :
    ∀ e ∈ es, IsModuleName e.1 := by
  obtain ⟨before, text, after, -, -, first, second, hfirst, hsecond, rfl⟩ := h
  have hentries : ∀ {texts es}, List.Forall₂ SpellsEntry texts es → ∀ e ∈ es, IsModuleName e.1 := by
    intro texts es h e he
    obtain ⟨text, -, htext⟩ := exists_of_forall₂_of_mem h.flip he
    exact htext.named
  exact List.forall_mem_append.mpr ⟨hentries hfirst, hentries hsecond⟩

/-- **What is read of a filter**: the level, and the entries under names in lower case. -/
theorem Spells.parse {s : String} {g : Level} {es : List Entry} (h : Spells s g es) :
    ∃ level, Text.toUpper level = g.name ∧
      FilterSpec.parse s = ⟨level, entriesOf (es.map Entry.lower)⟩ := by
  obtain ⟨before, text, after, hs, htext, first, second, hfirst, hsecond, rfl⟩ := h
  have hentries : ∀ {texts es}, List.Forall₂ SpellsEntry texts es → ∀ text ∈ texts, IsPart text := by
    intro texts es h text htext
    obtain ⟨e, -, he⟩ := exists_of_forall₂_of_mem h htext
    exact he.isPart
  have hparts : ∀ part ∈ before ++ text :: after, IsPart part := by
    rw [List.forall_mem_append, List.forall_mem_cons]
    exact ⟨hentries hfirst, htext.isPart, hentries hsecond⟩
  obtain ⟨level, hlevel, hadd⟩ := htext.addPart
  refine ⟨level, hlevel, ?_⟩
  rw [FilterSpec.parse, parts_of_joinWith hs (by simp) hparts, List.map_append, List.map_cons,
    List.foldl_append, List.foldl_cons, foldl_addPart hfirst, hadd, foldl_addPart hsecond,
    entriesOf, List.map_append, List.foldl_append]

end TypedLambda.Log
