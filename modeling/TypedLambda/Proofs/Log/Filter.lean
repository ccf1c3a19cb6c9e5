/-
Which records a written filter lets through.

A filter with a level and entries is always accepted, by either profile, and after that a record is
written exactly if the level and the entries ask for it, taken under the lower case of their modules.
That is the same as the entries ask for as they are written, for as long as the modules are named in
lower case.  It is not otherwise: `Foo=false` says nothing of a module `Foo`, as the text is put into
lower case with the name in it, and a record is looked up by the name as it is.
-/
import TypedLambda.Log
import TypedLambda.Proofs.Log.Reading
import TypedLambda.Proofs.Results
import Mathlib.Data.List.Induction

namespace TypedLambda

namespace Log

open Text

/-! ### Rules -/

theorem lookup_cons {β : Type} (e : String × β) (l : List (String × β)) (a : String) :
    (e :: l).lookup a = if a = e.1 then some e.2 else l.lookup a := by
  obtain ⟨k, b⟩ := e
  rw [List.lookup_cons]
  by_cases h : a = k
  · rw [beq_iff_eq.mpr h, if_pos h]
  · rw [beq_eq_false_iff_ne.mpr h, if_neg h]

theorem lookup_setRule (m : String) (r : Rule) (rs : List (String × Rule)) (a : String) :
    (setRule m r rs).lookup a = if a = m then some r else rs.lookup a := by
  induction rs with
  | nil => exact lookup_cons (m, r) [] a
  | cons e rs ih =>
      rw [setRule]
      split
      · next he =>
          rw [lookup_cons, lookup_cons, he]
          split <;> rfl
      · next he =>
          rw [lookup_cons, lookup_cons, ih]
          split
          · next ha => rw [if_neg (ha ▸ he)]
          · rfl

theorem mem_of_mem_setRule {m : String} {r : Rule} {rs : List (String × Rule)}
    {e : String × Rule} (h : e ∈ setRule m r rs) : e = (m, r) ∨ e ∈ rs := by
  induction rs with
  | nil => exact .inl (List.mem_singleton.mp h)
  | cons first rs ih =>
      rw [setRule] at h
      split at h
      · exact (List.mem_cons.mp h).imp_right (List.mem_cons_of_mem _)
      · rcases List.mem_cons.mp h with rfl | h
        · exact .inr List.mem_cons_self
        · exact (ih h).imp_right (List.mem_cons_of_mem _)

theorem settingFor_concat (es : List Entry) (e : Entry) (a : String) :
    settingFor (es ++ [e]) a = if a = e.1 then some e.2 else settingFor es a := by
  rw [settingFor, List.reverse_append]
  exact lookup_cons e es.reverse a

theorem settingFor_eq_none {es : List Entry} {a : String} (h : ∀ e ∈ es, e.1 ≠ a) :
    settingFor es a = none := by
  rw [settingFor, List.lookup_eq_none_iff]
  intro e he
  simpa using (h e (List.mem_reverse.mp he)).symm

theorem entriesOf_concat (es : List Entry) (e : Entry) :
    entriesOf (es ++ [e]) = setRule e.1 (rule e.2) (entriesOf es) := by
  rw [entriesOf, List.foldl_append]
  rfl

/-- The rule of a module is that of its last entry. -/
theorem lookup_entriesOf (es : List Entry) (a : String) :
    (entriesOf es).lookup a = (settingFor es a).map rule := by
  induction es using List.reverseRecOn with
  | nil => rfl
  | append_singleton es e ih =>
      rw [entriesOf_concat, lookup_setRule, settingFor_concat, ih]
      split <;> rfl

theorem mem_entriesOf {es : List Entry} {r : String × Rule} (h : r ∈ entriesOf es) :
    ∃ e ∈ es, r = (e.1, rule e.2) := by
  induction es using List.reverseRecOn with
  | nil => cases h
  | append_singleton es e ih =>
      rw [entriesOf_concat] at h
      rcases mem_of_mem_setRule h with rfl | h
      · exact ⟨e, by simp, rfl⟩
      · obtain ⟨e', he', hr⟩ := ih h
        exact ⟨e', List.mem_append_left _ he', hr⟩

/-- The rules of the entries, and under the empty name that of the level. -/
def rulesOf (g : Level) (es : List Entry) : List (String × Rule) :=
  entriesOf es ++ [("", rule (some g))]

theorem rules_eq_rulesOf {level : String} {g : Level} {es : List Entry}
    (hlevel : Text.toUpper level = g.name) (hnamed : ∀ e ∈ es, e.1 ≠ "") :
    (FilterSpec.mk level (entriesOf es)).rules = rulesOf g es := by
  have hnone : (entriesOf es).any (·.1 == "") = false := by
    rw [List.any_eq_false]
    intro r hr
    obtain ⟨e, he, rfl⟩ := mem_entriesOf hr
    simpa using hnamed e he
  rw [FilterSpec.rules, hnone, hlevel]
  rfl

theorem mem_rulesOf {g : Level} {es : List Entry} {r : String × Rule} (h : r ∈ rulesOf g es) :
    ∃ o, r.2 = rule o := by
  rcases List.mem_append.mp h with h | h
  · obtain ⟨e, -, rfl⟩ := mem_entriesOf h
    exact ⟨e.2, rfl⟩
  · rw [List.mem_singleton.mp h]
    exact ⟨some g, rfl⟩

theorem lookup_rulesOf (g : Level) (es : List Entry) (a : String) :
    (rulesOf g es).lookup a =
      ((settingFor es a).or (if a = "" then some (some g) else none)).map rule := by
  rw [rulesOf, List.lookup_append, lookup_entriesOf, lookup_cons, Option.map_or]
  split <;> rfl

/-! ### Thresholds -/

/-- The threshold of a rule whose level there is. -/
def Rule.least : Rule → Option Nat
  | off => none
  | level name => (Level.ofName? name).map Level.number

theorem ofName?_name (l : Level) : Level.ofName? l.name = some l := by
  cases l <;> decide

theorem least_rule (o : Option Level) : (rule o).least = o.map Level.number := by
  cases o with
  | none => rfl
  | some l =>
      rw [rule, Rule.least, ofName?_name]

theorem threshold_rule (o : Option Level) (m : String) :
    (rule o).threshold m = .ok (rule o).least := by
  cases o with
  | none => rfl
  | some l =>
      rw [rule, Rule.threshold, Rule.least, ofName?_name]
      rfl

theorem lookup_map_least (rs : List (String × Rule)) (a : String) :
    (rs.map fun r => (r.1, r.2.least)).lookup a = (rs.lookup a).map Rule.least := by
  induction rs with
  | nil => rfl
  | cons r rs ih =>
      rw [List.map_cons, lookup_cons, lookup_cons, ih]
      split <;> rfl

/-- A level and entries that were read are put to use. -/
theorem thresholds_reflects {level : String} {g : Level} {es : List Entry}
    (hlevel : Text.toUpper level = g.name) (hnamed : ∀ e ∈ es, e.1 ≠ "") :
    ∃ ts, (FilterSpec.mk level (entriesOf es)).thresholds = .ok ts ∧ ts.Reflects g es := by
  have hempty : settingFor es "" = none := settingFor_eq_none hnamed
  have hleast : Rule.least ∘ rule = Option.map Level.number := funext least_rule
  refine ⟨(rulesOf g es).map fun r => (r.1, r.2.least), ?_, ?_, ?_, hempty⟩
  · rw [FilterSpec.thresholds, rules_eq_rulesOf hlevel hnamed, mapM_eq_ok,
      List.forall₂_map_right_iff, List.forall₂_same]
    intro r hr
    obtain ⟨o, ho⟩ := mem_rulesOf hr
    rw [ho, threshold_rule]
    rfl
  · rw [lookup_map_least, lookup_rulesOf, Option.map_map, hleast, hempty]
    rfl
  · intro a ha
    rw [lookup_map_least, lookup_rulesOf, Option.map_map, hleast, if_neg ha, Option.or_none]

/-! ### Layout -/

theorem Profile.layout_ne_nil (p : Profile) (r : Record) : p.layout r ≠ [] := by
  have hlines : ∀ s, Text.lines s ≠ [] := by
    intro s
    simpa [Text.lines] using splitAt_ne_nil '\n' s.toList
  have hdisplay : ∀ s, Text.displayLines s ≠ [] := by
    intro s
    simpa [Text.displayLines] using splitAt_ne_nil '\n' (withoutCursorControls s)
  cases p with
  | standard => simpa [layout] using hlines _
  | cli =>
      obtain ⟨first, rest, hmessage⟩ := List.exists_cons_of_ne_nil (hdisplay r.message)
      simp [layout, hmessage, besideLabel]

end Log

namespace Logging

open Log

/-- Configured for the first time, by either profile, the filter writes what is asked for. -/
def Honours (s : String) (g : Level) (es : List Entry) : Prop :=
  ∀ (L : Logging) (p : Profile), L.profile ≠ some p →
    ∃ L', L.configure p s = (.ok (), L') ∧
      ∀ r : Record, L'.write r ≠ [] ↔ Wanted g es r.module r.severity.number

/-- A filter does what its entries ask for under the lower case of their modules. -/
theorem honours_lower {s : String} {g : Level} {es : List Entry} (h : Spells s g es) :
    Honours s g (es.map Entry.lower) := by
  obtain ⟨level, hlevel, hparse⟩ := h.parse
  have hnamed : ∀ e ∈ es.map Entry.lower, e.1 ≠ "" := by
    intro e he
    obtain ⟨e', he', rfl⟩ := List.mem_map.mp he
    exact (h.named e' he').lower.nonempty
  obtain ⟨ts, hts, hreflects⟩ := thresholds_reflects hlevel hnamed
  intro L p hp
  refine ⟨⟨some p, some ⟨p, ts⟩, true⟩, ?_, fun r => ?_⟩
  · rw [configure, if_neg hp, hparse, hts]
  · rw [← hreflects.admits_iff]
    show Sink.write ⟨p, ts⟩ r ≠ [] ↔ _
    rw [Sink.write]
    split
    · next hadmits => simp [hadmits, Profile.layout_ne_nil]
    · next hadmits => simp [hadmits]

/-- The lower case of a name has as many dots, so it is not above the name. -/
theorem toLower_eq_of_covers {n : String} (h : Covers (Text.toLower n) n) : Text.toLower n = n := by
  obtain heq | ⟨rest, hrest⟩ := h
  · exact heq
  · have hcount : (Text.toLower n).toList.count '.' = n.toList.count '.' := by
      rw [Text.toList_toLower, Text.Case.count_lowerFrom rfl]
    have hmore : n.toList.count '.' =
        (Text.toLower n).toList.count '.' + ".".toList.count '.' + rest.toList.count '.' := by
      conv_lhs => rw [hrest]
      rw [String.toList_append, String.toList_append, List.count_append, List.count_append]
    have hdot : ".".toList.count '.' = 1 := rfl
    omega

/-- `info` for all modules, and one module dropped. -/
def dropping (n : String) : String :=
  "info," ++ n ++ "=false"

theorem spells_dropping {n : String} (h : IsModuleName n) :
    Spells (dropping n) .info [(n, none)] := by
  have hlevel : SpellsLevel "info".toList .info :=
    ⟨"info".toList, .refl _, .level .info (by decide +kernel)⟩
  have hentry : SpellsEntry (n.toList ++ "=false".toList) (n, none) :=
    ⟨h, n.toList, "false".toList, "false".toList, by simp, .refl _, .refl _,
      .off (by decide +kernel)⟩
  refine ⟨[], "info".toList, [n.toList ++ "=false".toList], ?_, hlevel, [], [(n, none)], .nil,
    .cons hentry .nil, rfl⟩
  simp [dropping, Text.joinWith]

theorem settingFor_singleton (e : Entry) (a : String) :
    settingFor [e] a = if a = e.1 then some e.2 else none :=
  settingFor_concat [] e a

theorem not_wanted_dropped (n : String) : ¬ Wanted .info [(n, none)] n 20 := by
  have hdecides : Decides [(n, none)] n n := by
    refine ⟨.refl n, by simp [settingFor_singleton], ?_⟩
    intro b _ hentry
    rw [settingFor_singleton] at hentry
    split at hentry
    · next hb => exact hb ▸ .refl n
    · exact absurd rfl hentry
  rw [hdecides.wanted_iff, settingFor_singleton, if_pos rfl]
  rintro ⟨l, hl, -⟩
  cases hl

/-- If the filter drops the module, then its name is its own lower case. -/
theorem toLower_eq_of_honours_dropping {n : String} (hn : IsModuleName n)
    (h : Honours (dropping n) .info [(n, none)]) : Text.toLower n = n := by
  obtain ⟨L, hL, hdropped⟩ := h {} .standard nofun
  obtain ⟨L', hL', hlower⟩ := honours_lower (spells_dropping hn) {} .standard nofun
  obtain rfl : L' = L := by
    rw [hL] at hL'
    exact (Prod.mk.inj hL').2.symm
  have hwanted := (hlower ⟨n, "", Level.info.severity, ""⟩).symm.trans (hdropped _)
  refine Classical.byContradiction fun hne => not_wanted_dropped n (hwanted.mp ?_)
  refine (wanted_iff_of_no_entry (fun a ha => settingFor_eq_none ?_) _).mpr (Nat.le_refl _)
  intro e he hea
  obtain rfl := List.mem_singleton.mp he
  rw [← hea] at ha
  exact hne (toLower_eq_of_covers ha)

/--
**Filters are honoured for modules that are named in lower case, and for no others.**  All filters with
entries for certain modules do what their entries ask for exactly if each of the names is its own lower
case.  For all modules, a filter is accepted, and does what its entries ask for under the lower case of
their names.
-/
theorem honours_iff_toLower_eq (N : String → Prop) :
    ((∀ s g es, Spells s g es → (∀ e ∈ es, N e.1) → Honours s g es) ↔
        ∀ n, IsModuleName n → N n → Text.toLower n = n) ∧
      ∀ s g es, Spells s g es → Honours s g (es.map Entry.lower) := by
  refine ⟨⟨?_, ?_⟩, fun _ _ _ h => honours_lower h⟩
  · intro h n hn hN
    exact toLower_eq_of_honours_dropping hn (h _ _ _ (spells_dropping hn) (by simpa using hN))
  · intro hN s g es h hes
    have hself : ∀ e ∈ es, Entry.lower e = id e :=
      fun e he => Prod.ext (hN e.1 (h.named e he) (hes e he)) rfl
    have hlower := honours_lower h
    rwa [List.map_congr_left hself, List.map_id] at hlower

/-- The order, blanks and the case of a level do not matter, and one entry is below the other. -/
theorem honours_iff_toLower_eq_nested :
    let es : List Entry := [("a.b", none), ("a", some .debug)]
    Spells "a.b = FALSE , Warning,\ta=Debug" .warning es ∧
      Honours "a.b = FALSE , Warning,\ta=Debug" .warning es := by
  intro es
  have hblank : ∀ c ∈ [' '], Text.isBlank c = true := List.forall_mem_singleton.mpr rfl
  have htab : ∀ c ∈ ['\t'], Text.isBlank c = true := List.forall_mem_singleton.mpr rfl
  have hinner : SpellsEntry "a.b = FALSE ".toList ("a.b", none) := by
    refine ⟨by decide, "a.b ".toList, " FALSE ".toList, "FALSE".toList, rfl,
      ⟨[], [' '], nofun, hblank, rfl⟩, ⟨[' '], [' '], hblank, hblank, rfl⟩, .off ?_⟩
    decide +kernel
  have hlevel : SpellsLevel " Warning".toList .warning := by
    refine ⟨"Warning".toList, ⟨[' '], [], hblank, nofun, rfl⟩, .level .warning ?_⟩
    decide +kernel
  have houter : SpellsEntry "\ta=Debug".toList ("a", some .debug) := by
    refine ⟨by decide, "\ta".toList, "Debug".toList, "Debug".toList, rfl,
      ⟨['\t'], [], htab, nofun, rfl⟩, .refl _, .level .debug ?_⟩
    decide +kernel
  have hspells : Spells "a.b = FALSE , Warning,\ta=Debug" .warning es :=
    ⟨["a.b = FALSE ".toList], " Warning".toList, ["\ta=Debug".toList], by decide +kernel, hlevel,
      [("a.b", none)], [("a", some .debug)], .cons hinner .nil, .cons houter .nil, rfl⟩
  have hlower : ∀ n ∈ ["a.b", "a"], Text.toLower n = n := by decide +kernel
  refine ⟨hspells, ?_⟩
  exact (honours_iff_toLower_eq (· ∈ ["a.b", "a"])).1.mpr (fun n _ hn => hlower n hn) _ _ _ hspells
    (by decide)

/-- A module with a capital letter is not dropped. -/
theorem honours_fails :
    Spells "info,Foo=false" .info [("Foo", none)] ∧
      ¬ Honours "info,Foo=false" .info [("Foo", none)] ∧
      (({} : Logging).configure .standard "info,Foo=false").2.write
        ⟨"Foo", "emit:2", Level.info.severity, "x"⟩ = ["INFO   | Foo:emit:2 | x"] := by
  have hname : IsModuleName "Foo" := by decide
  refine ⟨spells_dropping hname, ?_, by decide +kernel⟩
  intro h
  have hlower : Text.toLower "Foo" ≠ "Foo" := by decide +kernel
  exact hlower (toLower_eq_of_honours_dropping hname h)

end Logging

end TypedLambda
