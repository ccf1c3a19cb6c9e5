/-
What is remembered of a configuration and what is left of it.

Configuring changes two things, the sink and the remembered profile, and a filter that is refused
changes only one of them: the old sink is taken down before the filter is looked at, and the
remembered profile stays.  So the two may disagree.  `Stale` says of a run of calls when they do:
some call installed a sink, and after the last one that did a call was refused.  Calls that are
skipped make no difference, and neither does a refusal before anything was installed.

The invariant of a run is stated from its outcomes alone, the newest first.  The remembered profile is
always that of the last call that installed a sink; that sink is there unless the run is stale, and
then there is none at all.  What one call does is read off from its outcome (`configure_eq`), and the
invariant is kept by each of the three outcomes.
-/
import TypedLambda.Log

namespace TypedLambda.Logging

open Log

/-- A profile to be configured, and a filter as it is written. -/
structure Call where
  profile : Profile
  filter : String
  deriving DecidableEq

inductive Outcome where
  /-- The profile was the remembered one. -/
  | skipped
  | refused (e : UnknownLevel)
  | installed (c : Call)
  deriving DecidableEq

abbrev call (L : Logging) (c : Call) : Except UnknownLevel Unit × Logging :=
  L.configure c.profile c.filter

def outcome (L : Logging) (c : Call) : Outcome :=
  if L.profile = some c.profile then .skipped
  else
    match (L.call c).1 with
    | .error e => .refused e
    | .ok () => .installed c

/-- A state that calls lead to, with their outcomes, the newest first. -/
inductive Run : Logging → List Outcome → Prop
  | start : Run {} []
  | call {L : Logging} {os : List Outcome} (h : Run L os) (c : Call) :
    Run (L.call c).2 (L.outcome c :: os)

/-! ### What is said of a run -/

/-- There is a sink with the profile and the filter of the call. -/
def Serves (L : Logging) (c : Call) : Prop :=
  ∃ ts, (FilterSpec.parse c.filter).thresholds = .ok ts ∧ L.sink = some ⟨c.profile, ts⟩

def lastInstalled : List Outcome → Option Call
  | [] => none
  | .installed c :: _ => some c
  | .skipped :: os | .refused _ :: os => lastInstalled os

/-- Since a sink was installed last a call was refused. -/
def Stale : List Outcome → Prop
  | [] | .installed _ :: _ => False
  | .skipped :: os => Stale os
  | .refused _ :: os => lastInstalled os ≠ none

/-- A profile is remembered exactly if the sink for it, with the last filter, is there. -/
def Agrees (L : Logging) (os : List Outcome) : Prop :=
  ∀ p, L.profile = some p ↔ ∃ c, lastInstalled os = some c ∧ c.profile = p ∧ L.Serves c

/-! ### One call -/

/-- What a call does, by its outcome. -/
theorem call_cases (L : Logging) (c : Call) :
    (L.outcome c = .skipped ∧ L.profile = some c.profile ∧ L.call c = (.ok (), L)) ∨
      (∃ e, L.outcome c = .refused e ∧ L.call c = (.error e, { L with sink := none })) ∨
        (L.outcome c = .installed c ∧ (L.call c).1 = .ok () ∧
          (L.call c).2.profile = some c.profile ∧ (L.call c).2.Serves c) := by
  by_cases hp : L.profile = some c.profile
  · refine .inl ⟨if_pos hp, hp, ?_⟩
    rw [call, configure, if_pos hp]
  · rcases hts : (FilterSpec.parse c.filter).thresholds with e | ts
    · have hcall : L.call c = (.error e, { L with sink := none }) := by
        rw [call, configure, if_neg hp, hts]
      exact .inr (.inl ⟨e, by rw [outcome, if_neg hp, hcall], hcall⟩)
    · have hcall : L.call c = (.ok (), ⟨some c.profile, some ⟨c.profile, ts⟩, true⟩) := by
        rw [call, configure, if_neg hp, hts]
      refine .inr (.inr ⟨by rw [outcome, if_neg hp, hcall], ?_, ?_, ts, hts, ?_⟩)
      all_goals rw [hcall]

/-! ### The invariant of a run -/

structure Invariant (L : Logging) (os : List Outcome) : Prop where
  profile : L.profile = (lastInstalled os).map (·.profile)
  serves : ∀ c, lastInstalled os = some c → ¬ Stale os → L.Serves c
  bare : lastInstalled os = none ∨ Stale os → L.sink = none

theorem Invariant.call {L : Logging} {os : List Outcome} (h : Invariant L os) (c : Call) :
    Invariant (L.call c).2 (L.outcome c :: os) := by
  obtain ⟨ho, -, hcall⟩ | ⟨e, ho, hcall⟩ | ⟨ho, -, hprofile, hserves⟩ := L.call_cases c
  · rw [ho, hcall]
    exact ⟨h.profile, h.serves, h.bare⟩
  · rw [ho, hcall]
    refine ⟨h.profile, ?_, fun _ => rfl⟩
    intro c hc hstale
    exact absurd (Option.ne_none_iff_exists'.mpr ⟨c, hc⟩) hstale
  · rw [ho]
    refine ⟨hprofile, ?_, ?_⟩
    · rintro _ ⟨⟩ -
      exact hserves
    · rintro (hnone | hstale)
      · cases hnone
      · exact hstale.elim

theorem Run.invariant {L : Logging} {os : List Outcome} (h : Run L os) : Invariant L os := by
  induction h with
  | start => exact ⟨rfl, fun _ hc => (nomatch hc), fun _ => rfl⟩
  | call _ c ih => exact ih.call c

theorem lastInstalled_ne_none_of_stale {os : List Outcome} (h : Stale os) :
    lastInstalled os ≠ none := by
  induction os with
  | nil => exact h.elim
  | cons o os ih =>
      cases o with
      | skipped => exact ih h
      | refused e => exact h
      | installed c => exact h.elim

theorem Invariant.agrees_iff {L : Logging} {os : List Outcome} (h : Invariant L os) :
    L.Agrees os ↔ ¬ Stale os := by
  constructor
  · intro hagrees hstale
    obtain ⟨c, hc⟩ := Option.ne_none_iff_exists'.mp (lastInstalled_ne_none_of_stale hstale)
    have hprofile : L.profile = some c.profile := by rw [h.profile, hc]; rfl
    obtain ⟨_, -, -, ts, -, hsink⟩ := (hagrees c.profile).mp hprofile
    rw [h.bare (.inr hstale)] at hsink
    cases hsink
  · intro hstale p
    rw [h.profile, Option.map_eq_some_iff]
    constructor
    · rintro ⟨c, hc, hp⟩
      exact ⟨c, hc, hp, h.serves c hc hstale⟩
    · rintro ⟨c, hc, hp, -⟩
      exact ⟨c, hc, hp⟩

/--
**What is remembered is what is there, exactly if the run is not stale.**  The remembered profile is
always that of the last call that installed a sink; if the run is stale, there is no sink at all.  A
call that is refused leaves the profile as it is, and no sink; a call that is skipped finds a sink for
its profile exactly if the run is not stale.
-/
theorem agrees_iff_not_stale {L : Logging} {os : List Outcome} (h : Run L os) :
    L.profile = (lastInstalled os).map (·.profile) ∧
      (L.Agrees os ↔ ¬ Stale os) ∧ (Stale os → L.sink = none) ∧
      (∀ c e, (L.call c).1 = .error e →
        (L.call c).2.profile = L.profile ∧ (L.call c).2.sink = none) ∧
      ∀ c, L.outcome c = .skipped →
        ((∃ s, L.sink = some s ∧ s.profile = c.profile) ↔ ¬ Stale os) := by
  have hinv := h.invariant
  refine ⟨hinv.profile, hinv.agrees_iff, fun hstale => hinv.bare (.inr hstale), ?_, ?_⟩
  · intro c e he
    obtain ⟨-, -, hcall⟩ | ⟨e', -, hcall⟩ | ⟨-, hok, -⟩ := L.call_cases c
    · rw [hcall] at he
      cases he
    · rw [hcall]
      exact ⟨rfl, rfl⟩
    · rw [hok] at he
      cases he
  · intro c hskipped
    obtain ⟨-, hprofile, -⟩ | ⟨e, ho, -⟩ | ⟨ho, -⟩ := L.call_cases c
    · constructor
      · rintro ⟨s, hs, -⟩ hstale
        rw [hinv.bare (.inr hstale)] at hs
        cases hs
      · intro hstale
        rw [← hinv.agrees_iff] at hstale
        obtain ⟨c', -, hp, ts, -, hsink⟩ := (hstale c.profile).mp hprofile
        exact ⟨_, hsink, hp⟩
    · rw [ho] at hskipped
      cases hskipped
    · rw [ho] at hskipped
      cases hskipped

/-- What was refused before anything was installed, and what is skipped, does no harm. -/
theorem agrees_iff_not_stale_skipped :
    let wrong : Call := ⟨.cli, "nope"⟩
    let right : Call := ⟨.standard, " Warning , a.b = false"⟩
    let again : Call := ⟨.standard, "nope"⟩
    let L := ((({} : Logging).call wrong).2.call right).2
    Run (L.call again).2 [.skipped, .installed right, .refused ⟨"", "NOPE"⟩] ∧
      (L.call again).2.Agrees [.skipped, .installed right, .refused ⟨"", "NOPE"⟩] ∧
      (L.call again).2.sink = some ⟨.standard, [("a.b", none), ("", some 30)]⟩ := by
  intro wrong right again L
  have hwrong : ({} : Logging).outcome wrong = .refused ⟨"", "NOPE"⟩ := by decide +kernel
  have hright : (({} : Logging).call wrong).2.outcome right = .installed right := by
    decide +kernel
  have hagain : L.outcome again = .skipped := by decide +kernel
  have hrun : Run (L.call again).2 [L.outcome again, (({} : Logging).call wrong).2.outcome right,
      ({} : Logging).outcome wrong] :=
    .call (.call (.call .start wrong) right) again
  rw [hwrong, hright, hagain] at hrun
  exact ⟨hrun, (agrees_iff_not_stale hrun).2.1.mpr id, by decide +kernel⟩

/-- After a call that was refused the remembered profile has no sink, and its next call is skipped. -/
theorem agrees_fails :
    let right : Call := ⟨.standard, "info"⟩
    let wrong : Call := ⟨.cli, "nope"⟩
    let L := ((({} : Logging).call right).2.call wrong).2
    Run L [.refused ⟨"", "NOPE"⟩, .installed right] ∧
      ¬ L.Agrees [.refused ⟨"", "NOPE"⟩, .installed right] ∧
      L.outcome right = .skipped ∧ (L.call right).2.sink = none := by
  intro right wrong L
  have hright : ({} : Logging).outcome right = .installed right := by decide +kernel
  have hwrong : (({} : Logging).call right).2.outcome wrong = .refused ⟨"", "NOPE"⟩ := by
    decide +kernel
  have hrun : Run L [(({} : Logging).call right).2.outcome wrong, ({} : Logging).outcome right] :=
    .call (.call .start right) wrong
  rw [hright, hwrong] at hrun
  refine ⟨hrun, ?_, by decide +kernel, by decide +kernel⟩
  rw [hrun.invariant.agrees_iff]
  exact fun hstale => hstale nofun

end TypedLambda.Logging
