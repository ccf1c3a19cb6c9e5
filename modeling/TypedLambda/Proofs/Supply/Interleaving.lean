/-
Names drawn from several supplies in turn.

A name tells its number and its base.  The numeral is all that follows the last underscore, since a
numeral has none, so whatever underscores and digits a base ends in are never taken for a part of
the number.  Names of one supply therefore differ if their numbers do, and between two resets
the numbers only grow.

What happens to other supplies makes no difference.  A row of calls on any of them, with new ones
opened in between, is for each single supply the row of its own calls: every call either is one of
those and does to the supply what it would do to it alone, or leaves it as it is.
-/
import TypedLambda.Proofs.Supply

namespace TypedLambda

namespace Supply

/-! ### Names tell their bases -/

theorem isDigit_of_mem_repr {n : Nat} {c : Char} (h : c ∈ n.repr.toList) : c.isDigit = true := by
  rw [Nat.toList_repr] at h
  exact Nat.isDigit_of_mem_toDigits (by decide) (by decide) h

/-- Read from its end, a name has its digits up to an underscore, and then its base. -/
theorem toList_nameAt_reverse (base : String) (n : Nat) :
    (nameAt base n).toList.reverse = n.repr.toList.reverse ++ '_' :: base.toList.reverse := by
  have hlist : (nameAt base n).toList = base.toList ++ ['_'] ++ n.repr.toList := by
    rw [nameAt, String.toList_append, String.toList_append]
    rfl
  rw [hlist]
  simp

theorem nameAt_inj {b c : String} {m n : Nat} : nameAt b m = nameAt c n ↔ b = c ∧ m = n := by
  constructor
  · intro h
    have hdigits : ∀ k : Nat, ∀ d ∈ k.repr.toList.reverse, d.isDigit = true :=
      fun k d hd => isDigit_of_mem_repr (List.mem_reverse.mp hd)
    have hreverse : (nameAt b m).toList.reverse = (nameAt c n).toList.reverse := by rw [h]
    rw [toList_nameAt_reverse, toList_nameAt_reverse] at hreverse
    -- without the digits the underscore and the base are left
    have hdrop := congrArg (List.dropWhile Char.isDigit) hreverse
    rw [List.dropWhile_append_of_pos (hdigits m), List.dropWhile_append_of_pos (hdigits n)] at hdrop
    have hbase : b = c := String.toList_inj.mp (by simpa [List.dropWhile_cons] using hdrop)
    subst hbase
    exact ⟨rfl, nameAt_injective b h⟩
  · rintro ⟨rfl, rfl⟩
    rfl

/-! ### The calls on one supply -/

inductive Call where
  | fresh (base : String)
  | reset
  deriving DecidableEq

/-- The names a call hands out, one or none, and the supply after it. -/
def call (s : Supply) : Call → List String × Supply
  | .fresh base => ([(s.fresh base).1], (s.fresh base).2)
  | .reset => ([], s.reset)

/-- The names that calls one after another hand out, in their order, and the supply in the end. -/
def run (s : Supply) : List Call → List String × Supply
  | [] => ([], s)
  | c :: cs => ((s.call c).1 ++ ((s.call c).2.run cs).1, ((s.call c).2.run cs).2)

/-- Without a reset the numbers go on from where the supply stands. -/
theorem exists_nameAt_of_mem_run {s : Supply} {cs : List Call} (hno : .reset ∉ cs) {x : String}
    (hx : x ∈ (s.run cs).1) : ∃ base n, s.next ≤ n ∧ x = nameAt base n := by
  induction cs generalizing s with
  | nil => cases hx
  | cons c cs ih =>
      obtain ⟨hc, hcs⟩ := not_or.mp (mt List.mem_cons.mpr hno)
      cases c with
      | reset => exact absurd rfl hc
      | fresh base =>
          rcases List.mem_cons.mp hx with rfl | hx
          · exact ⟨base, s.next, Nat.le_refl _, rfl⟩
          · obtain ⟨base', n, hn, rfl⟩ := ih hcs hx
            have hn : s.next + 1 ≤ n := hn
            exact ⟨base', n, by omega, rfl⟩

theorem nodup_run (s : Supply) {cs : List Call} (hno : .reset ∉ cs) : (s.run cs).1.Nodup := by
  induction cs generalizing s with
  | nil => exact List.nodup_nil
  | cons c cs ih =>
      obtain ⟨hc, hcs⟩ := not_or.mp (mt List.mem_cons.mpr hno)
      cases c with
      | reset => exact absurd rfl hc
      | fresh base =>
          refine List.nodup_cons.mpr ⟨fun hmem => ?_, ih _ hcs⟩
          obtain ⟨base', n, hn, heq⟩ := exists_nameAt_of_mem_run hcs hmem
          have hnumber : s.next = n := (nameAt_inj.mp heq).2
          have hn : s.next + 1 ≤ n := hn
          omega

end Supply

namespace Supplies

/-! ### The calls on several supplies -/

inductive Call where
  /-- A new supply is opened. -/
  | create
  | on (key : Key) (c : Supply.Call)
  deriving DecidableEq

/-- The names a call hands out, each with the supply it is from, and the supplies after it. -/
def call (ss : Supplies) : Call → List (Key × String) × Supplies
  | .create => ([], ss.create.2)
  | .on key (.fresh base) => ((ss.fresh key base).1.toList.map (key, ·), (ss.fresh key base).2)
  | .on key .reset => ([], ss.reset key)

def run (ss : Supplies) : List Call → List (Key × String) × Supplies
  | [] => ([], ss)
  | c :: cs => ((ss.call c).1 ++ ((ss.call c).2.run cs).1, ((ss.call c).2.run cs).2)

/-- The calls on one supply. -/
def callsOn (k : Key) (cs : List Call) : List Supply.Call :=
  cs.filterMap fun
    | .create => none
    | .on key c => if key = k then some c else none

/-- The names from one supply. -/
def namesFrom (k : Key) (handedOut : List (Key × String)) : List String :=
  (handedOut.filter (·.1 = k)).map (·.2)

variable {ss : Supplies} {s : Supply} {k key : Key}

theorem namesFrom_append (k : Key) (xs ys : List (Key × String)) :
    namesFrom k (xs ++ ys) = namesFrom k xs ++ namesFrom k ys := by
  rw [namesFrom, List.filter_append, List.map_append]
  rfl

theorem get?_create (h : ss.get? k = some s) : ss.create.2.get? k = some s := by
  cases k with
  | shared => exact h
  | opened i =>
      have hi : i < ss.opened.length := (List.getElem?_eq_some_iff.mp h).1
      exact (List.getElem?_append_left hi).trans h

theorem get?_set_self (h : ss.get? k = some s) (s' : Supply) : (ss.set s' k).get? k = some s' := by
  cases k with
  | shared => rfl
  | opened i =>
      have hi : i < ss.opened.length := (List.getElem?_eq_some_iff.mp h).1
      exact List.getElem?_set_self hi

theorem get?_set_of_ne (hne : key ≠ k) (s' : Supply) : (ss.set s' key).get? k = ss.get? k := by
  cases key with
  | shared =>
      cases k with
      | shared => exact absurd rfl hne
      | opened j => rfl
  | opened i =>
      cases k with
      | shared => rfl
      | opened j =>
          have hij : i ≠ j := fun h => hne (congrArg Key.opened h)
          exact List.getElem?_set_ne hij

/-! ### One supply among others -/

theorem call_of_ne (ss : Supplies) (hne : key ≠ k) (c : Supply.Call) :
    namesFrom k (ss.call (.on key c)).1 = [] ∧ (ss.call (.on key c)).2.get? k = ss.get? k := by
  cases hs : ss.get? key with
  | none => cases c <;> simp [call, fresh, reset, hs, namesFrom]
  | some s => cases c <;> simp [call, fresh, reset, hs, namesFrom, hne, get?_set_of_ne]

/-- A call on the supply does what it would do if there were no other. -/
theorem call_self (h : ss.get? k = some s) (c : Supply.Call) :
    namesFrom k (ss.call (.on k c)).1 = (s.call c).1 ∧
      (ss.call (.on k c)).2.get? k = some (s.call c).2 := by
  cases c with
  | fresh base => simp [call, fresh, Supply.call, h, namesFrom, get?_set_self h]
  | reset => simp [call, reset, Supply.call, h, namesFrom, get?_set_self h]

/-- No name is from a supply that has not been opened yet. -/
theorem namesFrom_call_of_none (h : ss.get? k = none) (c : Call) :
    namesFrom k (ss.call c).1 = [] := by
  cases c with
  | create => rfl
  | on key c =>
      by_cases hkey : key = k
      · subst hkey
        cases c <;> simp [call, fresh, h, namesFrom]
      · exact (call_of_ne ss hkey c).1

/-- **For each supply a row of calls is the row of its own calls.** -/
theorem run_eq (h : ss.get? k = some s) (cs : List Call) :
    namesFrom k (ss.run cs).1 = (s.run (callsOn k cs)).1 ∧
      (ss.run cs).2.get? k = some (s.run (callsOn k cs)).2 := by
  induction cs generalizing ss s with
  | nil => exact ⟨rfl, h⟩
  | cons c cs ih =>
      rw [run, namesFrom_append]
      cases c with
      | create => exact ih (get?_create h)
      | on key c =>
          by_cases hkey : key = k
          · subst hkey
            obtain ⟨hnames, hget⟩ := call_self h c
            obtain ⟨hrest, hend⟩ := ih hget
            have hown : callsOn key (.on key c :: cs) = c :: callsOn key cs := by
              simp [callsOn]
            rw [hnames, hrest, hown]
            exact ⟨rfl, hend⟩
          · obtain ⟨hnames, hget⟩ := call_of_ne ss hkey c
            have hown : callsOn k (.on key c :: cs) = callsOn k cs := by
              simp [callsOn, hkey]
            rw [hnames, hown, List.nil_append]
            exact ih (hget.trans h)

theorem reset_not_mem_callsOn {cs : List Call} (hno : .on k .reset ∉ cs) :
    Supply.Call.reset ∉ callsOn k cs := by
  intro hmem
  obtain ⟨c, hc, hown⟩ := List.mem_filterMap.mp hmem
  cases c with
  | create => cases hown
  | on key c =>
      by_cases hkey : key = k
      · subst hkey
        obtain rfl : c = .reset := by simpa using hown
        exact hno hc
      · simp [hkey] at hown

theorem nodup_namesFrom_run (ss : Supplies) {cs : List Call} (hno : .on k .reset ∉ cs) :
    (namesFrom k (ss.run cs).1).Nodup := by
  induction cs generalizing ss with
  | nil => exact List.nodup_nil
  | cons c cs ih =>
      cases hk : ss.get? k with
      | some s =>
          rw [(run_eq hk _).1]
          exact s.nodup_run (reset_not_mem_callsOn hno)
      | none =>
          rw [run, namesFrom_append, namesFrom_call_of_none hk, List.nil_append]
          exact ih _ (not_or.mp (mt List.mem_cons.mpr hno)).2

/--
**Fresh names never repeat between resets.**  After any calls, and in any calls that do not reset
the supply, whatever the bases are and whatever is done to other supplies, the names one supply
hands out are pairwise distinct.  If it was there from the start, they are the names it would hand
out if the calls on other supplies, before and in between, were left out.
-/
theorem names_between_resets (ss : Supplies) (k : Key) (before between : List Call)
    (hno : .on k .reset ∉ between) :
    (namesFrom k ((ss.run before).2.run between).1).Nodup ∧
      ∀ s, ss.get? k = some s →
        namesFrom k ((ss.run before).2.run between).1 =
          ((s.run (callsOn k before)).2.run (callsOn k between)).1 := by
  refine ⟨nodup_namesFrom_run _ hno, fun s hs => ?_⟩
  exact (run_eq (run_eq hs before).2 between).1

/--
Bases that end like names, an empty one and an earlier name, between two resets of the shared
supply; another supply is opened, drawn from with the same bases, and reset.
-/
theorem names_between_resets_mixed :
    let before : List Call := [.on .shared (.fresh "x"), .create, .on .shared .reset]
    let between : List Call :=
      [.on .shared (.fresh "x_1"), .on (.opened 0) (.fresh "x_1"), .on .shared (.fresh "x"),
        .on (.opened 0) .reset, .on .shared (.fresh ""), .on (.opened 0) (.fresh "x_1"),
        .on .shared (.fresh "x_1_0")]
    let ss : Supplies := {}
    .on .shared .reset ∉ between ∧
      namesFrom .shared ((ss.run before).2.run between).1 = ["x_1_0", "x_1", "_2", "x_1_0_3"] ∧
      namesFrom (.opened 0) ((ss.run before).2.run between).1 = ["x_1_0", "x_1_0"] ∧
      (namesFrom .shared ((ss.run before).2.run between).1).Nodup ∧
      ∀ s, ss.get? .shared = some s →
        namesFrom .shared ((ss.run before).2.run between).1 =
          ((s.run (callsOn .shared before)).2.run (callsOn .shared between)).1 := by
  intro before between ss
  have hno : .on .shared .reset ∉ between := by decide
  exact ⟨hno, by decide, by decide, names_between_resets ss .shared before between hno⟩

end Supplies

end TypedLambda
