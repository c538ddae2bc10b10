import Keychord.Proofs.Config.Sound
import Keychord.Proofs.Text.Numeral

namespace Keychord.Config

def Bare (data : OrderedMap Scalar Value) : Prop := ∀ name ∈ "leader" :: "bindings" :: timeoutNames, given? data name = none

structure Timed (env : Environment) (data : OrderedMap Scalar Value) (time : Except Fault Int) : Prop where
  read  : ofData env data = time.map fun time => ⟨defaultLeader env, time, .empty⟩
  stock : stock env {} = time.map fun time => ⟨defaultLeader env, time, stockBindings⟩

variable {env : Environment} {data : OrderedMap Scalar Value}

theorem defaultLeader_ne (env : Environment) : defaultLeader env ≠ "" := by
  rw [defaultLeader]
  cases set : env.readNonempty? "LEADER" with
  | none => decide
  | some leader =>
    obtain ⟨_, filled⟩ := Option.filter_eq_some_iff.mp set
    simpa using filled

theorem checkTimeout_int (n : Int) : checkTimeout (.int n) = if n ≤ 0 then .error .timeoutNotPositive else .ok n := rfl

theorem build_filled {leader : String} (filled : leader ≠ "") {bindings : OrderedMap String String}
    (others : ∀ entry ∈ bindings.entries, entry.1 ≠ "" ∧ entry.2 ≠ "") (time : Int) :
    build (.text leader) (.int time) (looseBindings bindings) =
      (checkTimeout (.int time)).map fun time => ⟨leader, time, bindings⟩ := by
  cases checked : checkTimeout (.int time) with
  | error fault =>
    rw [build, nonempty?_eq_some_iff.mpr ⟨rfl, filled⟩, checked]
    rfl
  | ok n =>
    obtain ⟨same, positive⟩ := checkTimeout_eq_ok_iff.mp checked
    exact build_eq_ok_iff.mpr ⟨⟨rfl, same, rfl⟩, filled, positive, others⟩

theorem mappingOf_null : mappingOf .null = .ok .empty := rfl

theorem getD_of_not_given {name : String} (missing : given? data name = none) :
    (data.get? (.text name)).getD .null = .null := by
  cases found : data.get? (.text name) with
  | none => rfl
  | some value =>
    rw [given?, found, Option.filter_eq_none_iff] at missing
    have null := missing value rfl
    unfold Value.isNull at null
    split at null
    case h_1 => rfl
    case h_2 => simp at null

theorem ofData_bare (bare : Bare data) : ofData env data =
    build (.text (defaultLeader env)) (.int (defaultTimeout env)) (looseBindings .empty) := by
  have leader := bare "leader" (by decide)
  have bindings := bare "bindings" (by decide)
  have time : timeoutNames.findSome? (given? data) = none :=
    List.findSome?_eq_none_iff.mpr fun name among => bare name (List.mem_cons_of_mem _ (List.mem_cons_of_mem _ among))
  rw [ofData, getD_of_not_given bindings, leader, time, mappingOf_null]
  rfl

theorem selected_unchanged : selected {} = .ok stockBindings := by decide +kernel

theorem stock_unchanged : stock env {} =
    build (.text (defaultLeader env)) (.int (defaultTimeout env)) (looseBindings stockBindings) := by
  rw [stock, selected_unchanged]
  rfl

theorem timed (bare : Bare data) : Timed env data (checkTimeout (.int (defaultTimeout env))) := by
  have leader := defaultLeader_ne env
  constructor
  case read => rw [ofData_bare bare, build_filled leader (by simp [OrderedMap.empty])]
  case stock => rw [stock_unchanged, build_filled leader (by decide)]

theorem timed_of_pos (bare : Bare data) (positive : 0 < defaultTimeout env) : Timed env data (.ok (defaultTimeout env)) := by
  have timed : Timed env data _ := timed bare
  rwa [checkTimeout_eq_ok_iff.mpr ⟨rfl, positive⟩] at timed

theorem refused_iff (bare : Bare data) : Timed env data (.error .timeoutNotPositive) ↔ defaultTimeout env ≤ 0 := by
  constructor
  · intro refused
    by_contra positive
    have taken := timed_of_pos bare (Int.not_le.mp positive)
    cases taken.stock.symm.trans refused.stock
  · intro nonpositive
    have timed : Timed env data _ := timed bare
    rwa [checkTimeout_int, if_pos nonpositive] at timed

section

variable {raw : String} (set : env.read? "TIMEOUT_MS" = some raw)

include set

theorem defaultTimeout_of_numeral {n : Int} (numeral : Text.readInt raw = .ok n) : defaultTimeout env = n := by
  simp [defaultTimeout, set, numeral, Except.toOption]

theorem defaultTimeout_of_no_numeral (other : ∀ n, Text.readInt raw ≠ .ok n) :
    defaultTimeout env = Keymap.defaultTimeout := by
  cases read : Text.readInt raw with
  | ok n => exact absurd read (other n)
  | error fault => simp [defaultTimeout, set, read, Except.toOption]

-- What the environment sets as the time to wait: a positive number is the time, and what is no numeral is passed over. A
-- numeral of another number is not, and no configuration that leaves the time open can be made.
theorem time_of_environment (bare : Bare data) :
    (∀ n, Text.readInt raw = .ok n → 0 < n → Timed env data (.ok n)) ∧
    ((∀ n, Text.readInt raw ≠ .ok n) → Timed env data (.ok Keymap.defaultTimeout)) ∧
    (Timed env data (.error .timeoutNotPositive) ↔
      ∃ sign ds, Text.Numeral raw sign ds ∧ (sign = .minus ∨ ∀ d ∈ ds, d = 0)) := by
  refine ⟨fun n numeral positive => ?_, fun other => ?_, ?_⟩
  · rw [← defaultTimeout_of_numeral set numeral] at positive ⊢
    exact timed_of_pos bare positive
  · have standard := defaultTimeout_of_no_numeral set other
    exact standard ▸ timed_of_pos bare (standard ▸ by decide)
  · rw [refused_iff bare]
    constructor
    · intro nonpositive
      by_cases other : ∀ n, Text.readInt raw ≠ .ok n
      case pos =>
        rw [defaultTimeout_of_no_numeral set other] at nonpositive
        exact absurd nonpositive (by decide)
      case neg =>
        obtain ⟨n, numeral⟩ := not_forall_not.mp other
        obtain ⟨sign, ds, numeral', rfl⟩ := Text.readInt_eq_ok_iff.mp numeral
        rw [defaultTimeout_of_numeral set numeral] at nonpositive
        exact ⟨sign, ds, numeral', Text.Sign.signed_nonpos_iff.mp nonpositive⟩
    · rintro ⟨sign, ds, numeral, bad⟩
      rw [defaultTimeout_of_numeral set numeral.readInt_eq]
      exact Text.Sign.signed_nonpos_iff.mpr bad

end

theorem bare_empty : Bare .empty := fun _ _ => rfl

theorem time_of_environment_joined : (⟨[("TIMEOUT_MS", " +1_000")]⟩ : Environment).read? "TIMEOUT_MS" = some " +1_000" ∧
    Bare .empty ∧ Timed ⟨[("TIMEOUT_MS", " +1_000")]⟩ .empty (.ok 1000) := by
  have set : (⟨[("TIMEOUT_MS", " +1_000")]⟩ : Environment).read? "TIMEOUT_MS" = some " +1_000" := rfl
  obtain ⟨taken, -⟩ := time_of_environment set bare_empty
  exact ⟨set, bare_empty, taken 1000 (by decide +kernel) (by decide)⟩

-- A zero is a bad time, and yet it is not passed over.
theorem zero_time_refused : Text.readInt "0" = .ok 0 ∧
    ofData ⟨[("TIMEOUT_MS", "0")]⟩ .empty = .error .timeoutNotPositive ∧
    stock ⟨[("TIMEOUT_MS", "0")]⟩ {} = .error .timeoutNotPositive := by decide +kernel

end Keychord.Config
