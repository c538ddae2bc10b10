import Keychord.Matcher.Basic
import Keychord.Proofs.Machine
import Keychord.Proofs.Telemetry.Active
import Mathlib.Data.List.Induction

namespace Keychord.Matcher

open Relation (ReflTransGen)

variable {Job α β : Type}

theorem bind_of_finished {first : Step Job α} {next : α → Step Job β} {m m' : Matcher} {a : α}
    (h : first m = .finished (.ok a) m') : (first >>= next) m = next a m' := by
  show (first m).andThen _ = _
  rw [h]
  rfl

-- The operations of a matcher. A callback of a timer is called `expire`, the end of awaited work `settled`.
inductive Call
  | press (press : Press)
  | expire (expiry : Expiry)
  | reset
  | close
  | reload (config : Config)
  | settled (command : String) (outcome : Except Failure Unit)

def Call.step : Call → Step Job (Option Bool)
  | press p => do return some (← handle p)
  | expire e => do
    Matcher.expire e
    return none
  | reset | close => do
    Matcher.reset
    return none
  | reload config => do
    Matcher.reload config
    return none
  | settled command outcome => do
    Matcher.settled command outcome
    return none

structure Logged where
  matcher : Matcher
  telemetry : Telemetry

namespace Logged

def run : Run (surroundings Job) Matcher α → Telemetry → Run (surroundings Job) Logged α
  | .finished outcome m, t => .finished outcome ⟨m, t⟩
  | .waiting (.telemetry op) m resume, t =>
    run (resume (Telemetry.perform op t).1 m) (Telemetry.perform op t).2
  | .waiting request m resume, t =>
    .waiting request ⟨m, t⟩ fun reply (s : Logged) => run (resume reply s.matcher) s.telemetry

def step (program : Step Job α) : Program (surroundings Job) Logged α := fun s => run (program s.matcher) s.telemetry

theorem run_andThen (r : Run (surroundings Job) Matcher α) (next : Except Failure α → Step Job β) (t : Telemetry) :
    run (r.andThen next) t = (run r t).andThen fun outcome => step (next outcome) := by
  induction r generalizing t with
  | finished outcome m => rfl
  | waiting request m resume ih =>
    cases request with
    | telemetry op => exact ih _ _ _
    | _ => exact congrArg _ (funext fun reply => funext fun (s : Logged) => ih reply s.matcher s.telemetry)

end Logged

def operate (call : Call) : Program (surroundings Job) Logged (Option Bool) := Logged.step call.step

abbrev Past (Job : Type) := History (surroundings Job) Logged Call (Option Bool)
abbrev Host (Job : Type) := Conduct (surroundings Job) Logged Call (Option Bool)
abbrev Pledge (Job : Type) := Contract (surroundings Job) Logged Call (Option Bool)
abbrev Working (Job : Type) := Machine (surroundings Job) Logged Call (Option Bool)

def fresh (Job : Type) (env : Environment) : Working Job := ⟨⟨{}, { environment := env }⟩, [], []⟩

theorem resting_fresh (env : Environment) : (fresh Job env).Resting := rfl

def calm : (request : Request Job) → Except Failure ((surroundings Job).Answer request)
  | .telemetry _ => .error .cancelled
  | .arm .. => .ok (0 : Nat)
  | .execute _ => .ok (none : Option Job)
  | .consume _ | .disarm _ | .publish _ | .settle .. => .ok ()

def calmly (M : Working Unit) (calls : List Call) : Working Unit := calls.foldl (Machine.serve operate calm) M

theorem reaches_calmly {H : Host Unit} (given : ∀ request, H.answers request (calm request)) {M : Working Unit}
    (rest : M.Resting) {calls : List Call} (made : ∀ call ∈ calls, ∀ s h, H.calls call s h) :
    Machine.Reaches operate H M (calmly M calls) ∧ (calmly M calls).Resting := by
  rw [calmly]
  induction calls using List.reverseRecOn with
  | nil => exact ⟨.refl, rest⟩
  | append_singleton calls call ih =>
    obtain ⟨reaches, rest⟩ := ih fun call hc => made call (List.mem_append_left _ hc)
    rw [List.foldl_append]
    exact ⟨reaches.serve given rest (made call (by simp) _ _), rfl⟩

def chord : Config := ⟨" ", 500, ⟨[("ab", "open")]⟩⟩

def begun : Working Unit := calmly (fresh Unit {}) [.reload chord, .press ⟨"a", {}, none⟩]

def Request.IsShown : Request Job → Prop
  | .publish _ | .execute _ | .settle .. => True
  | _ => False

def Request.IsTold : Request Job → Prop
  | .publish _ | .settle .. => True
  | _ => False

theorem Request.IsTold.shown {request : Request Job} (ht : request.IsTold) : request.IsShown := by
  cases request <;> first | exact trivial | exact ht

def Request.IsCommand : Request Job → Prop
  | .execute _ | .settle .. => True
  | _ => False

def Request.IsPlain : Request Job → Prop
  | .consume _ | .arm .. | .disarm _ => True
  | _ => False

structure Host.Reserved (H : Host Job) : Prop where
  opens  : ∀ c request, H.Opens c request → request.IsShown
  drifts : ∀ s s', H.drifts s s' → s'.matcher = s.matcher ∧ s.telemetry.Use s'.telemetry

theorem Host.Reserved.drifted {H : Host Job} (reserved : H.Reserved) {s s' : Logged} (d : ReflTransGen H.drifts s s') :
    s'.matcher = s.matcher ∧ s.telemetry.Advances s'.telemetry := by
  induction d with
  | refl => exact ⟨rfl, .refl _⟩
  | tail _ d ih =>
    obtain ⟨hm, hu⟩ := reserved.drifts _ _ d
    exact ⟨hm.trans ih.left, .trans _ _ _ ih.right hu.advances⟩

structure Lit (t : Telemetry) (h : Past Job) : Prop where
  coherent : t.Coherent
  lasting  : ∀ request s, .asked request s ∈ h → s.telemetry.active.isSome → t.active.isSome

namespace Lit

variable {t t' : Telemetry} {h : Past Job}

theorem advance (lit : Lit t h) (ha : t.Advances t') : Lit t' h where
  coherent := ha.coherent lit.coherent
  lasting := fun request s hm hs => ha.active (lit.lasting request s hm hs)

theorem cons (lit : Lit t h) {sight : Sight (surroundings Job) Logged Call (Option Bool)}
    (hs : ∀ request s, sight = .asked request s → s.telemetry = t) : Lit t (sight :: h) where
  coherent := lit.coherent
  lasting := by
    intro request s hm ha
    obtain he | hm := List.mem_cons.mp hm
    · exact hs request s he.symm ▸ ha
    · exact lit.lasting request s hm ha

theorem start (env : Environment) : Lit { environment := env } ([] : Past Job) := ⟨.inr rfl, by simp⟩

end Lit

theorem Logged.meets_lit {H : Host Job} (reserved : H.Reserved) {inv : Logged → Past Job → Prop}
    (hi : ∀ s h, inv s h → Lit s.telemetry h) {c : Call} (run : Run (surroundings Job) Matcher α) {t : Telemetry}
    {h : Past Job} (lit : Lit t h) :
    (Logged.run run t).Meets H ⟨inv, fun _ _ s h => Lit s.telemetry h⟩ c (fun _ s h => Lit s.telemetry h) h := by
  induction run generalizing t h with
  | finished outcome m => exact lit
  | waiting request m resume ih =>
    -- Only requests to telemetry change it, and those are carried out at once.
    have waits : (Run.waiting request ⟨m, t⟩ fun reply (s : Logged) =>
        Logged.run (resume reply s.matcher) s.telemetry).Meets H ⟨inv, fun _ _ s h => Lit s.telemetry h⟩ c
          (fun _ s h => Lit s.telemetry h) h := by
      have ha : Lit t (.asked request ⟨m, t⟩ :: h) := lit.cons (by rintro _ _ ⟨⟩; rfl)
      refine ⟨ha, fun reply s' h' _ meanwhile => ih reply s'.matcher (Lit.cons ?_ (by simp))⟩
      by_cases ho : H.Opens c request
      case pos => exact hi _ _ (meanwhile.opened ho)
      case neg =>
        obtain ⟨hd, rfl⟩ := meanwhile.closed ho
        exact ha.advance (reserved.drifted hd).right
    cases request with
    | telemetry op => exact ih _ _ (lit.advance (Telemetry.perform_moves op t))
    | _ => exact waits

namespace Past

def consumed : Past Job → List Press
  | [] => []
  | .asked (.consume press) _ :: h => press :: consumed h
  | _ :: h => consumed h

def armed : Past Job → List Expiry
  | [] => []
  | .asked (.arm _ expiry) _ :: h => expiry :: armed h
  | _ :: h => armed h

end Past

def Refused (f : Failure) (h : Past Job) : Prop :=
  ∃ delay expiry before, h = .answered (.arm delay expiry) (.error f) :: before

end Keychord.Matcher
