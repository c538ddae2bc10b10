import Keychord.Proofs.Machine
import Mathlib.Data.List.Forall2

namespace Keychord

structure Minutes (I : Interface) (σ κ ρ γ : Type) where
  start : κ → σ → History I σ κ ρ → γ
  note : Sight I σ κ ρ → History I σ κ ρ → γ → γ

structure Pledge (I : Interface) (σ κ ρ γ : Type) where
  inv : σ → History I σ κ ρ → Prop
  asks : γ → I.Request → σ → History I σ κ ρ → Prop
  ends : κ → γ → Except Failure ρ → σ → History I σ κ ρ → Prop

variable {I : Interface} {σ κ ρ γ α β : Type} {C : Conduct I σ κ ρ} {m : Minutes I σ κ ρ γ} {P : Pledge I σ κ ρ γ}

def Minutes.underWay (m : Minutes I σ κ ρ γ) : History I σ κ ρ → List γ
  | [] => []
  | .called c s :: h => m.start c s h :: m.underWay h
  | .asked request s :: h => (m.underWay h).modifyHead (m.note (.asked request s) h)
  | .answered request reply :: h => (m.underWay h).modifyHead (m.note (.answered request reply) h)
  | .returned .. :: h => (m.underWay h).tail

namespace Run

-- A run that makes only such requests as are pledged and comes to what it should. Whoever acts while it waits leaves the
-- invariant as it is.
def Honours (C : Conduct I σ κ ρ) (m : Minutes I σ κ ρ γ) (P : Pledge I σ κ ρ γ)
    (Q : γ → Except Failure α → σ → History I σ κ ρ → Prop) : Run I σ α → γ → History I σ κ ρ → Prop
  | finished outcome s, g, h => Q g outcome s h
  | waiting request s resume, g, h => P.asks g request s h ∧ P.inv s (.asked request s :: h) ∧
    ∀ reply s' h', C.answers request reply → .asked request s :: h <:+ h' → P.inv s' h' →
      (resume reply s').Honours C m P Q (m.note (.answered request reply) h' (m.note (.asked request s) h g))
        (.answered request reply :: h')

variable {Q Q' : γ → Except Failure α → σ → History I σ κ ρ → Prop} {run : Run I σ α} {g : γ} {h : History I σ κ ρ}

theorem Honours.mono (honours : run.Honours C m P Q g h) (hq : ∀ g outcome s h, Q g outcome s h → Q' g outcome s h) :
    run.Honours C m P Q' g h := by
  induction run generalizing g h with
  | finished outcome s => exact hq g outcome s h honours
  | waiting request s resume ih =>
    have ⟨asks, inv, goesOn⟩ := honours
    exact ⟨asks, inv, fun reply s' h' given grown inv' => ih reply s' (goesOn reply s' h' given grown inv')⟩

theorem honours_andThen {next : Except Failure α → Program I σ β} {Q : γ → Except Failure β → σ → History I σ κ ρ → Prop} :
    (run.andThen next).Honours C m P Q g h ↔
      run.Honours C m P (fun g outcome s h => (next outcome s).Honours C m P Q g h) g h := by
  induction run generalizing g h with
  | finished outcome s => rfl
  | waiting request s resume ih => simp only [andThen, Honours, ih]

end Run

def Pledge.Returns (P : Pledge I σ κ ρ γ) (c : κ) (g : γ) (outcome : Except Failure ρ) (s : σ)
    (h : History I σ κ ρ) : Prop :=
  P.ends c g outcome s h ∧ P.inv s (.returned c outcome s :: h)

def Pledge.Covers (P : Pledge I σ κ ρ γ) (m : Minutes I σ κ ρ γ) (h : History I σ κ ρ) : Sight I σ κ ρ → Prop
  | .asked request s => ∃ g rest, m.underWay h = g :: rest ∧ P.asks g request s h
  | .returned c outcome s => ∃ g rest, m.underWay h = g :: rest ∧ P.ends c g outcome s h
  | _ => True

structure Pledge.Kept (P : Pledge I σ κ ρ γ) (m : Minutes I σ κ ρ γ) (op : κ → Program I σ ρ) (C : Conduct I σ κ ρ) :
    Prop where
  honours : ∀ c s h, P.inv s h → (op c s).Honours C m P (P.Returns c) (m.start c s h) (.called c s :: h)
  drifts  : ∀ s s' h, C.drifts s s' → P.inv s h → P.inv s' h

namespace Machine

def GoesOn (C : Conduct I σ κ ρ) (m : Minutes I σ κ ρ γ) (P : Pledge I σ κ ρ γ) (h : History I σ κ ρ) (g : γ)
    (frame : Frame I σ κ ρ) : Prop :=
  ∀ reply s h', C.answers frame.request reply → h <:+ h' → P.inv s h' →
    (frame.resume reply s).Honours C m P (P.Returns frame.call) (m.note (.answered frame.request reply) h' g)
      (.answered frame.request reply :: h')

structure Minuted (C : Conduct I σ κ ρ) (m : Minutes I σ κ ρ γ) (P : Pledge I σ κ ρ γ) (M : Machine I σ κ ρ) : Prop where
  inv    : P.inv M.state M.history
  frames : (m.underWay M.history).Forall₂ (GoesOn C m P M.history) M.frames
  seen   : History.Always (P.Covers m) M.history

variable {op : κ → Program I σ ρ} {M M' : Machine I σ κ ρ} {h h' : History I σ κ ρ} {frames : List (Frame I σ κ ρ)}
  {gs : List γ}

theorem goesOn_later (goOn : gs.Forall₂ (GoesOn C m P h) frames) (hs : h <:+ h') :
    gs.Forall₂ (GoesOn C m P h') frames :=
  goOn.imp fun _ _ goesOn reply s h'' given grown inv => goesOn reply s h'' given (hs.trans grown) inv

theorem Minuted.enter {c : κ} {g : γ} {run : Run I σ ρ} (honours : run.Honours C m P (P.Returns c) g h)
    (underWay : m.underWay h = g :: gs) (below : gs.Forall₂ (GoesOn C m P h) frames)
    (seen : History.Always (P.Covers m) h) : Minuted C m P (Machine.enter c frames h run) := by
  cases run with
  | finished outcome s =>
    have ⟨ends, inv⟩ := honours
    have left : m.underWay (.returned c outcome s :: h) = gs := by rw [Minutes.underWay, underWay, List.tail_cons]
    exact ⟨inv, left ▸ goesOn_later below (List.suffix_cons _ _), seen.cons ⟨g, gs, underWay, ends⟩⟩
  | waiting request s resume =>
    have ⟨asks, inv, goesOn⟩ := honours
    have waits : m.underWay (.asked request s :: h) = m.note (.asked request s) h g :: gs := by
      rw [Minutes.underWay, underWay, List.modifyHead_cons]
    refine ⟨inv, ?_, seen.cons ⟨g, gs, underWay, asks⟩⟩
    rw [Machine.enter, waits]
    exact .cons goesOn (goesOn_later below (List.suffix_cons _ _))

theorem Minuted.step (kept : P.Kept m op C) (minuted : Minuted C m P M) (step : Step op C M M') : Minuted C m P M' := by
  have ⟨inv, goOn, seen⟩ := minuted
  cases step with
  | @call _ c free made =>
    exact .enter (kept.honours c M.state M.history inv) rfl (goesOn_later goOn (List.suffix_cons _ _)) (seen.cons trivial)
  | @answer s frame frames h reply given =>
    cases hu : m.underWay h with
    | nil => rw [hu] at goOn; cases goOn
    | cons g gs =>
      rw [hu] at goOn
      cases goOn with
      | cons goesOn below =>
        have answered : m.underWay (.answered frame.request reply :: h) =
            m.note (.answered frame.request reply) h g :: gs := by
          rw [Minutes.underWay, hu, List.modifyHead_cons]
        exact .enter (goesOn reply s h given (List.suffix_refl h) inv) answered
          (goesOn_later below (List.suffix_cons _ _)) (seen.cons trivial)
  | drift drifts => exact ⟨kept.drifts _ _ _ drifts inv, goOn, seen⟩

theorem Reaches.minuted (kept : P.Kept m op C) (reaches : Reaches op C M M') (minuted : Minuted C m P M) :
    Minuted C m P M' := by
  induction reaches with
  | refl => exact minuted
  | tail _ step ih => exact ih.step kept step

theorem Minuted.start {s : σ} (inv : P.inv s []) : Minuted C m P ⟨s, [], []⟩ := ⟨inv, .nil, .nil⟩

end Machine

end Keychord
