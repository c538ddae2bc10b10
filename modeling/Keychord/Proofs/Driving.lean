import Keychord.Program
import Keychord.Telemetry.Span
import Mathlib.Tactic.Common

namespace Keychord

variable {I : Interface} {σ α β ω : Type}

structure Home (I : Interface) (σ ω : Type) where
  load   : ω → σ
  store  : σ → ω → ω
  answer : (request : I.Request) → Action ω (I.Answer request)

namespace Run

theorem drive_waiting {load : ω → σ} {store : σ → ω → ω}
    {answer : (request : I.Request) → Action ω (I.Answer request)} {request : I.Request} {s : σ}
    {resume : Except Failure (I.Answer request) → σ → Run I σ α}
    {reply : Except Failure (I.Answer request)} {world world' : ω}
    (answered : answer request (store s world) = (reply, world')) :
    (waiting request s resume).drive load store answer world =
      (resume reply (load world')).drive load store answer world' := by
  rw [drive]
  dsimp only
  rw [answered]

def Leads (H : Home I σ ω) (Q : Except Failure α → σ → ω → Prop) : Run I σ α → ω → Prop
  | finished outcome s => fun world => Q outcome s world
  | waiting request s resume => fun world =>
    let answered := H.answer request (H.store s world)
    (resume answered.1 (H.load answered.2)).Leads H Q answered.2

variable {H : Home I σ ω} {world : ω}

theorem Leads.mono {Q Q' : Except Failure α → σ → ω → Prop} {run : Run I σ α} (leads : run.Leads H Q world)
    (weaker : ∀ outcome s world, Q outcome s world → Q' outcome s world) : run.Leads H Q' world := by
  induction run generalizing world with
  | finished outcome s => exact weaker _ _ _ leads
  | waiting request s resume ih => exact ih _ _ leads

theorem leads_andThen {Q : Except Failure β → σ → ω → Prop} {next : Except Failure α → Program I σ β}
    {run : Run I σ α} :
    (run.andThen next).Leads H Q world ↔ run.Leads H (fun outcome s world => (next outcome s).Leads H Q world) world := by
  induction run generalizing world with
  | finished outcome s => rfl
  | waiting request s resume ih => exact ih _ _

theorem Leads.drive {Q : Except Failure α → σ → ω → Prop} {run : Run I σ α} (leads : run.Leads H Q world) :
    ∃ s world', Q (run.drive H.load H.store H.answer world).1 s world' ∧
      (run.drive H.load H.store H.answer world).2 = H.store s world' := by
  induction run generalizing world with
  | finished outcome s => exact ⟨s, world, leads, rfl⟩
  | waiting request s resume ih => exact ih _ _ leads

end Run

namespace Program

def Leads (H : Home I σ ω) (program : Program I σ α) (Q : Except Failure α → σ → ω → Prop) (s : σ) (world : ω) : Prop :=
  (program s).Leads H Q world

variable {H : Home I σ ω} {s : σ} {world : ω}

theorem Leads.mono {program : Program I σ α} {Q Q' : Except Failure α → σ → ω → Prop}
    (leads : program.Leads H Q s world) (weaker : ∀ outcome s world, Q outcome s world → Q' outcome s world) :
    program.Leads H Q' s world :=
  Run.Leads.mono leads weaker

section Parts

variable {Q : Except Failure α → σ → ω → Prop}

def Onward (H : Home I σ ω) (next : α → Program I σ β) (Q : Except Failure β → σ → ω → Prop) :
    Except Failure α → σ → ω → Prop
  | .ok a => (next a).Leads H Q
  | .error f => Q (.error f)

theorem leads_bind {first : Program I σ α} {next : α → Program I σ β} {Q : Except Failure β → σ → ω → Prop} :
    Leads H (first >>= next) Q s world ↔ first.Leads H (Onward H next Q) s world := by
  refine Run.leads_andThen.trans (iff_of_eq (congrArg (fun Q => first.Leads H Q s world) (funext fun outcome => ?_)))
  cases outcome <;> rfl

theorem get_bind (next : σ → Program I σ α) (s : σ) : ((get : Program I σ σ) >>= next) s = next s s := rfl

theorem leads_get_bind {next : σ → Program I σ α} :
    Leads H ((get : Program I σ σ) >>= next) Q s world ↔ (next s).Leads H Q s world :=
  Iff.rfl

theorem leads_modify_bind {f : σ → σ} {next : Unit → Program I σ α} :
    Leads H ((modify f : Program I σ Unit) >>= next) Q s world ↔ (next ()).Leads H Q (f s) world :=
  Iff.rfl

theorem leads_attempt {program : Program I σ α} {Q : Except Failure (Except Failure α) → σ → ω → Prop} :
    Leads H program.attempt Q s world ↔ program.Leads H (fun outcome => Q (.ok outcome)) s world :=
  Run.leads_andThen

theorem leads_tryCatch {program : Program I σ α} {handler : Failure → Program I σ α} :
    Leads H (tryCatchThe Failure program handler) Q s world ↔ program.Leads H (fun outcome s world => match outcome with
      | .ok a => Q (.ok a) s world
      | .error f => (handler f).Leads H Q s world) s world := by
  refine Run.leads_andThen.trans (iff_of_eq (congrArg (fun Q => program.Leads H Q s world) (funext fun outcome => ?_)))
  cases outcome <;> rfl

theorem leads_request {r : I.Request} {Q : Except Failure (I.Answer r) → σ → ω → Prop} :
    Leads H (request r) Q s world ↔
      Q (H.answer r (H.store s world)).1 (H.load (H.answer r (H.store s world)).2) (H.answer r (H.store s world)).2 :=
  Iff.rfl

end Parts

def Upholds (H : Home I σ ω) (inv : σ → ω → Prop) (program : Program I σ α) : Prop :=
  ∀ s world, inv s world → program.Leads H (fun _ s world => inv s world) s world

namespace Upholds

variable {inv : σ → ω → Prop}

theorem pure (a : α) : Upholds H inv (Pure.pure a) := fun _ _ hi => hi

theorem throw (f : Failure) : Upholds H inv (MonadExcept.throw f : Program I σ α) := fun _ _ hi => hi

theorem get : Upholds H inv (MonadState.get : Program I σ σ) := fun _ _ hi => hi

theorem modify {f : σ → σ} (keeps : ∀ s world, inv s world → inv (f s) world) :
    Upholds H inv (modifyThe σ f : Program I σ Unit) := keeps

theorem bind {first : Program I σ α} {next : α → Program I σ β} (hf : Upholds H inv first)
    (hn : ∀ a, Upholds H inv (next a)) : Upholds H inv (first >>= next) := by
  intro s world hi
  refine leads_bind.mpr ((hf s world hi).mono fun outcome s world hi => ?_)
  cases outcome with
  | ok a => exact hn a s world hi
  | error f => exact hi

theorem around {ask : (op : Telemetry.Op) → Program I σ op.Answer} {wanted : Telemetry.SpanRequest} {block : Program I σ α}
    (opens : Upholds H inv (ask (.openSpan wanted))) (closes : ∀ span failure, Upholds H inv (ask (.closeSpan span failure)))
    (hb : Upholds H inv block) : Upholds H inv (Telemetry.around ask wanted block) := by
  refine .bind opens fun span => .bind (fun s world hi => ?_) fun result => .bind (closes span none) fun _ => .pure _
  refine leads_tryCatch.mpr ((hb s world hi).mono fun outcome s world hi => ?_)
  cases outcome with
  | ok a => exact hi
  | error f => exact Upholds.bind (closes span (some f)) (fun _ => .throw f) s world hi

end Upholds

end Program

end Keychord
