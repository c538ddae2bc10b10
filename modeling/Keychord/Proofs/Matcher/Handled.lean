import Keychord.Proofs.Matcher.Aftermath
import Keychord.Proofs.Matcher.Failures

namespace Keychord.Matcher

variable {Job α β : Type}

def Only (P : α → Prop) (outcome : Except Failure α) : Prop := ∀ a, outcome = .ok a → P a

def Commits (P : α → Prop) (request : Request Job) (resume : Resume Job α request) : Prop :=
  request.command?.isSome → ∀ reply s, (resume reply s).Returns (Only P)

def Committing (P : α → Prop) (step : Step Job α) : Prop := ∀ s, (Logged.step step s).Each (Commits P)

section Steps

variable {P : α → Prop} {Q : β → Prop}

def Tame (request : Request Job) (_ : Resume Job α request) : Prop := request.command? = none

theorem tame_common : Mark.Common fun _ => @Tame Job _ where
  andThen := fun _ _ _ tame => tame
  ask := by
    intro request usual
    cases request with
    | execute => exact usual.elim
    | _ => rfl

theorem committing_of_tame {step : Step Job α} (hs : Throughout (fun _ => Tame) step) : Committing P step := by
  refine fun s => (hs s).mono fun request _ (tame : request.command? = none) carries => ?_
  rw [tame] at carries
  cases carries

theorem committing_trivial (step : Step Job α) : Committing (fun _ => True) step := by
  have each : ∀ run : Run (surroundings Job) Logged α, run.Each (Commits fun _ => True) := by
    intro run
    induction run with
    | finished outcome s => trivial
    | waiting request s resume ih => exact ⟨fun _ _ _ => Run.returns_of_forall (fun _ _ _ => trivial) _, ih⟩
  exact fun s => each _

def Yields (P : α → Prop) (step : Step Job α) : Prop := ∀ s, (Logged.step step s).Returns (Only P)

theorem yields_pure {a : α} (ha : P a) : Yields P (pure a : Step Job α) := by
  rintro s _ ⟨⟩
  exact ha

theorem yields_throw (f : Failure) : Yields P (throw f : Step Job α) := fun _ _ => nofun

theorem Committing.andThen {first : Step Job α} {next : Except Failure α → Step Job β} (hf : Committing P first)
    (hy : ∀ outcome, Only P outcome → Yields Q (next outcome)) (hn : ∀ outcome, Committing Q (next outcome)) :
    Committing Q fun m => (first m).andThen next :=
  each_andThen hf (fun _ _ commits hc reply s => (commits hc reply s).andThen fun outcome s ho => hy outcome ho s)
    fun outcome => hn outcome

theorem Committing.bind {first : Step Job α} {next : α → Step Job β} (hf : Committing P first)
    (hy : ∀ a, P a → Yields Q (next a)) (hn : ∀ a, Committing Q (next a)) : Committing Q (first >>= next) := by
  refine hf.andThen (fun outcome ho => ?_) fun outcome => ?_ <;> cases outcome
  case refine_1.ok a => exact hy a (ho a rfl)
  case refine_1.error f => exact yields_throw f
  case refine_2.ok a => exact hn a
  case refine_2.error f => exact fun _ => trivial

theorem committing_begin {first : Step Job α} {next : α → Step Job β} (hf : Throughout (fun _ => Tame) first)
    (hn : ∀ a, Committing Q (next a)) : Committing Q (first >>= next) :=
  Committing.bind (P := fun _ => False) (committing_of_tame hf) (fun _ => False.elim) hn

theorem yields_bind {first : Step Job α} {next : α → Step Job β} (hn : ∀ a, Yields Q (next a)) :
    Yields Q (first >>= next) := by
  intro s
  show (Logged.run ((first s.matcher).andThen _) s.telemetry).Returns _
  rw [Logged.run_andThen]
  refine (Run.returns_of_forall (P := fun _ => True) (fun _ => trivial) _).andThen fun outcome s _ => ?_
  cases outcome with
  | ok a => exact hn a s
  | error f => exact yields_throw f s

theorem committing_followOr (press : Press) (key : Key) {otherwise : Step Job Bool}
    (ho : Committing (· = true) otherwise) : Committing (· = true) (followOr press key otherwise) := by
  refine committing_begin throughout_get fun m => ?_
  dsimp only
  split
  case h_1 node _ =>
    refine committing_begin tame_common.cancelTimer fun _ => committing_begin (throughout_ask rfl) fun _ => ?_
    refine committing_begin (throughout_modify _) fun _ => (committing_trivial (arrive node)).bind ?_ fun _ _ => trivial
    exact fun _ _ => yields_pure rfl
  case h_2 => exact holds_ite (fun _ => trivial) (committing_begin tame_common.reset fun _ => ho)

theorem committing_handle (press : Press) : Committing (· = true) (handle press : Step Job Bool) := by
  refine holds_ite (fun _ => trivial) ?_
  cases press.toKey? with
  | none => exact fun _ => trivial
  | some key =>
    have closed : Closed fun _ => Throughout fun _ => @Tame Job _ := tame_common.closed
    have followed : Committing (· = true) (follow press key : Step Job Bool) :=
      committing_followOr press key (committing_followOr press key fun _ => trivial)
    refine committing_begin throughout_get fun m =>
      committing_begin (closed.telemetry (.openSpan (keySpan m key))) fun span => ?_
    rw [tryCatch_eq]
    have left : Committing (· = true) (fun m => (follow press key m).andThen (ifFailed span) : Step Job Bool) := by
      refine followed.andThen (fun outcome ho => ?_) fun outcome => committing_of_tame (closed.fails span outcome)
      cases outcome with
      | ok handled => exact yields_pure (ho handled rfl)
      | error f => exact yields_bind fun _ => yields_throw f
    refine left.bind (fun handled hh => yields_bind fun _ => yields_pure hh) fun handled => ?_
    exact committing_of_tame (closed.bind (closed.telemetry (.closeSpan span none)) fun _ => closed.returns _)

theorem committing_step (call : Call) : Committing (· ≠ some false) (call.step : Step Job (Option Bool)) := by
  have silent : ∀ step : Step Job Unit, Committing (· ≠ some false) (do step; return none : Step Job (Option Bool)) :=
    fun step => (committing_trivial step).bind (fun _ _ => yields_pure (by simp)) fun _ _ => trivial
  cases call with
  | press press =>
    refine (committing_handle press).bind ?_ fun _ _ => trivial
    rintro _ rfl
    exact yields_pure (by simp)
  | _ => exact silent _

end Steps

def Past.busy : Past Job → List Bool
  | [] => []
  | .called _ _ :: h => false :: busy h
  | .asked (.execute _) _ :: h => true :: (busy h).tail
  | .returned .. :: h => (busy h).tail
  | _ :: h => busy h

structure Finishing (run : Run (surroundings Job) Logged (Option Bool)) : Prop where
  returns : run.Returns (Only (· ≠ some false))
  asks    : run.Each fun (request : Request Job) _ => request.IsAftermath

structure Engaged (frame : Frame (surroundings Job) Logged Call (Option Bool)) : Prop where
  unarmed  : ∀ delay expiry, frame.request ≠ .arm delay expiry
  finishes : ∀ reply s, Finishing (frame.resume reply s)

theorem Finishing.engaged {call : Call} {request : Request Job} {s : Logged} {resume : Resume Job (Option Bool) request}
    (finishes : Finishing (.waiting request s resume)) : Engaged ⟨call, request, resume⟩ := by
  refine ⟨fun delay expiry armed => ?_, fun reply s => ⟨finishes.returns reply s, finishes.asks.right reply s⟩⟩
  have armed : request = .arm delay expiry := armed
  subst armed
  exact finishes.asks.left

-- Once a call has asked for a command to be carried out, it neither returns that a press was of no use nor because a
-- timer was refused.
structure Committed (M : Working Job) : Prop where
  underWay : (Past.busy M.history).Forall₂ (fun busy frame => busy = true → Engaged frame) M.frames
  returned : ∀ call outcome s h, .returned call outcome s :: h <:+ M.history → (Past.busy h).head? = some true →
    Only (· ≠ some false) outcome ∧ ∀ f, ¬Refused f h

structure Commanding (run : Run (surroundings Job) Logged (Option Bool)) : Prop where
  commits : run.Each (Commits (· ≠ some false))
  trails  : run.Each (Trails fun _ _ => False)

theorem commanding_operate (c : Call) (s : Logged) :
    Commanding (operate c s : Run (surroundings Job) Logged (Option Bool)) :=
  ⟨committing_step c s, trailing_operate c s⟩

theorem Committed.enter {call : Call} {frames : List (Frame (surroundings Job) Logged Call (Option Bool))}
    {h : Past Job} {run : Run (surroundings Job) Logged (Option Bool)} {flag : Bool} {flags : List Bool}
    (commands : Commanding run) (busy : Past.busy h = flag :: flags)
    (finishes : flag = true → Finishing run ∧ ∀ f, ¬Refused f h)
    (underWay : flags.Forall₂ (fun busy frame => busy = true → Engaged frame) frames)
    (returned : ∀ call outcome s before, .returned call outcome s :: before <:+ h → (Past.busy before).head? = some true →
      Only (· ≠ some false) outcome ∧ ∀ f, ¬Refused f before) :
    Committed (Machine.enter call frames h run) := by
  cases run with
  | finished outcome s =>
    refine ⟨?_, forall_returned_cons ?_ returned⟩
    case refine_1 =>
      show ((Past.busy h).tail).Forall₂ _ frames
      rwa [busy]
    case refine_2 =>
      rintro _ _ _ ⟨⟩ busy'
      obtain ⟨finishes, unrefused⟩ := finishes (by simpa [busy] using busy')
      exact ⟨finishes.returns, unrefused⟩
  | waiting request s resume =>
    refine ⟨?_, forall_returned_cons (by simp) returned⟩
    cases request with
    | execute command =>
      show (true :: (Past.busy h).tail).Forall₂ _ _
      rw [busy]
      have engaged : Engaged ⟨call, .execute command, resume⟩ :=
        ⟨by simp, fun reply s => ⟨commands.commits.left rfl reply s, (commands.trails.left (.inl trivial) reply s).each⟩⟩
      exact .cons (fun _ => engaged) underWay
    | _ =>
      show (Past.busy h).Forall₂ _ _
      rw [busy]
      exact .cons (fun hf => (finishes hf).left.engaged) underWay

-- Whatever a matcher goes through, no call of it returns that a press was of no use, or because a timer was refused,
-- when it has carried out a command.
theorem committed {H : Host Job} {M M' : Working Job} (reaches : Machine.Reaches operate H M M') (new : M.frames = [])
    (unseen : M.history = []) : Committed M' := by
  have commits : ∀ c s, (operate c s : Run (surroundings Job) Logged (Option Bool)).Each (Commits (· ≠ some false)) :=
    committing_step
  have trails : ∀ c s, (operate c s : Run (surroundings Job) Logged (Option Bool)).Each (Trails fun _ _ => False) :=
    trailing_operate
  induction reaches with
  | refl =>
    refine ⟨?_, ?_⟩
    · rw [unseen, new]; exact .nil
    · intro call outcome s h hs
      rw [unseen] at hs
      simp at hs
  | @tail N _ before step ih =>
    cases step with
    | @call _ c =>
      exact .enter (commanding_operate c N.state) rfl nofun ih.underWay (forall_returned_cons (by simp) ih.returned)
    | @answer s frame frames h reply =>
      have run : Commanding (frame.resume reply s) :=
        ⟨(Machine.Reaches.each commits before new frame List.mem_cons_self).right reply s,
          (Machine.Reaches.each trails before new frame List.mem_cons_self).right reply s⟩
      have underWay := ih.underWay
      cases hb : Past.busy h with
      | nil => rw [hb] at underWay; cases underWay
      | cons flag flags =>
        rw [hb] at underWay
        obtain ⟨engaged, underWay⟩ := List.forall₂_cons.mp underWay
        refine .enter run hb (fun hf => ⟨(engaged hf).finishes reply s, ?_⟩) underWay
          (forall_returned_cons (by simp) ih.returned)
        rintro f ⟨delay, expiry, _, he⟩
        simp only [List.cons.injEq, Sight.answered.injEq] at he
        exact (engaged hf).unarmed delay expiry he.left.left
    | drift => exact ⟨ih.underWay, ih.returned⟩

end Keychord.Matcher
