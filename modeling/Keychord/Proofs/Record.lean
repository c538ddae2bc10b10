import Keychord.Proofs.Crowd
import Keychord.Proofs.Lockstep

namespace Keychord

variable {I : Interface} {σ κ ρ : Type}

def Run.record (c : κ) : Run I σ ρ → History I σ κ ρ → Run I (σ × History I σ κ ρ) ρ
  | finished outcome s, h => finished outcome (s, .returned c outcome s :: h)
  | waiting request s resume, h => waiting request (s, .asked request s :: h) fun reply u =>
    (resume reply u.1).record c (.answered request reply :: u.2)

def recorded (op : κ → Program I σ ρ) (c : κ) : Program I (σ × History I σ κ ρ) ρ := fun u =>
  (op c u.1).record c (.called c u.1 :: u.2)

def Milieu.recorded (B : Milieu I σ) : Milieu I (σ × History I σ κ ρ) where
  answers u := B.answers u.1
  drifts u u' := B.drifts u.1 u'.1 ∧ u'.2 = u.2

def Run.Keeps (B : Milieu I σ) (inv : σ → History I σ κ ρ → Prop) (c : κ) : Run I σ ρ → History I σ κ ρ → Prop
  | finished outcome s, h => inv s (.returned c outcome s :: h)
  | waiting request s resume, h => inv s (.asked request s :: h) ∧ ∀ reply s' h', B.answers s' request reply → inv s' h' →
    (resume reply s').Keeps B inv c (.answered request reply :: h')

variable {B : Milieu I σ} {inv : σ → History I σ κ ρ → Prop} {op : κ → Program I σ ρ} {c : κ}

theorem Run.Keeps.yields {run : Run I σ ρ} {u : σ × History I σ κ ρ} {h : History I σ κ ρ} {done : List (Exchange I)}
    (keeps : run.Keeps B inv c h) : (run.record c h).Yields B.recorded (fun u u' => inv u.1 u.2 → inv u'.1 u'.2)
      (fun _ _ _ => True) u done := by
  induction run generalizing u h done with
  | finished outcome s => exact ⟨fun _ => keeps, trivial⟩
  | waiting request s resume ih =>
    have ⟨asks, goesOn⟩ := keeps
    exact ⟨fun _ => asks, fun reply u' kept given => ih reply u'.1 (goesOn reply u'.1 u'.2 given (kept asks))⟩

-- A run that does nothing to speak of keeps what is not touched by that.
theorem Run.Still.keeps {A : Aside I σ κ ρ} (sights : ∀ s h outcome, inv s h → inv s (.returned c outcome s :: h))
    (asks : ∀ request s h, A.requests request → inv s h → inv s (.asked request s :: h))
    (answers : ∀ request reply s h, inv s h → inv s (.answered request reply :: h))
    (changes : ∀ s s' h, A.changes s s' → inv s h → inv s' h) {run : Run I σ ρ} {s : σ} (still : run.Still A s)
    {h : History I σ κ ρ} (kept : inv s h) : run.Keeps B inv c h := by
  induction still generalizing h with
  | finished moves => exact sights _ _ _ (changes _ _ _ moves kept)
  | waiting allowed moves _ ih =>
    refine ⟨asks _ _ _ allowed (changes _ _ _ moves kept), fun reply s' h' _ kept' => ?_⟩
    exact ih reply s' (answers _ _ _ _ kept')

namespace Crowd

-- What every operation keeps, a crowd with a record keeps.
theorem Reaches.keeps (runs : ∀ c s h, inv s h → (op c s).Keeps B inv c (.called c s :: h))
    (drifts : ∀ s s' h, B.drifts s s' → inv s h → inv s' h) {s : σ} (start : inv s [])
    {G : Crowd I (σ × History I σ κ ρ) κ ρ} (reaches : Reaches (Keychord.recorded op) B.recorded ⟨(s, []), []⟩ G) :
    inv G.state.1 G.state.2 := by
  let Kept (u u' : σ × History I σ κ ρ) : Prop := inv u.1 u.2 → inv u'.1 u'.2
  have trans : ∀ u u' u'', Kept u u' → Kept u' u'' → Kept u u'' := fun _ _ _ before after kept => after (before kept)
  have moved : ∀ u u', B.recorded.drifts u u' → Kept u u' := fun u u' moves kept =>
    moves.right ▸ drifts _ _ _ moves.left kept
  have ⟨kept, _⟩ := reaches.each (fun _ => id) trans moved fun c u' kept => (runs c u'.1 u'.2 (kept start)).yields
  exact kept start

inductive Follows (c : κ) : Progress I (σ × History I σ κ ρ) ρ → Progress I σ ρ → Prop
  | ended {outcome : Except Failure ρ} {u : σ × History I σ κ ρ} : Follows c (.ended outcome u) (.ended outcome u.1)
  | waiting {request : I.Request} {resume : Except Failure (I.Answer request) → σ → Run I σ ρ} :
      Follows c (.waiting request fun reply u => (resume reply u.1).record c (.answered request reply :: u.2))
        (.waiting request resume)

structure Records (task : Task I (σ × History I σ κ ρ) κ ρ) (plain : Task I σ κ ρ) : Prop where
  call      : task.call = plain.call
  start     : task.start.1 = plain.start
  exchanges : task.exchanges = plain.exchanges
  progress  : Follows plain.call task.progress plain.progress

theorem follows_record (c : κ) (run : Run I σ ρ) (h : History I σ κ ρ) :
    (run.record c h).state.1 = run.state ∧ Follows c (run.record c h).progress run.progress := by
  cases run with
  | finished outcome s => exact ⟨rfl, @Follows.ended I σ κ ρ c outcome (s, _)⟩
  | waiting => exact ⟨rfl, .waiting⟩

theorem records_enter (c : κ) (start : σ × History I σ κ ρ) (done : List (Exchange I))
    {earlier later : List (Task I (σ × History I σ κ ρ) κ ρ)} {before after : List (Task I σ κ ρ)} {s : σ}
    (same : start.1 = s) (left : earlier.Forall₂ Records before) (right : later.Forall₂ Records after) (run : Run I σ ρ)
    (h : History I σ κ ρ) : (run.record c h).state.1 = run.state ∧
      (earlier ++ ⟨c, start, done, (run.record c h).progress⟩ :: later).Forall₂ Records
        (before ++ ⟨c, s, done, run.progress⟩ :: after) := by
  have ⟨state, follows⟩ := follows_record c run h
  exact ⟨state, List.rel_append left (.cons ⟨rfl, same, rfl, follows⟩ right)⟩

-- Whatever a crowd goes through, it goes through with a record.
theorem Reaches.recorded {s : σ} {G : Crowd I σ κ ρ} (reaches : Reaches op B ⟨s, []⟩ G) : ∃ N,
    Reaches (Keychord.recorded op) B.recorded ⟨(s, []), []⟩ N ∧ N.state.1 = G.state ∧ N.tasks.Forall₂ Records G.tasks := by
  induction reaches with
  | refl => exact ⟨_, .refl, rfl, .nil⟩
  | @tail G _ _ step ih =>
    have ⟨⟨⟨s', h⟩, tasks⟩, reaches, same, along⟩ := ih
    cases same
    cases step with
    | call c =>
      have ⟨state, tasks⟩ := records_enter c (G.state, h) [] (s := G.state) rfl along .nil (op c G.state)
        (.called c G.state :: h)
      exact ⟨_, reaches.tail (.call c), state, tasks⟩
    | @answer s start before after c done request resume reply given =>
      have left := List.forall₂_take_append _ _ _ along
      have right := List.forall₂_drop_append _ _ _ along
      have parted := List.take_append_drop before.length tasks
      generalize tasks.take before.length = earlier, tasks.drop before.length = later at left right parted
      cases right with
      | @cons task _ later _ records right =>
        have ⟨call, started, exchanges, progress⟩ := records
        obtain ⟨c', start', done', progress'⟩ := task
        cases call
        cases exchanges
        cases progress
        cases parted
        have ⟨state, tasks⟩ := records_enter c start' (done ++ [⟨request, reply⟩]) started left right
          (resume reply s) (.answered request reply :: h)
        exact ⟨_, reaches.tail (.answer reply given), state, tasks⟩
    | @drift _ s'' moves =>
      exact ⟨⟨(s'', h), tasks⟩, reaches.tail (.drift ⟨moves, rfl⟩), rfl, along⟩

end Crowd

end Keychord
