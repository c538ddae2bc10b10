import Keychord.Proofs.Playback

namespace Keychord

open Relation (ReflTransGen)

abbrev Servant (I : Interface) (σ τ : Type) := (request : I.Request) → Option (Action (σ × τ) (I.Answer request))

variable {I : Interface} {σ τ υ α β κ ρ : Type}

def Run.enclose (servant : Servant I σ τ) : Run I σ α → τ → Run I (σ × τ) α
  | finished outcome s, t => finished outcome (s, t)
  | waiting request s resume, t =>
    match servant request with
    | none => waiting request (s, t) fun reply u => (resume reply u.1).enclose servant u.2
    | some serve =>
      let (reply, s, t) := serve (s, t)
      (resume reply s).enclose servant t

def Program.enclose (servant : Servant I σ τ) (program : Program I σ α) : Program I (σ × τ) α :=
  fun u => (program u.1).enclose servant u.2

theorem Run.enclose_andThen (servant : Servant I σ τ) (run : Run I σ α) (next : Except Failure α → Program I σ β) (t : τ) :
    (run.andThen next).enclose servant t =
      (run.enclose servant t).andThen fun outcome => (next outcome).enclose servant := by
  induction run generalizing t with
  | finished outcome s => rfl
  | waiting request s resume ih =>
    rw [andThen, enclose, enclose]
    cases servant request with
    | none => exact congrArg (waiting request (s, t)) (funext fun reply => funext fun u => ih reply u.1 u.2)
    | some serve => exact ih _ _ _

-- A run that does nothing to speak of does nothing to speak of once it is enclosed, if its servant does not either.
theorem Run.Still.enclose {A : Aside I σ κ ρ} {A' : Aside I (σ × τ) κ ρ} {servant : Servant I σ τ}
    (trans : ∀ u u' u'', A'.changes u u' → A'.changes u' u'' → A'.changes u u'')
    (left : ∀ request, A.requests request → servant request = none → A'.requests request)
    (changes : ∀ s s' t, A.changes s s' → A'.changes (s, t) (s', t))
    (served : ∀ request serve, servant request = some serve → ∀ u, A'.changes u (serve u).2) {run : Run I σ α} {s : σ}
    (still : run.Still A s) (t : τ) : (run.enclose servant t).Still A' (s, t) := by
  induction still generalizing t with
  | finished moves => exact .finished (changes _ _ _ moves)
  | @waiting request s s' resume asks moves _ ih =>
    rw [Run.enclose]
    cases hs : servant request with
    | none => exact .waiting (left request asks hs) (changes _ _ _ moves) fun reply u => ih reply u.1 u.2
    | some serve =>
      have moved := trans _ _ _ (changes _ _ t moves) (served request serve hs (s', t))
      exact .after trans moved (ih _ _ _)

inductive Servant.Alike (R : σ → σ → Prop) : Option (Action (σ × τ) α) → Option (Action (σ × υ) α) → Prop
  | left : Alike R none none
  | served {serve : Action (σ × τ) α} {serve' : Action (σ × υ) α} (same : ∀ u u', R u.1 u'.1 →
      (serve u).1 = (serve' u').1 ∧ R (serve u).2.1 (serve' u').2.1) : Alike R (some serve) (some serve')

-- What goes on alike without servants is akin with them. What the servants have of their own does not count.
theorem Run.Alike.enclose {L : Likeness I σ κ} {servant : Servant I σ τ} {servant' : Servant I σ υ}
    (requests : ∀ request request', L.request request request' → request = request')
    (servants : ∀ request, Servant.Alike L.state (servant request) (servant' request)) {run run' : Run I σ α}
    (alike : run.Alike L Eq run') (t : τ) (t' : υ) :
    (run.enclose servant t).Akin (fun u u' => L.state u.1 u'.1) (run'.enclose servant' t') := by
  induction alike generalizing t t' with
  | finished ends states =>
    obtain rfl := ends.eq
    exact .finished states
  | @waiting request _ s s' resume resume' same states _ ih =>
    obtain rfl := requests _ _ same
    have answers := servants request
    rw [Run.enclose, Run.enclose]
    generalize servant request = served, servant' request = served' at answers
    cases answers with
    | left => exact .waiting states fun reply u u' states => ih reply reply _ _ .rfl states _ _
    | served same =>
      obtain ⟨replies, states⟩ := same (s, t) (s', t') states
      exact ih _ _ _ _ (heq_of_eq replies) states _ _

def Frame.enclose (servant : Servant I σ τ) (frame : Frame I σ κ ρ) : Frame I (σ × τ) κ ρ :=
  ⟨frame.call, frame.request, fun reply u => (frame.resume reply u.1).enclose servant u.2⟩

namespace Sight

def inner : Sight I (σ × τ) κ ρ → Sight I σ κ ρ
  | called c u => called c u.1
  | asked request u => asked request u.1
  | answered request reply => answered request reply
  | returned c outcome u => returned c outcome u.1

def isLeft (servant : Servant I σ τ) : Sight I σ κ ρ → Bool
  | called .. | returned .. => true
  | asked request _ | answered request _ => (servant request).isNone

theorem map_inner_cons {servant : Servant I σ τ} {sight : Sight I (σ × τ) κ ρ} {h : History I σ κ ρ}
    {h' : History I (σ × τ) κ ρ} (left : isLeft servant sight.inner)
    (before : h'.map inner = h.filter (isLeft servant)) :
    (sight :: h').map inner = (sight.inner :: h).filter (isLeft servant) := by
  rw [List.map_cons, List.filter_cons_of_pos left, before]

end Sight

namespace Machine

-- An enclosed machine, and one of the same component that shows what the servant is asked for. `R` says what the
-- state of the servant has to do with what has been seen.
structure Encloses (servant : Servant I σ τ) (R : τ → History I σ κ ρ → Prop) (M : Machine I (σ × τ) κ ρ)
    (N : Machine I σ κ ρ) : Prop where
  state   : N.state = M.state.1
  frames  : M.frames = N.frames.map (Frame.enclose servant)
  waiting : ∀ frame ∈ N.frames, servant frame.request = none
  history : M.history.map Sight.inner = N.history.filter (Sight.isLeft servant)
  servant : R M.state.2 N.history

-- What surroundings `C` of an enclosed machine do, surroundings `H` of the component may do. So may its servant, and it
-- keeps up what its state has to do with what has been seen.
structure Respected (servant : Servant I σ τ) (op : κ → Program I σ ρ) (C : Conduct I (σ × τ) κ ρ)
    (H : Conduct I σ κ ρ) (R : τ → History I σ κ ρ → Prop) (N₀ : Machine I σ κ ρ) : Prop where
  calls   : ∀ c s h, H.calls c s h
  during  : ∀ c request inner, C.during c request inner → H.during c request inner
  answers : ∀ request reply, C.answers request reply → H.answers request reply
  drifts  : ∀ u u', C.drifts u u' → ReflTransGen H.drifts u.1 u'.1 ∧ ∀ h, R u.2 h → R u'.2 h
  left    : ∀ sight h t, Sight.isLeft servant sight → R t h → R t (sight :: h)
  served  : ∀ request serve, servant request = some serve → ∀ N, Reaches op H N₀ N → ∀ s h,
    N.history = .asked request s :: h → ∀ t, R t h →
      H.answers request (serve (s, t)).1 ∧ ReflTransGen H.drifts s (serve (s, t)).2.1 ∧
        R (serve (s, t)).2.2 (.answered request (serve (s, t)).1 :: .asked request s :: h)

section

variable {servant : Servant I σ τ} {op : κ → Program I σ ρ} {C : Conduct I (σ × τ) κ ρ} {H : Conduct I σ κ ρ}
  {R : τ → History I σ κ ρ → Prop} {N₀ N : Machine I σ κ ρ} {M M' : Machine I (σ × τ) κ ρ}

theorem Reaches.drift {N : Machine I σ κ ρ} {s : σ} (reaches : Reaches op H N₀ N)
    (drifts : ReflTransGen H.drifts N.state s) : Reaches op H N₀ { N with state := s } := by
  induction drifts with
  | refl => exact reaches
  | tail _ step ih => exact ih.tail (.drift step)

theorem Encloses.start {s : σ} {t : τ} (kept : R t []) : Encloses servant R ⟨(s, t), [], []⟩ ⟨s, [], []⟩ where
  state := rfl
  frames := rfl
  waiting := by simp
  history := rfl
  servant := kept

theorem Encloses.isOpen (encloses : Encloses servant R M N)
    (during : ∀ c request inner, C.during c request inner → H.during c request inner) (ho : M.Open C) : N.Open H := by
  intro frame hf
  obtain ⟨inner, opens⟩ := ho (frame.enclose servant) (by simpa [encloses.frames] using ⟨frame, hf, rfl⟩)
  exact ⟨inner, during _ _ _ opens⟩

theorem Encloses.answered (encloses : Encloses servant R M N) {request : I.Request}
    {reply : Except Failure (I.Answer request)} (left : servant request = none)
    (seen : .answered request reply ∈ N.history) : .answered request reply ∈ M.history := by
  have kept : .answered request reply ∈ N.history.filter (Sight.isLeft servant) :=
    List.mem_filter.mpr ⟨seen, by simp [Sight.isLeft, left]⟩
  rw [← encloses.history] at kept
  obtain ⟨sight, hm, same⟩ := List.mem_map.mp kept
  cases sight <;> cases same
  exact hm

theorem exists_enter (respected : Respected servant op C H R N₀) {c : κ} {frames : List (Frame I σ κ ρ)}
    (waiting : ∀ frame ∈ frames, servant frame.request = none) (run : Run I σ ρ) {h : History I σ κ ρ}
    {h' : History I (σ × τ) κ ρ} {t : τ} (reaches : Reaches op H N₀ (Machine.enter c frames h run))
    (before : h'.map Sight.inner = h.filter (Sight.isLeft servant)) (kept : R t h) :
    ∃ N, Reaches op H N₀ N ∧
      Encloses servant R (Machine.enter c (frames.map (Frame.enclose servant)) h' (run.enclose servant t)) N := by
  induction run generalizing h t with
  | finished outcome s =>
    exact ⟨_, reaches, rfl, rfl, waiting, Sight.map_inner_cons rfl before, respected.left _ _ _ rfl kept⟩
  | waiting request s resume ih =>
    cases hs : servant request with
    | none =>
      have left : Sight.isLeft servant (.asked request s : Sight I σ κ ρ) := by simp [Sight.isLeft, hs]
      rw [Run.enclose, hs]
      exact ⟨_, reaches, rfl, rfl, List.forall_mem_cons.mpr ⟨hs, waiting⟩, Sight.map_inner_cons left before,
        respected.left _ _ _ left kept⟩
    | some serve =>
      obtain ⟨given, drifts, kept⟩ := respected.served request serve hs _ reaches s h rfl t kept
      rw [Run.enclose, hs]
      refine ih _ _ ((reaches.drift drifts).tail (.answer _ given)) ?_ kept
      simpa [Machine.enter, Sight.isLeft, hs] using before

-- Whatever the enclosed machine does, the other one goes along.
theorem Encloses.step (respected : Respected servant op C H R N₀) (reaches : Reaches op H N₀ N)
    (encloses : Encloses servant R M N) (step : Step (fun c => (op c).enclose servant) C M M') :
    ∃ N', Reaches op H N₀ N' ∧ Encloses servant R M' N' := by
  obtain ⟨s, frames, h⟩ := N
  obtain ⟨rfl, same, waiting, before, kept⟩ := encloses
  cases step with
  | @call _ c free made =>
    rw [same] at free ⊢
    refine exists_enter respected waiting _ (reaches.enterNested (fun frame hf => ?_) (respected.calls c _ _))
      (Sight.map_inner_cons rfl before) (respected.left _ _ _ rfl kept)
    exact respected.during _ _ _ (free (frame.enclose servant) (by simpa using ⟨frame, hf, rfl⟩))
  | @answer u frame frames' h' reply given =>
    cases frames with
    | nil => cases same
    | cons top frames =>
      cases same
      obtain ⟨none, waiting⟩ := List.forall_mem_cons.mp waiting
      have left : Sight.isLeft servant (.answered top.request reply : Sight I σ κ ρ) := by simp [Sight.isLeft, none]
      have step : Step op H ⟨u.1, top :: frames, h⟩
          (Machine.enter top.call frames (.answered top.request reply :: h) (top.resume reply u.1)) :=
        @Step.answer _ _ _ _ op H u.1 top frames h reply (respected.answers _ _ given)
      exact exists_enter respected waiting _ (reaches.tail step) (Sight.map_inner_cons left before)
        (respected.left _ _ _ left kept)
  | drift drifts =>
    obtain ⟨drifts, keeps⟩ := respected.drifts _ _ drifts
    exact ⟨_, reaches.drift drifts, rfl, same, waiting, before, keeps _ kept⟩

-- Whatever an enclosed machine goes through, the component alone can go through as well.
theorem Reaches.disclosed (respected : Respected servant op C H R N₀) (start : Encloses servant R M N₀)
    (reaches : Reaches (fun c => (op c).enclose servant) C M M') :
    ∃ N, Reaches op H N₀ N ∧ Encloses servant R M' N := by
  induction reaches with
  | refl => exact ⟨N₀, .refl, start⟩
  | tail _ step ih =>
    obtain ⟨N, reaches, encloses⟩ := ih
    exact encloses.step respected reaches step

end

end Machine

end Keychord
