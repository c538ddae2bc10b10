import Keychord.Program
import Mathlib.Logic.Function.Iterate
import Mathlib.Logic.Relation
import Mathlib.Tactic.Common

namespace Keychord

open Relation (ReflTransGen)

-- What is seen of a component from outside. Wherever control changes hands, the state is seen as well.
inductive Sight (I : Interface) (σ κ ρ : Type)
  | called (call : κ) (s : σ)
  | asked (request : I.Request) (s : σ)
  | answered (request : I.Request) (reply : Except Failure (I.Answer request))
  | returned (call : κ) (outcome : Except Failure ρ) (s : σ)

abbrev History (I : Interface) (σ κ ρ : Type) := List (Sight I σ κ ρ)

theorem sublist_of_suffix {I : Interface} {σ κ ρ β : Type} {gather : History I σ κ ρ → List β}
    (grows : ∀ sight h, (gather h).Sublist (gather (sight :: h))) {h h' : History I σ κ ρ} (hs : h <:+ h') :
    (gather h).Sublist (gather h') := by
  obtain ⟨later, rfl⟩ := hs
  induction later with
  | nil => exact .refl _
  | cons sight later ih => exact ih.trans (grows sight _)

section Gathered

variable {I : Interface} {σ κ ρ β : Type} (pick : I.Request → Option β)

def History.asked : History I σ κ ρ → List β
  | [] => []
  | .asked request _ :: h => (pick request).toList ++ asked h
  | _ :: h => asked h

def History.answered : History I σ κ ρ → List β
  | [] => []
  | .answered request _ :: h => (pick request).toList ++ answered h
  | _ :: h => answered h

end Gathered

section Always

variable {I : Interface} {σ κ ρ : Type}

def History.Always (P : History I σ κ ρ → Sight I σ κ ρ → Prop) (h : History I σ κ ρ) : Prop :=
  ∀ sight before, sight :: before <:+ h → P before sight

namespace History.Always

variable {P : History I σ κ ρ → Sight I σ κ ρ → Prop} {h h' : History I σ κ ρ}

theorem nil : Always P [] := by
  intro sight before hs
  simp at hs

theorem of_suffix (always : Always P h') (hs : h <:+ h') : Always P h :=
  fun sight before hs' => always sight before (hs'.trans hs)

theorem cons {sight : Sight I σ κ ρ} (always : Always P h) (new : P h sight) : Always P (sight :: h) := by
  intro sight' before hs
  obtain he | hs := List.suffix_cons_iff.mp hs
  · cases he
    exact new
  · exact always sight' before hs

theorem cons_iff {sight : Sight I σ κ ρ} : Always P (sight :: h) ↔ Always P h ∧ P h sight :=
  ⟨fun always => ⟨always.of_suffix (List.suffix_cons _ _), always _ _ List.suffix_rfl⟩,
    fun ⟨always, new⟩ => always.cons new⟩

instance decidable (P : History I σ κ ρ → Sight I σ κ ρ → Prop) [∀ h sight, Decidable (P h sight)] :
    (h : History I σ κ ρ) → Decidable (Always P h)
  | [] => isTrue nil
  | _ :: h =>
    have := decidable P h
    decidable_of_iff _ cons_iff.symm

end History.Always

theorem forall_returned_cons {Q : κ → Except Failure ρ → σ → History I σ κ ρ → Prop} {sight : Sight I σ κ ρ}
    {h : History I σ κ ρ} (new : ∀ call outcome s, sight = .returned call outcome s → Q call outcome s h)
    (older : ∀ call outcome s before, .returned call outcome s :: before <:+ h → Q call outcome s before) :
    ∀ call outcome s before, .returned call outcome s :: before <:+ sight :: h → Q call outcome s before := by
  intro call outcome s before hs
  obtain he | hs := List.suffix_cons_iff.mp hs
  · cases he
    exact new call outcome s rfl
  · exact older call outcome s before hs

end Always

structure Frame (I : Interface) (σ κ ρ : Type) where
  call : κ
  request : I.Request
  resume : Except Failure (I.Answer request) → σ → Run I σ ρ

structure Machine (I : Interface) (σ κ ρ : Type) where
  state : σ
  frames : List (Frame I σ κ ρ) := []
  history : History I σ κ ρ := []

-- How surroundings behave: which calls they make at all, which of them while they answer a request of a call, which
-- answers they give, and which part of the state changes without a call.
structure Conduct (I : Interface) (σ κ ρ : Type) where
  calls : κ → σ → History I σ κ ρ → Prop
  during : κ → I.Request → κ → Prop
  answers : (request : I.Request) → Except Failure (I.Answer request) → Prop
  drifts : σ → σ → Prop

structure Contract (I : Interface) (σ κ ρ : Type) where
  inv : σ → History I σ κ ρ → Prop
  handOver : κ → I.Request → σ → History I σ κ ρ → Prop

variable {I : Interface} {σ κ ρ α β : Type}

def Conduct.Opens (C : Conduct I σ κ ρ) (call : κ) (request : I.Request) : Prop :=
  ∃ inner, C.during call request inner

def Conduct.Allows (C : Conduct I σ κ ρ) (h : History I σ κ ρ) : Sight I σ κ ρ → Prop
  | .called c s => C.calls c s h
  | .answered request reply => C.answers request reply
  | _ => True

structure Conduct.Meanwhile (C : Conduct I σ κ ρ) (inv : σ → History I σ κ ρ → Prop) (call : κ)
    (request : I.Request) (s : σ) (h : History I σ κ ρ) (s' : σ) (h' : History I σ κ ρ) : Prop where
  opened : C.Opens call request → inv s' h'
  grown  : h <:+ h'
  closed : ¬C.Opens call request → ReflTransGen C.drifts s s' ∧ h' = h

namespace Run

def Meets (C : Conduct I σ κ ρ) (K : Contract I σ κ ρ) (call : κ)
    (Q : Except Failure α → σ → History I σ κ ρ → Prop) : Run I σ α → History I σ κ ρ → Prop
  | finished outcome s, h => Q outcome s h
  | waiting request s resume, h =>
    K.handOver call request s (.asked request s :: h) ∧
      ∀ reply s' h', C.answers request reply →
        C.Meanwhile K.inv call request s (.asked request s :: h) s' h' →
        (resume reply s').Meets C K call Q (.answered request reply :: h')

variable {C : Conduct I σ κ ρ} {K : Contract I σ κ ρ} {call : κ}

theorem Meets.mono {Q Q' : Except Failure α → σ → History I σ κ ρ → Prop} {run : Run I σ α}
    {h : History I σ κ ρ} (m : run.Meets C K call Q h) (hq : ∀ outcome s h, Q outcome s h → Q' outcome s h) :
    run.Meets C K call Q' h := by
  induction run generalizing h with
  | finished outcome s => exact hq _ _ _ m
  | waiting request s resume ih => exact ⟨m.left, fun _ _ _ ha hm => ih _ _ <| m.right _ _ _ ha hm⟩

theorem meets_of_forall {Q : Except Failure α → σ → History I σ κ ρ → Prop}
    (ho : ∀ request s h, K.handOver call request s (.asked request s :: h)) (hq : ∀ outcome s h, Q outcome s h)
    (run : Run I σ α) (h : History I σ κ ρ) : run.Meets C K call Q h := by
  induction run generalizing h with
  | finished outcome s => exact hq outcome s h
  | waiting request s resume ih => exact ⟨ho request s h, fun reply s' h' _ _ => ih reply s' _⟩

theorem Meets.and {inv : σ → History I σ κ ρ → Prop} {ho ho' : κ → I.Request → σ → History I σ κ ρ → Prop}
    {Q Q' : Except Failure α → σ → History I σ κ ρ → Prop} {run : Run I σ α} {h : History I σ κ ρ}
    (m : run.Meets C ⟨inv, ho⟩ call Q h) (m' : run.Meets C ⟨inv, ho'⟩ call Q' h) :
    run.Meets C ⟨inv, fun c request s h => ho c request s h ∧ ho' c request s h⟩ call
      (fun outcome s h => Q outcome s h ∧ Q' outcome s h) h := by
  induction run generalizing h with
  | finished outcome s => exact ⟨m, m'⟩
  | waiting request s resume ih =>
    exact ⟨⟨m.left, m'.left⟩, fun _ _ _ ha hm => ih _ _ (m.right _ _ _ ha hm) (m'.right _ _ _ ha hm)⟩

theorem meets_andThen {Q : Except Failure β → σ → History I σ κ ρ → Prop} {run : Run I σ α}
    {next : Except Failure α → Program I σ β} {h : History I σ κ ρ} :
    (run.andThen next).Meets C K call Q h ↔
      run.Meets C K call (fun outcome s h => (next outcome s).Meets C K call Q h) h := by
  induction run generalizing h with
  | finished outcome s => rfl
  | waiting request s resume ih => simp only [andThen, Meets, ih]

end Run

namespace Machine

def enter (call : κ) (frames : List (Frame I σ κ ρ)) (history : History I σ κ ρ) : Run I σ ρ → Machine I σ κ ρ
  | .finished outcome s => ⟨s, frames, .returned call outcome s :: history⟩
  | .waiting request s resume => ⟨s, ⟨call, request, resume⟩ :: frames, .asked request s :: history⟩

inductive Step (op : κ → Program I σ ρ) (C : Conduct I σ κ ρ) : Machine I σ κ ρ → Machine I σ κ ρ → Prop
  | call {M : Machine I σ κ ρ} {c : κ} (free : ∀ frame ∈ M.frames.head?, C.during frame.call frame.request c)
      (made : C.calls c M.state M.history) :
      Step op C M (enter c M.frames (.called c M.state :: M.history) (op c M.state))
  | answer {s : σ} {frame : Frame I σ κ ρ} {frames : List (Frame I σ κ ρ)} {history : History I σ κ ρ}
      (reply : Except Failure (I.Answer frame.request)) (given : C.answers frame.request reply) :
      Step op C ⟨s, frame :: frames, history⟩
        (enter frame.call frames (.answered frame.request reply :: history) (frame.resume reply s))
  | drift {M : Machine I σ κ ρ} {s : σ} (drifts : C.drifts M.state s) : Step op C M { M with state := s }

abbrev Reaches (op : κ → Program I σ ρ) (C : Conduct I σ κ ρ) : Machine I σ κ ρ → Machine I σ κ ρ → Prop :=
  ReflTransGen (Step op C)

def Resting (M : Machine I σ κ ρ) : Prop := M.frames = []

end Machine

structure Contract.Kept (K : Contract I σ κ ρ) (op : κ → Program I σ ρ) (C : Conduct I σ κ ρ) : Prop where
  meets : ∀ c s h, C.calls c s h → K.inv s h →
    (op c s).Meets C K c (fun outcome s h => K.inv s (.returned c outcome s :: h)) (.called c s :: h)
  opens : ∀ c request s h, C.Opens c request → K.handOver c request s h → K.inv s h
  drifts : ∀ s s' h, C.drifts s s' → K.inv s h → K.inv s' h

namespace Run

def answerAll (reply : (request : I.Request) → Except Failure (I.Answer request)) :
    Run I σ α → History I σ κ ρ → Except Failure α × σ × History I σ κ ρ
  | finished outcome s, h => (outcome, s, h)
  | waiting request s resume, h =>
    (resume (reply request) s).answerAll reply (.answered request (reply request) :: .asked request s :: h)

theorem answerAll_andThen (reply : (request : I.Request) → Except Failure (I.Answer request)) (run : Run I σ α)
    (next : Except Failure α → Program I σ β) (h : History I σ κ ρ) : (run.andThen next).answerAll reply h =
      (next (run.answerAll reply h).1 (run.answerAll reply h).2.1).answerAll reply (run.answerAll reply h).2.2 := by
  induction run generalizing h with
  | finished outcome s => rfl
  | waiting request s resume ih => exact ih _ s _

end Run

namespace Machine

variable {op : κ → Program I σ ρ} {C : Conduct I σ κ ρ} {K : Contract I σ κ ρ}

def serve (op : κ → Program I σ ρ) (reply : (request : I.Request) → Except Failure (I.Answer request))
    (M : Machine I σ κ ρ) (call : κ) : Machine I σ κ ρ :=
  let (outcome, s, h) := (op call M.state).answerAll reply (.called call M.state :: M.history)
  ⟨s, [], .returned call outcome s :: h⟩

theorem resting_serve (reply : (request : I.Request) → Except Failure (I.Answer request)) (M : Machine I σ κ ρ)
    (call : κ) : (serve op reply M call).Resting :=
  rfl

theorem exists_history_serve (op : κ → Program I σ ρ)
    (reply : (request : I.Request) → Except Failure (I.Answer request)) (M : Machine I σ κ ρ) (call : κ) :
    ∃ outcome s before, (serve op reply M call).history = .returned call outcome s :: before :=
  ⟨_, _, _, rfl⟩

def enterCall (op : κ → Program I σ ρ) (M : Machine I σ κ ρ) (call : κ) : Machine I σ κ ρ :=
  enter call M.frames (.called call M.state :: M.history) (op call M.state)

theorem Reaches.enterNested {M M' : Machine I σ κ ρ} (reaches : Reaches op C M M') {c : κ}
    (free : ∀ frame ∈ M'.frames.head?, C.during frame.call frame.request c) (made : C.calls c M'.state M'.history) :
    Reaches op C M (enterCall op M' c) :=
  reaches.tail (.call free made)

theorem reaches_enterCalls (made : ∀ c s h, C.calls c s h) (free : ∀ c request inner, C.during c request inner)
    (M : Machine I σ κ ρ) (calls : List κ) : Reaches op C M (calls.foldl (Machine.enterCall op) M) := by
  induction calls generalizing M with
  | nil => exact .refl
  | cons c rest ih => exact .head (.call (fun frame _ => free _ _ _) (made _ _ _)) (ih _)

theorem Reaches.enterCall {M M' : Machine I σ κ ρ} (reaches : Reaches op C M M') (rest : Resting M') {c : κ}
    (made : C.calls c M'.state M'.history) : Reaches op C M (enterCall op M' c) := by
  obtain ⟨s, frames, history⟩ := M'
  obtain rfl : frames = [] := rest
  exact reaches.tail (.call nofun made)

def answer (reply : (request : I.Request) → Except Failure (I.Answer request)) (M : Machine I σ κ ρ) :
    Machine I σ κ ρ :=
  match M.frames with
  | [] => M
  | frame :: frames => enter frame.call frames (.answered frame.request (reply frame.request) :: M.history)
      (frame.resume (reply frame.request) M.state)

theorem Reaches.answer {reply : (request : I.Request) → Except Failure (I.Answer request)}
    (given : ∀ request, C.answers request (reply request)) {M M' : Machine I σ κ ρ} (reaches : Reaches op C M M') :
    Reaches op C M (M'.answer reply) := by
  obtain ⟨s, frames, history⟩ := M'
  cases frames with
  | nil => exact reaches
  | cons frame frames => exact reaches.tail (.answer _ (given frame.request))

theorem Reaches.answers {reply : (request : I.Request) → Except Failure (I.Answer request)}
    (given : ∀ request, C.answers request (reply request)) {M M' : Machine I σ κ ρ} (reaches : Reaches op C M M')
    (n : Nat) : Reaches op C M ((Machine.answer reply)^[n] M') := by
  induction n with
  | zero => exact reaches
  | succ n ih =>
    rw [Function.iterate_succ_apply']
    exact ih.answer given

theorem reaches_answerAll {reply : (request : I.Request) → Except Failure (I.Answer request)}
    (given : ∀ request, C.answers request (reply request)) (c : κ) (frames : List (Frame I σ κ ρ)) (run : Run I σ ρ)
    (h : History I σ κ ρ) :
    Reaches op C (enter c frames h run) ⟨(run.answerAll reply h).2.1, frames,
      .returned c (run.answerAll reply h).1 (run.answerAll reply h).2.1 :: (run.answerAll reply h).2.2⟩ := by
  induction run generalizing h with
  | finished outcome s => exact .refl
  | waiting request s resume ih => exact .head (.answer _ (given request)) (ih _ s _)

theorem Reaches.serve {reply : (request : I.Request) → Except Failure (I.Answer request)}
    (given : ∀ request, C.answers request (reply request)) {M M' : Machine I σ κ ρ} (reaches : Reaches op C M M')
    (rest : Resting M') {c : κ} (made : C.calls c M'.state M'.history) : Reaches op C M (serve op reply M' c) := by
  have called := reaches.enterCall rest made
  obtain ⟨s, frames, history⟩ := M'
  obtain rfl : frames = [] := rest
  exact called.trans (reaches_answerAll given _ _ _ _)

theorem history_enter_suffix (c : κ) (frames : List (Frame I σ κ ρ)) (h : History I σ κ ρ) (run : Run I σ ρ) :
    h <:+ (enter c frames h run).history := by
  cases run <;> exact List.suffix_cons _ _

theorem Step.history_suffix {M M' : Machine I σ κ ρ} (step : Step op C M M') : M.history <:+ M'.history := by
  cases step with
  | call free made => exact (List.suffix_cons _ _).trans (history_enter_suffix _ _ _ _)
  | answer reply given => exact (List.suffix_cons _ _).trans (history_enter_suffix _ _ _ _)
  | drift drifts => exact List.suffix_refl _

theorem Reaches.history_suffix {M M' : Machine I σ κ ρ} (reaches : Reaches op C M M') : M.history <:+ M'.history := by
  induction reaches with
  | refl => exact List.suffix_refl _
  | tail _ step ih => exact ih.trans step.history_suffix

theorem exists_returned {reply : (request : I.Request) → Except Failure (I.Answer request)}
    (given : ∀ request, C.answers request (reply request)) {M : Machine I σ κ ρ} {c : κ}
    (free : ∀ frame ∈ M.frames.head?, C.during frame.call frame.request c) (made : C.calls c M.state M.history) :
    ∃ M' outcome s before, Reaches op C M M' ∧ M'.frames = M.frames ∧ M'.history = .returned c outcome s :: before ∧
      .called c M.state :: M.history <:+ before := by
  have called : Reaches op C M (enterCall op M c) := .single (.call free made)
  have ends : Reaches op C (enterCall op M c) _ := reaches_answerAll given _ _ _ _
  refine ⟨_, _, _, _, called.trans ends, rfl, rfl, ?_⟩
  have grown := (history_enter_suffix _ _ _ _).trans ends.history_suffix
  exact (List.suffix_cons_iff.mp grown).resolve_left nofun

structure Ready (C : Conduct I σ κ ρ) (K : Contract I σ κ ρ) (frame : Frame I σ κ ρ) (s : σ) (h : History I σ κ ρ) :
    Prop where
  handedOver : K.handOver frame.call frame.request s h
  goesOn     : ∀ reply s' h', C.answers frame.request reply →
    C.Meanwhile K.inv frame.call frame.request s h s' h' →
    (frame.resume reply s').Meets C K frame.call
      (fun outcome s h => K.inv s (.returned frame.call outcome s :: h)) (.answered frame.request reply :: h')

def Covered (C : Conduct I σ κ ρ) (K : Contract I σ κ ρ) (frame : Frame I σ κ ρ) (history : History I σ κ ρ) : Prop :=
  C.Opens frame.call frame.request ∧ ∃ s h, h <:+ history ∧ Ready C K frame s h

def Promised (K : Contract I σ κ ρ) (M : Machine I σ κ ρ) : Prop :=
  ∀ request s h, M.history = .asked request s :: h → ∃ c, K.handOver c request s M.history

structure Sound (C : Conduct I σ κ ρ) (K : Contract I σ κ ρ) (M : Machine I σ κ ρ) : Prop where
  resting  : M.frames = [] → K.inv M.state M.history
  waiting  : ∀ frame ∈ M.frames.head?, ∃ s h,
    Ready C K frame s h ∧ C.Meanwhile K.inv frame.call frame.request s h M.state M.history
  covered  : ∀ frame ∈ M.frames.tail, Covered C K frame M.history
  promised : Promised K M

theorem Covered.mono {frame : Frame I σ κ ρ} {h h' : History I σ κ ρ} (c : Covered C K frame h) (hs : h <:+ h') :
    Covered C K frame h' := by
  obtain ⟨ho, s, h₀, hg, hr⟩ := c
  exact ⟨ho, s, h₀, hg.trans hs, hr⟩

-- A run that meets the contract leaves a sound machine where it stops, provided that the frames below can go on.
theorem Sound.enter (kept : K.Kept op C) {c : κ} {frames : List (Frame I σ κ ρ)} {h : History I σ κ ρ}
    {run : Run I σ ρ} (m : run.Meets C K c (fun outcome s h => K.inv s (.returned c outcome s :: h)) h)
    (hc : ∀ frame ∈ frames, Covered C K frame h) : Sound C K (enter c frames h run) := by
  have hs := history_enter_suffix c frames h run
  cases run with
  | finished outcome s =>
    refine ⟨fun _ => m, fun frame hf => ?_, fun frame hf => (hc frame (List.mem_of_mem_tail hf)).mono hs, ?_⟩
    case refine_1 =>
      obtain ⟨_, s₀, h₀, hg, hr⟩ := hc frame (List.mem_of_mem_head? hf)
      exact ⟨s₀, h₀, hr, fun _ => m, hg.trans hs, fun hn => absurd ‹_› hn⟩
    case refine_2 => intro _ _ _ heq; simp [Machine.enter] at heq
  | waiting request s resume =>
    refine ⟨nofun, fun frame hf => ?_, fun frame hf => (hc frame hf).mono hs, ?_⟩
    case refine_1 =>
      obtain rfl : _ = frame := by simpa [Machine.enter] using hf
      refine ⟨s, _, ⟨m.left, m.right⟩, fun ho => kept.opens _ _ _ _ ho m.left, List.suffix_refl _, fun _ => ⟨.refl, rfl⟩⟩
    case refine_2 =>
      intro request' s' h' heq
      simp only [Machine.enter, List.cons.injEq, Sight.asked.injEq] at heq
      obtain ⟨⟨rfl, rfl⟩, rfl⟩ := heq
      exact ⟨c, m.left⟩

theorem Sound.step (kept : K.Kept op C) {M M' : Machine I σ κ ρ} (sound : Sound C K M) (step : Step op C M M') :
    Sound C K M' := by
  cases step with
  | call free made =>
    rename_i c
    -- A call is made where nothing waits, or while a request is answered that leaves the component open.
    have hi : K.inv M.state M.history := by
      cases hf : M.frames with
      | nil => exact sound.resting hf
      | cons frame rest =>
        have hm : frame ∈ M.frames.head? := by simp [hf]
        obtain ⟨_, _, _, meanwhile⟩ := sound.waiting frame hm
        exact meanwhile.opened ⟨c, free frame hm⟩
    refine .enter kept (kept.meets _ _ _ made hi) fun frame hf => ?_
    refine Covered.mono ?_ (List.suffix_cons _ _)
    cases hfs : M.frames with
    | nil => simp [hfs] at hf
    | cons top rest =>
      rw [hfs, List.mem_cons] at hf
      obtain rfl | hf := hf
      · have hm : frame ∈ M.frames.head? := by simp [hfs]
        obtain ⟨s, h, hr, meanwhile⟩ := sound.waiting frame hm
        exact ⟨⟨c, free frame hm⟩, s, h, meanwhile.grown, hr⟩
      · exact sound.covered frame (by simpa [hfs] using hf)
  | answer reply given =>
    obtain ⟨s, h, hr, meanwhile⟩ := sound.waiting _ rfl
    refine .enter kept (hr.goesOn _ _ _ given meanwhile) fun frame hf => ?_
    exact (sound.covered frame hf).mono (List.suffix_cons _ _)
  | drift drifts =>
    refine ⟨fun hf => kept.drifts _ _ _ drifts (sound.resting hf), fun frame hf => ?_, sound.covered, sound.promised⟩
    obtain ⟨s, h, hr, meanwhile⟩ := sound.waiting frame hf
    refine ⟨s, h, hr, fun ho => kept.drifts _ _ _ drifts (meanwhile.opened ho), meanwhile.grown, fun hn => ?_⟩
    obtain ⟨hd, he⟩ := meanwhile.closed hn
    exact ⟨hd.tail drifts, he⟩

theorem Reaches.sound (kept : K.Kept op C) {M M' : Machine I σ κ ρ} (reaches : Reaches op C M M')
    (sound : Sound C K M) : Sound C K M' := by
  induction reaches with
  | refl => exact sound
  | tail _ step ih => exact ih.step kept step

theorem Reaches.allowed {M M' : Machine I σ κ ρ} (reaches : Reaches op C M M') (unseen : M.history = []) :
    History.Always C.Allows M'.history := by
  have entered : ∀ (c : κ) (frames : List (Frame I σ κ ρ)) (h : History I σ κ ρ) (run : Run I σ ρ),
      History.Always C.Allows h → History.Always C.Allows (Machine.enter c frames h run).history := by
    intro c frames h run before
    cases run <;> exact before.cons trivial
  induction reaches with
  | refl => rw [unseen]; exact .nil
  | tail _ step ih =>
    cases step with
    | call _ made => exact entered _ _ _ _ (ih.cons made)
    | answer _ given => exact entered _ _ _ _ (ih.cons given)
    | drift => exact ih

theorem Reaches.asked_perm {pick : I.Request → Option β} {M M' : Machine I σ κ ρ} (reaches : Reaches op C M M')
    (new : M.frames = []) (unseen : M.history = []) : (History.asked pick M'.history).Perm
      (M'.frames.filterMap (fun frame => pick frame.request) ++ History.answered pick M'.history) := by
  have entered : ∀ (c : κ) (frames : List (Frame I σ κ ρ)) (h : History I σ κ ρ) (run : Run I σ ρ),
      (History.asked pick h).Perm (frames.filterMap (fun frame => pick frame.request) ++ History.answered pick h) →
      (History.asked pick (Machine.enter c frames h run).history).Perm ((Machine.enter c frames h run).frames.filterMap
        (fun frame => pick frame.request) ++ History.answered pick (Machine.enter c frames h run).history) := by
    intro c frames h run before
    cases run with
    | finished => exact before
    | waiting request s resume =>
      show ((pick request).toList ++ History.asked pick h).Perm
        ((⟨c, request, resume⟩ :: frames : List (Frame I σ κ ρ)).filterMap _ ++ History.answered pick h)
      rw [List.filterMap_cons]
      cases pick request with
      | none => exact before
      | some b => exact before.cons b
  induction reaches with
  | refl => rw [new, unseen]; exact .refl _
  | tail _ step ih =>
    cases step with
    | call => exact entered _ _ _ _ ih
    | @answer s frame frames h reply =>
      refine entered _ _ _ _ (ih.trans ?_)
      show List.Perm _ (_ ++ ((pick frame.request).toList ++ History.answered pick h))
      rw [List.filterMap_cons]
      cases pick frame.request with
      | none => exact .refl _
      | some b => exact List.perm_middle.symm
    | drift => exact ih

theorem Sound.start {s : σ} (hi : K.inv s []) : Sound C K ⟨s, [], []⟩ :=
  ⟨fun _ => hi, nofun, nofun, nofun⟩

def Open (C : Conduct I σ κ ρ) (M : Machine I σ κ ρ) : Prop :=
  ∀ frame ∈ M.frames.head?, C.Opens frame.call frame.request

theorem Sound.inv_of_open {M : Machine I σ κ ρ} (sound : Sound C K M) (ho : Open C M) : K.inv M.state M.history := by
  cases hf : M.frames with
  | nil => exact sound.resting hf
  | cons frame rest =>
    have hm : frame ∈ M.frames.head? := by simp [hf]
    obtain ⟨_, _, _, meanwhile⟩ := sound.waiting frame hm
    exact meanwhile.opened (ho frame hm)

section Returned

variable {c c' : κ} {outcome : Except Failure ρ} {s : σ} {h h' : History I σ κ ρ} {frames : List (Frame I σ κ ρ)}

theorem inv_of_enter {run : Run I σ ρ} (m : run.Meets C K c (fun outcome s h => K.inv s (.returned c outcome s :: h)) h)
    (hs : .returned c' outcome s :: h' <:+ (enter c frames h run).history) :
    .returned c' outcome s :: h' <:+ h ∨ K.inv s (.returned c' outcome s :: h') := by
  cases run with
  | finished =>
    obtain he | hs := List.suffix_cons_iff.mp hs
    · cases he
      exact .inr m
    · exact .inl hs
  | waiting =>
    obtain he | hs := List.suffix_cons_iff.mp hs
    · cases he
    · exact .inl hs

theorem Sound.inv_of_step (kept : K.Kept op C) {M M' : Machine I σ κ ρ} (sound : Sound C K M) (step : Step op C M M')
    (hs : .returned c outcome s :: h <:+ M'.history) :
    .returned c outcome s :: h <:+ M.history ∨ K.inv s (.returned c outcome s :: h) := by
  cases step with
  | @call _ inner free made =>
    have hi : K.inv M.state M.history := sound.inv_of_open fun frame hf => ⟨inner, free frame hf⟩
    refine (inv_of_enter (kept.meets _ _ _ made hi) hs).imp_left fun hs => ?_
    obtain he | hs := List.suffix_cons_iff.mp hs
    · cases he
    · exact hs
  | answer reply given =>
    obtain ⟨_, _, hr, meanwhile⟩ := sound.waiting _ rfl
    refine (inv_of_enter (hr.goesOn _ _ _ given meanwhile) hs).imp_left fun hs => ?_
    obtain he | hs := List.suffix_cons_iff.mp hs
    · cases he
    · exact hs
  | drift => exact .inl hs

theorem Reaches.inv_of_returned (kept : K.Kept op C) {M M' : Machine I σ κ ρ} (reaches : Reaches op C M M')
    (sound : Sound C K M) (new : M.history = []) (hs : .returned c outcome s :: h <:+ M'.history) :
    K.inv s (.returned c outcome s :: h) := by
  induction reaches with
  | refl => simp [new] at hs
  | tail before step ih => exact ((Reaches.sound kept before sound).inv_of_step kept step hs).elim ih id

theorem Reaches.inv_of_called (kept : K.Kept op C) {M M' : Machine I σ κ ρ} (reaches : Reaches op C M M')
    (sound : Sound C K M) (new : M.history = []) (hs : .called c s :: h <:+ M'.history) : K.inv s h := by
  have entered : ∀ {c' : κ} {frames : List (Frame I σ κ ρ)} {h' : History I σ κ ρ} {run : Run I σ ρ},
      .called c s :: h <:+ (enter c' frames h' run).history → .called c s :: h <:+ h' := by
    intro c' frames h' run hs
    cases run <;> exact (List.suffix_cons_iff.mp hs).resolve_left nofun
  induction reaches with
  | refl => simp [new] at hs
  | @tail N _ before step ih =>
    cases step with
    | call free =>
      obtain he | hs := List.suffix_cons_iff.mp (entered hs)
      · cases he
        exact (Reaches.sound kept before sound).inv_of_open fun frame hf => ⟨_, free frame hf⟩
      · exact ih hs
    | answer =>
      obtain he | hs := List.suffix_cons_iff.mp (entered hs)
      · cases he
      · exact ih hs
    | drift => exact ih hs

end Returned

theorem reaches_open_enter (op : κ → Program I σ ρ) (total : ∀ request, ∃ reply, C.answers request reply) {c : κ}
    {frames : List (Frame I σ κ ρ)} (hc : ∀ frame ∈ frames, C.Opens frame.call frame.request) (run : Run I σ ρ)
    (h : History I σ κ ρ) :
    ∃ M, Reaches op C (enter c frames h run) M ∧ Open C M := by
  induction run generalizing h with
  | finished outcome s => exact ⟨_, .refl, fun frame hf => hc frame (List.mem_of_mem_head? hf)⟩
  | waiting request s resume ih =>
    by_cases ho : C.Opens c request
    case pos =>
      refine ⟨_, .refl, fun frame hf => ?_⟩
      obtain rfl : _ = frame := by simpa [enter] using hf
      exact ho
    case neg =>
      obtain ⟨reply, given⟩ := total request
      obtain ⟨M, reaches, hM⟩ := ih reply s (.answered request reply :: .asked request s :: h)
      exact ⟨M, .head (.answer reply given) reaches, hM⟩

theorem Sound.reaches_open {M : Machine I σ κ ρ} (sound : Sound C K M) (op : κ → Program I σ ρ)
    (total : ∀ request, ∃ reply, C.answers request reply) : ∃ M', Reaches op C M M' ∧ Open C M' := by
  obtain ⟨s, frames, history⟩ := M
  cases frames with
  | nil => exact ⟨_, .refl, nofun⟩
  | cons frame rest =>
    obtain ⟨reply, given⟩ := total frame.request
    obtain ⟨M, reaches, hM⟩ := reaches_open_enter op total (fun under hu => (sound.covered under hu).left)
      (frame.resume reply s) (.answered frame.request reply :: history)
    exact ⟨M, .head (.answer reply given) reaches, hM⟩

end Machine

end Keychord
