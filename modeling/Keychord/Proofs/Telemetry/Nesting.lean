import Keychord.Proofs.OrderedMap
import Keychord.Proofs.Telemetry.Calls
import Keychord.Scenario.Logging

namespace Keychord

namespace Telemetry

structure Span.Annotated (opened later : Span) : Prop where
  logger      : later.logger = opened.logger
  name        : later.name = opened.name
  component   : later.component = opened.component
  contextKeys : later.contextKeys = opened.contextKeys

namespace Span.Annotated

variable {opened later last : Span}

theorem refl (span : Span) : Annotated span span := ⟨rfl, rfl, rfl, rfl⟩

theorem trans (first : Annotated opened later) (second : Annotated later last) : Annotated opened last :=
  ⟨second.logger.trans first.logger, second.name.trans first.name, second.component.trans first.component,
    second.contextKeys.trans first.contextKeys⟩

theorem of_annotate {key : Scalar} {value : Value} (h : opened.annotate key value = .ok later) : Annotated opened later := by
  unfold annotate at h
  cases hs : textOf value with
  | error f => rw [hs] at h; cases h
  | ok shown =>
    rw [hs] at h
    cases h
    exact ⟨rfl, rfl, rfl, rfl⟩

theorem leaving (same : Annotated opened later) (sort : Option String) : later.leaving sort = opened.leaving sort := by
  simp only [Span.leaving, tracked?, same.logger, same.name, same.component, same.contextKeys]

end Span.Annotated

end Telemetry

namespace Scenario.Logging

open Telemetry Keychord.Action

mutual

-- What a step gives to spans that has to be shown: the data of those that it opens, and the keys that it adds to open
-- ones.
def given : Step → List Value
  | .span wanted body => (wanted.metadata.entries.flatMap fun entry => [.scalar entry.1, entry.2]) ++ givenAll body
  | .annotate key _ => [.scalar key]
  | .annotateOuter _ key _ => [.scalar key]
  | _ => []

def givenAll : List Step → List Value
  | [] => []
  | step :: rest => given step ++ givenAll rest

end

structure Grown (given : List Value) (span later : Span) : Prop extends span.Annotated later where
  added : ∀ key ∈ later.metadata.keys, key ∈ span.metadata.keys ∨ .scalar key ∈ given

section Grown

variable {data more : List Value} {span later last : Span}

theorem Grown.refl (data : List Value) (span : Span) : Grown data span span := ⟨.refl span, fun _ => .inl⟩

theorem Grown.trans (first : Grown data span later) (second : Grown data later last) : Grown data span last where
  toAnnotated := first.toAnnotated.trans second.toAnnotated
  added key hk := (second.added key hk).elim (first.added key) .inr

theorem Grown.mono (grown : Grown data span later) (covers : data ⊆ more) : Grown more span later where
  toAnnotated := grown.toAnnotated
  added key hk := (grown.added key hk).imp_right fun hm => covers hm

theorem Grown.of_annotate {key : Scalar} {value : Value} (h : span.annotate key value = .ok later) :
    Grown [.scalar key] span later where
  toAnnotated := .of_annotate h
  added other hk := by
    unfold Span.annotate at h
    cases hs : textOf value with
    | error f => rw [hs] at h; cases h
    | ok shown =>
      rw [hs] at h
      cases h
      by_cases known : other ∈ span.metadata.keys
      case pos => exact .inl known
      case neg =>
        obtain rfl := OrderedMap.eq_of_mem_keys_insert hk known
        exact .inr List.mem_cons_self

end Grown

-- The open spans stay open. Some of these keys may be added to them.
def Keeps (data : List Value) (w w' : World) : Prop := w.spans.Forall₂ (Grown data) w'.spans

section Keeps

variable {data more : List Value}

theorem Keeps.refl (w : World) : Keeps data w w := List.forall₂_same.mpr fun span _ => .refl data span

theorem Keeps.of_spans {w w' : World} (same : w'.spans = w.spans) : Keeps data w w' := by
  rw [Keeps, same]
  exact Keeps.refl w

theorem Keeps.mono {w w' : World} (keeps : Keeps data w w') (covers : data ⊆ more) : Keeps more w w' :=
  keeps.imp fun _ _ grown => grown.mono covers

theorem Keeps.trans (w₁ w₂ w₃ : World) : Keeps data w₁ w₂ → Keeps data w₂ w₃ → Keeps data w₁ w₃ := by
  have trans : ∀ {spans₁ spans₂ spans₃ : List Span}, spans₁.Forall₂ (Grown data) spans₂ →
      spans₂.Forall₂ (Grown data) spans₃ → spans₁.Forall₂ (Grown data) spans₃ := by
    intro spans₁ spans₂ spans₃ first second
    induction first generalizing spans₃ with
    | nil => exact second
    | cons grown _ ih =>
      cases second with
      | cons grown' others => exact .cons (grown.trans grown') (ih others)
  exact trans

-- The innermost span stays the innermost.
theorem Keeps.innermost {t t' : Telemetry} {opened : Span} {outer spans : List Span}
    (kept : Keeps data ⟨t, opened :: outer⟩ ⟨t', spans⟩) :
    ∃ closing outer', spans = closing :: outer' ∧ Grown data opened closing ∧ outer.Forall₂ (Grown data) outer' := by
  have kept : (opened :: outer).Forall₂ (Grown data) spans := kept
  cases kept with
  | cons grown others => exact ⟨_, _, rfl, grown, others⟩

theorem onTelemetry_keeps {α : Type} (action : Action Telemetry α) : (onTelemetry action).Moves (Keeps data) :=
  fun _ => .of_spans rfl

theorem openSpan?_keeps (outward : Nat) : (openSpan? outward).Moves (Keeps data) := by
  intro w
  rw [openSpan?, get_bind]
  cases w.spans[outward]? with
  | none => exact .refl w
  | some span => exact .refl w

theorem forall₂_set {spans : List Span} {outward : Nat} {later : Span}
    (grown : ∀ span ∈ spans[outward]?, Grown data span later) :
    spans.Forall₂ (Grown data) (spans.set outward later) := by
  induction spans generalizing outward with
  | nil => exact .nil
  | cons span outer ih =>
    cases outward with
    | zero => exact .cons (grown span rfl) (List.forall₂_same.mpr fun span _ => .refl data span)
    | succ outward => exact .cons (.refl data span) (ih grown)

theorem annotate_keeps (outward : Nat) (key : Scalar) (value : Value) :
    (annotate outward key value).Moves (Keeps [.scalar key]) := by
  intro w
  rw [annotate, openSpan?, bind_assoc, get_bind]
  cases hs : w.spans[outward]? with
  | none => exact .refl w
  | some span =>
    cases ha : span.annotate key value with
    | error f =>
      have he : (Action.ofExcept (span.annotate key value) : Action World Span) w = (.error f, w) := congrArg (·, w) ha
      exact (congrArg Prod.snd (bind_error he)).symm ▸ Keeps.refl w
    | ok later =>
      have he : (Action.ofExcept (span.annotate key value) : Action World Span) w = (.ok later, w) := congrArg (·, w) ha
      refine (congrArg Prod.snd (bind_ok he)).symm ▸ forall₂_set fun span' hm => ?_
      obtain rfl : span = span' := Option.some.inj (hs.symm.trans hm)
      exact .of_annotate ha

theorem fail_keeps (outward : Nat) (reason : Value) : (fail outward reason).Moves (Keeps data) :=
  .bind .trans (openSpan?_keeps outward) fun _ => onTelemetry_keeps _

end Keeps

theorem of?_bind_ofExcept {σ α β : Type} (first : Action σ α) (outcome : Except Failure β) (s : σ) :
    Failure.of? ((first >>= fun _ => Action.ofExcept outcome) s).1 = (Failure.of? (first s).1).or (Failure.of? outcome) ∧
      ((first >>= fun _ => Action.ofExcept outcome) s).2 = (first s).2 := by
  rcases hf : first s with ⟨f | a, s'⟩
  case error => rw [bind_error hf]; exact ⟨rfl, rfl⟩
  case ok => rw [bind_ok hf]; exact ⟨rfl, rfl⟩

section Span

variable {wanted : SpanRequest} {body : List Step} {w : World} {t t' : Telemetry}

theorem perform_span_unopened {f : Failure} (unopened : openSpan wanted w.telemetry = (.error f, t)) :
    perform (.span wanted body) w = (.error f, { w with telemetry := t }) := by
  have ho : onTelemetry (openSpan wanted) w = (.error f, { w with telemetry := t }) := by
    rw [onTelemetry, onPart, unopened]
  rw [perform, bind_error ho]

theorem perform_span_opened {opened closing : Span} {outer : List Span} {outcome : Except Failure Unit}
    (opens : openSpan wanted w.telemetry = (.ok opened, t))
    (ends : performAll body ⟨t, opened :: w.spans⟩ = (outcome, ⟨t', closing :: outer⟩)) :
    (Failure.of? (perform (.span wanted body) w).1 =
      (Failure.of? (closeSpan closing (Failure.of? outcome) t').1).or (Failure.of? outcome)) ∧
    (perform (.span wanted body) w).2 = ⟨(closeSpan closing (Failure.of? outcome) t').2, outer⟩ := by
  have ho : onTelemetry (openSpan wanted) w = (.ok opened, { w with telemetry := t }) := by
    rw [onTelemetry, onPart, opens]
  have attempted : attempt (performAll body) ⟨t, opened :: w.spans⟩ = (.ok outcome, ⟨t', closing :: outer⟩) := by
    rw [attempt, ends]
  have pushed : (modify fun world => { world with spans := opened :: world.spans } : Action World Unit)
      { w with telemetry := t } = (.ok (), ⟨t, opened :: w.spans⟩) := rfl
  have left : leaveSpan opened ⟨t', closing :: outer⟩ = (.ok closing, ⟨t', outer⟩) := rfl
  rw [perform, bind_ok ho, bind_ok pushed, bind_ok attempted, bind_ok left]
  cases outcome with
  | ok _ => exact of?_bind_ofExcept (onTelemetry (closeSpan closing none)) (.ok (Result.span closing)) _
  | error f => exact of?_bind_ofExcept (onTelemetry (closeSpan closing (some f))) (.error f) _

end Span

mutual

theorem perform_keeps : ∀ step, (perform step).Moves (Keeps (given step))
  | .configure _ _ => by
    rw [perform]
    exact .bind .trans (onTelemetry_keeps _) fun _ => .refl
  | .read _ _ => by
    rw [perform]
    exact .refl
  | .readFlag _ _ => by
    rw [perform]
    exact .refl
  | .getLogger _ => by
    rw [perform]
    exact .bind .trans (onTelemetry_keeps _) fun _ => .refl
  | .record _ _ _ _ => by
    rw [perform]
    exact .bind .trans (onTelemetry_keeps _) fun _ => .refl
  | .span wanted body => by
    intro w
    rcases ho : openSpan wanted w.telemetry with ⟨f | opened, t⟩
    case error => rw [perform_span_unopened ho]; exact .of_spans rfl
    case ok =>
      rcases hb : performAll body ⟨t, opened :: w.spans⟩ with ⟨outcome, t', spans⟩
      obtain ⟨closing, outer, rfl, -, others⟩ := ((performAll_keeps body).of_eq hb).innermost
      rw [Keeps, (perform_span_opened ho hb).right, given]
      exact others.imp fun _ _ grown => grown.mono (List.subset_append_right _ _)
  | .annotate _ _ => by
    rw [perform, given]
    exact .bind .trans (annotate_keeps _ _ _) fun _ => .refl
  | .annotateOuter _ _ _ => by
    rw [perform, given]
    exact .bind .trans (annotate_keeps _ _ _) fun _ => .refl
  | .fail _ => by
    rw [perform]
    exact .bind .trans (fail_keeps _ _) fun _ => .refl
  | .failOuter _ _ => by
    rw [perform]
    exact .bind .trans (fail_keeps _ _) fun _ => .refl
  | .raise _ _ => by
    rw [perform]
    exact .refl
  | .cancel => by
    rw [perform]
    exact .refl

theorem performAll_keeps : ∀ steps, (performAll steps).Moves (Keeps (givenAll steps))
  | [] => by
    rw [performAll]
    exact .refl
  | step :: rest => by
    rw [performAll, givenAll]
    refine .bind .trans (fun w => ?_) fun _ w => ?_
    case refine_1 => exact (perform_keeps step w).mono (List.subset_append_left _ _)
    case refine_2 => exact (performAll_keeps rest w).mono (List.subset_append_right _ _)

end

end Scenario.Logging

end Keychord
