import Keychord.Proofs.Telemetry.Nesting

namespace Keychord.Scenario.Logging

open Telemetry Keychord.Action

inductive Noted : Option Failure → List Call → Prop
  | told (logger : Logger) (fields : List (String × String)) : Noted none [.line logger "error" "span::fail" fields]
  | untold (f : Failure) : Noted (some f) []

-- What goes astray: context that is set for a logger and never removed, and a failure that is not reported and does not
-- leave its span.
inductive Stray
  | context (logger : Logger) (key : Scalar)
  | failure (f : Failure)

mutual

-- The calls that a step makes, with what it fails with and what goes astray. A span whose body fails goes on to fail in
-- the same way, once what it has set and entered is undone. Something goes astray where data cannot be shown: a value
-- of a span that is to be opened, or a key of a span whose failure is to be reported.
inductive Bracketed : Step → Option Failure → List Call → List Stray → Prop
  | configure {fresh : Bool} {preset : Option String} {failure : Option Failure} {making : List Call}
      (prepares : ∀ c ∈ making, c.prepares) : Bracketed (.configure fresh preset) failure making []
  | read {name : String} {unset : Value} : Bracketed (.read name unset) none [] []
  | readFlag {name : String} {unset : Value} : Bracketed (.readFlag name unset) none [] []
  | getLogger {name : Option String} {failure : Option Failure} {making : List Call}
      (prepares : ∀ c ∈ making, c.prepares) : Bracketed (.getLogger name) failure making []
  | record {name : String} {level : Value} {data : OrderedMap Scalar Value} {owner : Option String}
      {outcome : Except Failure Unit} {logger : Logger} {making lines : List Call} (prepares : ∀ c ∈ making, c.prepares)
      (lined : Lined logger ("event::" ++ name) outcome lines) :
      Bracketed (.record name level data owner) (Failure.of? outcome) (making ++ lines) []
  | annotate {key : Scalar} {value : Value} {failure : Option Failure} : Bracketed (.annotate key value) failure [] []
  | annotateOuter {outward : Nat} {key : Scalar} {value : Value} {failure : Option Failure} :
      Bracketed (.annotateOuter outward key value) failure [] []
  | fail {reason : Value} {failure : Option Failure} {lines : List Call} (noted : Noted failure lines) :
      Bracketed (.fail reason) failure lines []
  | failOuter {outward : Nat} {reason : Value} {failure : Option Failure} {lines : List Call}
      (noted : Noted failure lines) : Bracketed (.failOuter outward reason) failure lines []
  | raise {kind message : String} : Bracketed (.raise kind message) (some (.raised kind message)) [] []
  | cancel : Bracketed .cancel (some .cancelled) [] []
  | refused {wanted : SpanRequest} {body : List Step} {f : Failure} {making : List Call}
      (prepares : ∀ c ∈ making, c.prepares) :
      Bracketed (.span wanted body) (some f) making []
  | span {wanted : SpanRequest} {body : List Step} {opened closing : Span} {ended : Option Failure}
      {opening inner leaving : List Call} {strays : List Stray} (opens : Opens wanted (.ok opened) opening)
      (inside : BracketedAll body ended inner strays) (grown : Grown (givenAll body) opened closing)
      (ends : closing.Ends ended leaving) : Bracketed (.span wanted body) ended (opening ++ inner ++ leaving) strays
  | unshown {wanted : SpanRequest} {body : List Step} {f : Failure} {making : List Call} {logger : Logger}
      {context : List (Scalar × String)} (prepares : ∀ c ∈ making, c.prepares)
      (shows : Shows wanted.metadata.entries context (some f)) :
      Bracketed (.span wanted body) (some f) (making ++ context.map fun entry => .addContext logger entry.1 entry.2)
        (context.map fun entry => .context logger entry.1)
  | unreported {wanted : SpanRequest} {body : List Step} {opened closing : Span} {f : Failure} {opening inner : List Call}
      {strays : List Stray} (opens : Opens wanted (.ok opened) opening) (inside : BracketedAll body (some f) inner strays)
      (grown : Grown (givenAll body) opened closing) (failed : f.isCancellation = false)
      (illegible : ∃ key ∈ closing.metadata.keys, key.text? = none) :
      Bracketed (.span wanted body) (some .numberTooLong)
        (opening ++ inner ++ closing.leaving (some Failure.numberTooLong.kind)) (strays ++ [.failure f])

inductive BracketedAll : List Step → Option Failure → List Call → List Stray → Prop
  | nil : BracketedAll [] none [] []
  | stopped {step : Step} {rest : List Step} {f : Failure} {calls : List Call} {strays : List Stray}
      (first : Bracketed step (some f) calls strays) : BracketedAll (step :: rest) (some f) calls strays
  | cons {step : Step} {rest : List Step} {failure : Option Failure} {calls more : List Call} {strays others : List Stray}
      (first : Bracketed step none calls strays) (later : BracketedAll rest failure more others) :
      BracketedAll (step :: rest) failure (calls ++ more) (strays ++ others)

end

def calls (w : World) : List Call := w.telemetry.calls

section Onward

variable {α β : Type} {P : Option Failure → List Call → Prop}

theorem appends_bind_pure {action : Action World α} {result : α → β}
    (appends : action.Appends calls fun outcome => P (Failure.of? outcome)) :
    (action >>= fun a => pure (result a)).Appends calls fun outcome => P (Failure.of? outcome) := by
  refine appends.bind (fun f made suits => suits) fun a made suits => appends_pure ?_
  rw [List.append_nil]
  exact suits

theorem appends_onTelemetry {Q : Except Failure α → List Call → Prop} {action : Action Telemetry α}
    (logs : Logs Q action) : (onTelemetry action).Appends calls Q :=
  logs.onPart fun _ _ => rfl

theorem appends_annotate (outward : Nat) (key : Scalar) (value : Value) :
    (annotate outward key value).Appends calls fun _ made => made = [] := by
  intro w
  rw [annotate, openSpan?, bind_assoc, get_bind]
  cases w.spans[outward]? with
  | none => exact ⟨[], (List.append_nil _).symm, rfl⟩
  | some span =>
    have known : (Action.ofExcept (span.annotate key value) >>= fun later =>
        modify fun world => { world with spans := world.spans.set outward later } : Action World Unit).Appends calls
          fun _ made => made = [] :=
      appends_ofExcept_bind (fun _ _ => rfl) fun _ _ => appends_modify (fun _ => rfl) rfl
    exact known w

theorem Noted.of_notes {span : Span} {reason : Value} {outcome : Except Failure Unit} {lines : List Call}
    (notes : span.Notes reason outcome lines) : Noted (Failure.of? outcome) lines := by
  cases notes with
  | told => exact .told _ _
  | untold => exact .untold _

theorem appends_fail (outward : Nat) (reason : Value) :
    (fail outward reason).Appends calls fun outcome => Noted (Failure.of? outcome) := by
  intro w
  rw [fail, openSpan?, bind_assoc, get_bind]
  cases w.spans[outward]? with
  | none => exact ⟨[], (List.append_nil _).symm, .untold _⟩
  | some span =>
    have known : (onTelemetry (span.fail reason)).Appends calls fun outcome => Noted (Failure.of? outcome) :=
      (appends_onTelemetry (span.logs_fail reason)).mono fun _ _ => .of_notes
    exact known w

end Onward

def Brackets (step : Step) (failure : Option Failure) (made : List Call) : Prop :=
  ∃ strays, Bracketed step failure made strays

def BracketsAll (steps : List Step) (failure : Option Failure) (made : List Call) : Prop :=
  ∃ strays, BracketedAll steps failure made strays

theorem appends_span {wanted : SpanRequest} {body : List Step}
    (inside : (performAll body).Appends calls fun outcome => BracketsAll body (Failure.of? outcome)) :
    (perform (.span wanted body)).Appends calls fun outcome => Brackets (.span wanted body) (Failure.of? outcome) := by
  intro w
  obtain ⟨opening, made, opens⟩ := logs_openSpan wanted w.telemetry
  rcases ho : openSpan wanted w.telemetry with ⟨f | opened, t⟩
  case error =>
    rw [ho] at made opens
    rw [perform_span_unopened ho]
    refine ⟨opening, made, ?_⟩
    cases opens with
    | refused prepares => exact ⟨_, .refused prepares⟩
    | unshown prepares shows => exact ⟨_, .unshown prepares shows⟩
  case ok =>
    rw [ho] at made opens
    obtain ⟨inner, made', strays, brackets⟩ := inside ⟨t, opened :: w.spans⟩
    rcases hb : performAll body ⟨t, opened :: w.spans⟩ with ⟨outcome, t', spans⟩
    rw [hb] at made' brackets
    obtain ⟨closing, outer, rfl, grown, -⟩ := ((performAll_keeps body).of_eq hb).innermost
    obtain ⟨leaving, made'', closes⟩ := logs_closeSpan closing (Failure.of? outcome) t'
    have ⟨fails, after⟩ := perform_span_opened ho hb
    refine ⟨opening ++ inner ++ leaving, ?_, ?_⟩
    case refine_1 =>
      calc calls (perform (.span wanted body) w).2 = t'.calls ++ leaving := by rw [after]; exact made''
        _ = (t.calls ++ inner) ++ leaving := congrArg (· ++ leaving) made'
        _ = w.telemetry.calls ++ (opening ++ inner ++ leaving) := by rw [made]; simp only [List.append_assoc]
    case refine_2 =>
      show Brackets _ (Failure.of? (perform (.span wanted body) w).1) _
      rw [fails]
      generalize (Failure.of? _).or (Failure.of? outcome) = left at closes
      generalize Failure.of? outcome = ended at closes brackets
      cases closes with
      | duly ends => exact ⟨strays, .span opens brackets grown ends⟩
      | unreported failed illegible => exact ⟨_, .unreported opens brackets grown failed illegible⟩

mutual

theorem appends_perform : ∀ step, (perform step).Appends calls fun outcome => Brackets step (Failure.of? outcome)
  | .configure _ _ => by
    rw [perform]
    exact appends_bind_pure ((appends_onTelemetry (preparing_configure _ _)).mono
      fun _ _ prepares => ⟨[], .configure prepares⟩)
  | .read _ _ => by
    rw [perform]
    exact appends_get_bind fun _ => appends_pure ⟨[], .read⟩
  | .readFlag _ _ => by
    rw [perform]
    exact appends_get_bind fun _ => appends_pure ⟨[], .readFlag⟩
  | .getLogger _ => by
    rw [perform]
    exact appends_bind_pure ((appends_onTelemetry (preparing_getLogger _)).mono
      fun _ _ prepares => ⟨[], .getLogger prepares⟩)
  | .record _ _ _ _ => by
    rw [perform]
    refine appends_bind_pure ((appends_onTelemetry (logs_record _ _ _ _)).mono ?_)
    intro outcome calls ⟨making, logger, lines, made, prepares, lined⟩
    exact made ▸ ⟨[], .record prepares lined⟩
  | .span _ body => appends_span (appends_performAll body)
  | .annotate _ _ => by
    rw [perform]
    exact appends_bind_pure ((appends_annotate 0 _ _).mono fun _ _ none => none ▸ ⟨[], .annotate⟩)
  | .annotateOuter _ _ _ => by
    rw [perform]
    exact appends_bind_pure ((appends_annotate _ _ _).mono fun _ _ none => none ▸ ⟨[], .annotateOuter⟩)
  | .fail _ => by
    rw [perform]
    exact appends_bind_pure ((appends_fail 0 _).mono fun _ _ noted => ⟨[], .fail noted⟩)
  | .failOuter _ _ => by
    rw [perform]
    exact appends_bind_pure ((appends_fail _ _).mono fun _ _ noted => ⟨[], .failOuter noted⟩)
  | .raise _ _ => by
    rw [perform]
    exact appends_throw ⟨[], .raise⟩
  | .cancel => by
    rw [perform]
    exact appends_throw ⟨[], .cancel⟩

theorem appends_performAll : ∀ steps,
    (performAll steps).Appends calls fun outcome => BracketsAll steps (Failure.of? outcome)
  | [] => by
    rw [performAll]
    exact appends_pure ⟨[], .nil⟩
  | step :: rest => by
    rw [performAll]
    refine (appends_perform step).bind (fun f made ⟨strays, first⟩ => ⟨strays, .stopped first⟩)
      fun result made ⟨strays, first⟩ => ?_
    exact (appends_performAll rest).mono fun _ _ ⟨others, later⟩ => ⟨strays ++ others, .cons first later⟩

end

def Legible (data : List Value) : Prop := ∀ value ∈ data, value.text?.isSome

theorem legible_append {data more : List Value} : Legible (data ++ more) ↔ Legible data ∧ Legible more :=
  List.forall_mem_append

theorem Legible.metadata {wanted : SpanRequest} {body : List Step} (legible : Legible (given (.span wanted body))) :
    (∀ entry ∈ wanted.metadata.entries, entry.1.text?.isSome ∧ entry.2.text?.isSome) ∧ Legible (givenAll body) := by
  rw [given, legible_append] at legible
  refine ⟨fun entry hm => ?_, legible.right⟩
  have both : ∀ value ∈ [Value.scalar entry.1, entry.2], value.text?.isSome :=
    fun value hv => legible.left value (List.mem_flatMap.mpr ⟨entry, hm, hv⟩)
  exact ⟨both _ (.head _), both _ (.tail _ (.head _))⟩

mutual

theorem Bracketed.strays_eq_nil : ∀ {step failure made strays}, Bracketed step failure made strays → Legible (given step) →
    strays = []
  | _, _, _, _, .configure _, _ | _, _, _, _, .read, _ | _, _, _, _, .readFlag, _ | _, _, _, _, .getLogger _, _
  | _, _, _, _, .record _ _, _ | _, _, _, _, .annotate, _ | _, _, _, _, .annotateOuter, _ | _, _, _, _, .fail _, _
  | _, _, _, _, .failOuter _, _ | _, _, _, _, .raise, _ | _, _, _, _, .cancel, _ | _, _, _, _, .refused _, _ => rfl
  | _, _, _, _, .span _ inside _ _, legible => inside.strays_eq_nil legible.metadata.right
  | _, _, _, _, .unshown _ shows, legible => by
    obtain ⟨entry, hm, unshown⟩ := shows.unshown_mem
    have shown := (legible.metadata.left entry hm).right
    rw [unshown] at shown
    cases shown
  | _, _, _, _, .unreported opens _ grown _ illegible, legible => by
    obtain ⟨key, hk, unshown⟩ := illegible
    have ⟨metadata, body⟩ := legible.metadata
    have shown : key.text?.isSome := by
      cases opens with
      | opened _ _ _ _ shows =>
        obtain hk | hk := grown.added key hk
        case inr => exact body _ hk
        case inl =>
          rw [OrderedMap.keys, shows.keys] at hk
          obtain ⟨entry, hm, rfl⟩ := List.mem_map.mp hk
          exact (metadata entry hm).left
    rw [unshown] at shown
    cases shown

theorem BracketedAll.strays_eq_nil : ∀ {steps failure made strays}, BracketedAll steps failure made strays →
    Legible (givenAll steps) → strays = []
  | _, _, _, _, .nil, _ => rfl
  | _, _, _, _, .stopped first, legible => first.strays_eq_nil (legible_append.mp legible).left
  | _, _, _, _, .cons first later, legible => by
    have ⟨now, after⟩ := legible_append.mp legible
    rw [first.strays_eq_nil now, later.strays_eq_nil after, List.append_nil]

end

end Keychord.Scenario.Logging
