import Keychord.Proofs.Telemetry.Nesting

namespace Keychord.Telemetry

open Keychord.Action

def Call.leaves (logger : Logger) (key : String) (value : Option String) : Call → Option String
  | .addContext owner other text => if owner = logger ∧ other = .text key then some text else value
  | .removeContext owner other => if owner = logger ∧ other = .text key then none else value
  | _ => value

def context (calls : List Call) (logger : Logger) (key : String) : Option String :=
  calls.foldl (Call.leaves logger key) none

def Sets (calls : List Call) (logger : Logger) (key : String) : Prop := ∃ text, .addContext logger (.text key) text ∈ calls

def Call.isContext : Call → Bool
  | .addContext .. | .removeContext .. => true
  | _ => false

def Span.Holds (span : Span) (logger : Logger) (key : String) : Prop := span.logger = logger ∧ .text key ∈ span.contextKeys

section Replay

variable {calls : List Call} {logger : Logger} {key : String} {value : Option String}

theorem foldl_plain (plain : ∀ c ∈ calls, c.isContext = false) : calls.foldl (Call.leaves logger key) value = value := by
  induction calls with
  | nil => rfl
  | cons c rest ih =>
    obtain ⟨first, others⟩ := List.forall_mem_cons.mp plain
    have same : Call.leaves logger key value c = value := by cases c <;> first | rfl | cases first
    rw [List.foldl_cons, same]
    exact ih others

theorem not_sets_plain (plain : ∀ c ∈ calls, c.isContext = false) : ¬Sets calls logger key :=
  fun ⟨_, set⟩ => nomatch plain _ set

theorem sets_append {more : List Call} : Sets (calls ++ more) logger key ↔ Sets calls logger key ∨ Sets more logger key := by
  simp only [Sets, List.mem_append, exists_or]

theorem leaves_addContext (text : String) : Call.leaves logger key value (.addContext logger (.text key) text) = some text :=
  if_pos ⟨rfl, rfl⟩

theorem foldl_unset (stays : ∀ owner other, .removeContext owner other ∉ calls) (unset : ¬Sets calls logger key) :
    calls.foldl (Call.leaves logger key) value = value := by
  induction calls with
  | nil => rfl
  | cons c rest ih =>
    have same : Call.leaves logger key value c = value := by
      cases c with
      | addContext owner other text => exact if_neg fun ⟨ho, hk⟩ => unset ⟨text, by simp [ho, hk]⟩
      | removeContext owner other => exact absurd List.mem_cons_self (stays owner other)
      | _ => rfl
    rw [List.foldl_cons, same]
    exact ih (fun owner other hm => stays owner other (List.mem_cons_of_mem _ hm))
      fun ⟨text, hm⟩ => unset ⟨text, List.mem_cons_of_mem _ hm⟩

theorem foldl_addContext_of_not {owner : Logger} {entries : List (Scalar × String)}
    (other : ¬(owner = logger ∧ .text key ∈ entries.map Prod.fst)) :
    (entries.map fun entry => Call.addContext owner entry.1 entry.2).foldl (Call.leaves logger key) value = value := by
  induction entries generalizing value with
  | nil => rfl
  | cons entry rest ih =>
    have first : ¬(owner = logger ∧ entry.1 = .text key) := fun ⟨same, hk⟩ => other ⟨same, by simp [hk]⟩
    have same : Call.leaves logger key value (.addContext owner entry.1 entry.2) = value := if_neg first
    rw [List.map_cons, List.foldl_cons, same]
    exact ih fun ⟨same, hk⟩ => other ⟨same, List.mem_cons_of_mem _ hk⟩

theorem foldl_addContext_of_mem {entries : List (Scalar × String)} (held : .text key ∈ entries.map Prod.fst) :
    ∃ text, (.text key, text) ∈ entries ∧
      (entries.map fun entry => Call.addContext logger entry.1 entry.2).foldl (Call.leaves logger key) value =
        some text := by
  induction entries generalizing value with
  | nil => cases held
  | cons entry rest ih =>
    rw [List.map_cons, List.foldl_cons]
    by_cases later : .text key ∈ rest.map Prod.fst
    case pos =>
      obtain ⟨text, hm, he⟩ := ih later
      exact ⟨text, List.mem_cons_of_mem _ hm, he⟩
    case neg =>
      obtain ⟨other, text⟩ := entry
      obtain rfl : .text key = other := (List.mem_cons.mp held).resolve_right later
      refine ⟨text, List.mem_cons_self, ?_⟩
      rw [foldl_addContext_of_not fun ⟨_, hk⟩ => later hk, leaves_addContext]

theorem foldl_removeContext_of_not {owner : Logger} {keys : List Scalar} (other : ¬(owner = logger ∧ .text key ∈ keys)) :
    (keys.map (Call.removeContext owner)).foldl (Call.leaves logger key) value = value := by
  induction keys with
  | nil => rfl
  | cons removed rest ih =>
    have first : ¬(owner = logger ∧ removed = .text key) := fun ⟨same, hk⟩ => other ⟨same, by simp [hk]⟩
    have same : Call.leaves logger key value (.removeContext owner removed) = value := if_neg first
    rw [List.map_cons, List.foldl_cons, same]
    exact ih fun ⟨same, hk⟩ => other ⟨same, List.mem_cons_of_mem _ hk⟩

theorem foldl_removeContext_of_mem {keys : List Scalar} (gone : value = none ∨ .text key ∈ keys) :
    (keys.map (Call.removeContext logger)).foldl (Call.leaves logger key) value = none := by
  induction keys generalizing value with
  | nil => exact gone.resolve_right nofun
  | cons removed rest ih =>
    rw [List.map_cons, List.foldl_cons]
    refine ih ?_
    by_cases first : removed = .text key
    case pos => exact .inl (if_pos ⟨rfl, first⟩)
    case neg =>
      have same : Call.leaves logger key value (.removeContext logger removed) = value := if_neg fun ⟨_, hk⟩ => first hk
      rw [same]
      exact gone.imp_right fun held => (List.mem_cons.mp held).resolve_left (Ne.symm first)

end Replay

section Spans

variable {span : Span} {logger : Logger} {key : String} {value : Option String}

theorem Span.entering_plain (span : Span) : ∀ c ∈ (span.tracked?.map (Call.enter span.logger .component)).toList ++
    [.enter span.logger .profile span.name], c.isContext = false := by
  cases span.tracked? <;> simp [Call.isContext]

theorem Span.leaving_plain (span : Span) (sort : Option String) : ∀ c ∈ Call.leave span.logger .profile span.name sort ::
    (span.tracked?.map (Call.leave span.logger .component · sort)).toList, c.isContext = false := by
  cases span.tracked? <;> simp [Call.isContext]

theorem Span.foldl_entering_of_not (keys : span.contextKeys = span.metadata.keys) (other : ¬span.Holds logger key) :
    span.entering.foldl (Call.leaves logger key) value = value := by
  rw [entering, List.foldl_append, foldl_plain span.entering_plain]
  exact foldl_addContext_of_not fun ⟨same, held⟩ => other ⟨same, keys ▸ held⟩

theorem Span.foldl_entering_of_holds (keys : span.contextKeys = span.metadata.keys)
    (held : .text key ∈ span.contextKeys) : ∃ text, (.text key, text) ∈ span.metadata.entries ∧
      span.entering.foldl (Call.leaves span.logger key) value = some text := by
  rw [entering, List.foldl_append, foldl_plain span.entering_plain]
  rw [keys] at held
  exact foldl_addContext_of_mem held

theorem Span.sets_entering (keys : span.contextKeys = span.metadata.keys) :
    Sets span.entering logger key ↔ span.Holds logger key := by
  have plain : ¬Sets _ logger key := not_sets_plain span.entering_plain
  rw [entering, sets_append, or_iff_left plain, Sets, Holds, keys]
  constructor
  case mp =>
    rintro ⟨text, hm⟩
    obtain ⟨entry, he, hc⟩ := List.mem_map.mp hm
    obtain ⟨owner, hk, -⟩ := Call.addContext.inj hc
    exact ⟨owner, hk ▸ List.mem_map_of_mem he⟩
  case mpr =>
    rintro ⟨rfl, hm⟩
    obtain ⟨⟨_, text⟩, he, rfl⟩ := List.mem_map.mp hm
    exact ⟨text, List.mem_map_of_mem he⟩

theorem Span.foldl_leaving_of_not {sort : Option String} (other : ¬span.Holds logger key) :
    (span.leaving sort).foldl (Call.leaves logger key) value = value := by
  rw [leaving, List.foldl_append, foldl_plain (span.leaving_plain sort)]
  exact foldl_removeContext_of_not other

theorem Span.foldl_leaving_of_holds {sort : Option String} (holds : span.Holds logger key) :
    (span.leaving sort).foldl (Call.leaves logger key) value = none := by
  obtain ⟨rfl, held⟩ := holds
  rw [leaving, List.foldl_append, foldl_plain (span.leaving_plain sort)]
  exact foldl_removeContext_of_mem (.inr held)

theorem Span.not_sets_leaving {sort : Option String} : ¬Sets (span.leaving sort) logger key := by
  rw [leaving, sets_append]
  rintro (⟨text, hm⟩ | sets)
  case inl =>
    obtain ⟨other, _, hc⟩ := List.mem_map.mp hm
    cases hc
  case inr => exact not_sets_plain (span.leaving_plain sort) sets

theorem plain_of_prepares {calls : List Call} (prepares : ∀ c ∈ calls, c.prepares) : ∀ c ∈ calls, c.isContext = false := by
  intro c hc
  have h := prepares c hc
  cases c <;> first | rfl | cases h

theorem Call.IsLine.not_context {message : String} {c : Call} (line : c.IsLine logger message) : c.isContext = false := by
  cases line <;> rfl

end Spans

inductive Aside : Telemetry → Telemetry → Prop
  | environment {t : Telemetry} (env : Environment) : Aside t { t with environment := env }
  | configure {t : Telemetry} (given : Option (List Setting)) (preset : Option String) :
      Aside t (configure given preset t).2
  | getLogger {t : Telemetry} (name : Option String) : Aside t (getLogger name t).2
  | record {t : Telemetry} (name : String) (level : Value) (data : OrderedMap Scalar Value) (logger : Option String) :
      Aside t (record name level data logger t).2
  | fail {t : Telemetry} (span : Span) (reason : Value) : Aside t (span.fail reason t).2

theorem Aside.exists_plain {t t' : Telemetry} (aside : Aside t t') :
    ∃ made, t'.calls = t.calls ++ made ∧ ∀ c ∈ made, c.isContext = false := by
  cases aside with
  | environment env => exact ⟨[], (List.append_nil _).symm, nofun⟩
  | configure given preset =>
    obtain ⟨made, after, prepares⟩ := preparing_configure given preset t
    exact ⟨made, after, plain_of_prepares prepares⟩
  | getLogger name =>
    obtain ⟨made, after, prepares⟩ := preparing_getLogger name t
    exact ⟨made, after, plain_of_prepares prepares⟩
  | record name level data logger =>
    obtain ⟨made, after, making, owner, lines, rfl, prepares, lined⟩ := logs_record name level data logger t
    refine ⟨_, after, fun c hc => ?_⟩
    exact (List.mem_append.mp hc).elim (plain_of_prepares prepares c) fun hc => (lined.isLine c hc).not_context
  | fail span reason =>
    obtain ⟨made, after, notes⟩ := span.logs_fail reason t
    exact ⟨made, after, fun c hc => (notes.isLine c hc).not_context⟩

structure Opening where
  before : List Call
  span   : Span

-- Telemetry in use, inside spans that are open, innermost first. What is done in a span is over when the span is left,
-- and a span may be left with any failure and with any data added to it. A span that is refused may have set some
-- context by then, which stays: the calls that were made for such spans are kept apart.
inductive Inside : Telemetry → List Opening → List Call → Prop
  | outside (t : Telemetry) : Inside t [] []
  | aside {t t' : Telemetry} {opened : List Opening} {astray : List Call} (inside : Inside t opened astray)
      (aside : Aside t t') : Inside t' opened astray
  | refused {t t' : Telemetry} {opened : List Opening} {astray made : List Call} {wanted : SpanRequest} {f : Failure}
      (inside : Inside t opened astray) (refused : openSpan wanted t = (.error f, t')) (after : t'.calls = t.calls ++ made) :
      Inside t' opened (astray ++ made)
  | enter {t t' : Telemetry} {opened : List Opening} {astray before : List Call} {wanted : SpanRequest} {span : Span}
      (inside : Inside t opened astray) (opens : openSpan wanted t = (.ok span, t'))
      (made : t'.calls = before ++ span.entering) : Inside t' (⟨before, span⟩ :: opened) astray
  | leave {t : Telemetry} {opening : Opening} {opened : List Opening} {astray : List Call} {closing : Span}
      (inside : Inside t (opening :: opened) astray) (same : opening.span.Annotated closing) (failure : Option Failure) :
      Inside (closeSpan closing failure t).2 opened astray

-- What is known of the context of a span that is open: its keys that no span within it holds have its values, unless they
-- have been set since, and then they have none. Nothing is said of keys that have gone astray.
structure Kept (calls : List Call) (inner : List Opening) (opening : Opening) (since astray : List Call) : Prop where
  after : calls = opening.before ++ opening.span.entering ++ since
  set   : ∀ within ∈ inner, ∀ logger key, within.span.Holds logger key → Sets since logger key
  left  : ∀ key, .text key ∈ opening.span.contextKeys → ¬Sets astray opening.span.logger key →
    (∀ within ∈ inner, ¬within.span.Holds opening.span.logger key) →
    (¬Sets since opening.span.logger key → ∃ text, (.text key, text) ∈ opening.span.metadata.entries ∧
      context calls opening.span.logger key = some text) ∧
    (Sets since opening.span.logger key → context calls opening.span.logger key = none)

section Kept

variable {calls since astray : List Call} {inner : List Opening} {opening : Opening}

theorem context_append (calls more : List Call) (logger : Logger) (key : String) :
    context (calls ++ more) logger key = more.foldl (Call.leaves logger key) (context calls logger key) :=
  List.foldl_append

theorem Kept.unmoved {more : List Call} {key : String} (kept : Kept calls inner opening since astray)
    (held : .text key ∈ opening.span.contextKeys) (clear : ¬Sets astray opening.span.logger key)
    (free : ∀ o ∈ inner, ¬o.span.Holds opening.span.logger key) (unset : ¬Sets more opening.span.logger key)
    (same : ∀ value, more.foldl (Call.leaves opening.span.logger key) value = value) :
    (¬Sets (since ++ more) opening.span.logger key → ∃ text, (.text key, text) ∈ opening.span.metadata.entries ∧
      context (calls ++ more) opening.span.logger key = some text) ∧
    (Sets (since ++ more) opening.span.logger key → context (calls ++ more) opening.span.logger key = none) := by
  rw [sets_append, or_iff_left unset, context_append, same]
  exact kept.left key held clear free

theorem Kept.plain {made : List Call} (kept : Kept calls inner opening since astray)
    (plain : ∀ c ∈ made, c.isContext = false) :
    Kept (calls ++ made) inner opening (since ++ made) astray where
  after := by rw [kept.after, List.append_assoc]
  set := fun within hm logger key holds => sets_append.mpr (.inl (kept.set within hm logger key holds))
  left := fun key held clear free => kept.unmoved held clear free (not_sets_plain plain) fun _ => foldl_plain plain

theorem Kept.strayed {made : List Call} (kept : Kept calls inner opening since astray)
    (stays : ∀ owner other, .removeContext owner other ∉ made) :
    Kept (calls ++ made) inner opening (since ++ made) (astray ++ made) where
  after := by rw [kept.after, List.append_assoc]
  set := fun within hm logger key holds => sets_append.mpr (.inl (kept.set within hm logger key holds))
  left := fun key held clear free => by
    have ⟨clear, unset⟩ := not_or.mp (sets_append.not.mp clear)
    exact kept.unmoved held clear free unset fun _ => foldl_unset stays unset

theorem Kept.entered {within : Opening} (kept : Kept calls inner opening since astray)
    (keys : within.span.contextKeys = within.span.metadata.keys) :
    Kept (calls ++ within.span.entering) (within :: inner) opening (since ++ within.span.entering) astray where
  after := by rw [kept.after, List.append_assoc]
  set := fun other hm logger key holds => by
    obtain rfl | hm := List.mem_cons.mp hm
    case inl => exact sets_append.mpr (.inr ((Span.sets_entering keys).mpr holds))
    case inr => exact sets_append.mpr (.inl (kept.set other hm logger key holds))
  left := fun key held clear free => by
    have ⟨outside, others⟩ := List.forall_mem_cons.mp free
    exact kept.unmoved held clear others (fun sets => outside ((Span.sets_entering keys).mp sets)) fun _ =>
      Span.foldl_entering_of_not keys outside

theorem Kept.left_within {within : Opening} {sort : Option String}
    (kept : Kept calls (within :: inner) opening since astray) :
    Kept (calls ++ within.span.leaving sort) inner opening (since ++ within.span.leaving sort) astray where
  after := by rw [kept.after, List.append_assoc]
  set := fun other hm logger key holds =>
    sets_append.mpr (.inl (kept.set other (List.mem_cons_of_mem _ hm) logger key holds))
  left := fun key held clear free => by
    by_cases holds : within.span.Holds opening.span.logger key
    case pos =>
      have set : Sets since opening.span.logger key := kept.set within List.mem_cons_self _ _ holds
      rw [context_append, Span.foldl_leaving_of_holds holds]
      exact ⟨fun unset => absurd (sets_append.mpr (.inl set)) unset, fun _ => rfl⟩
    case neg =>
      exact kept.unmoved held clear (List.forall_mem_cons.mpr ⟨holds, free⟩) Span.not_sets_leaving fun _ =>
        Span.foldl_leaving_of_not holds

theorem kept_opening (keys : opening.span.contextKeys = opening.span.metadata.keys) :
    Kept (opening.before ++ opening.span.entering) [] opening [] astray where
  after := (List.append_nil _).symm
  set := nofun
  left := fun key held _ _ => by
    rw [context_append]
    exact ⟨fun _ => Span.foldl_entering_of_holds keys held, fun ⟨_, set⟩ => nomatch set⟩

end Kept

theorem Opens.stays {wanted : SpanRequest} {f : Failure} {made : List Call} (opens : Opens wanted (.error f) made)
    (logger : Logger) (key : Scalar) : .removeContext logger key ∉ made := by
  intro hm
  cases opens with
  | refused prepares => cases prepares _ hm
  | unshown prepares =>
    obtain hm | hm := List.mem_append.mp hm
    · cases prepares _ hm
    · obtain ⟨_, _, hc⟩ := List.mem_map.mp hm
      cases hc

-- Wherever telemetry is in use, the context of every open span is known.
theorem Inside.kept {t : Telemetry} {opened : List Opening} {astray : List Call} (inside : Inside t opened astray)
    {inner outer : List Opening} {opening : Opening} (split : opened = inner ++ opening :: outer) :
    ∃ since, Kept t.calls inner opening since astray := by
  induction inside generalizing inner with
  | outside t => simp at split
  | aside _ aside ih =>
    obtain ⟨since, kept⟩ := ih split
    obtain ⟨made, after, plain⟩ := aside.exists_plain
    exact ⟨_, after ▸ kept.plain plain⟩
  | @refused t t' _ _ made wanted f _ refused after ih =>
    obtain ⟨since, kept⟩ := ih split
    obtain ⟨calls, same, opens⟩ := logs_openSpan wanted t
    rw [refused] at same opens
    -- Of a span that is refused, the keys that it has set count as astray.
    obtain rfl : made = calls := List.append_cancel_left (after.symm.trans same)
    exact ⟨_, after ▸ kept.strayed opens.stays⟩
  | @enter t t' _ astray before wanted span _ opens made ih =>
    obtain ⟨calls, after, how⟩ := logs_openSpan wanted t
    rw [opens] at after how
    cases how with
    | @opened making _ prepares _ _ wantedKeys shows =>
      have keys : span.contextKeys = span.metadata.keys := wantedKeys.trans shows.keys.symm
      obtain rfl : before = t.calls ++ making :=
        List.append_cancel_right (made.symm.trans (after.trans (List.append_assoc _ _ _).symm))
      rw [made]
      cases inner with
      | nil =>
        cases split
        have kept : Kept _ [] ⟨t.calls ++ making, span⟩ [] astray := kept_opening keys
        exact ⟨[], kept⟩
      | cons within inner =>
        cases split
        obtain ⟨since, kept⟩ := ih rfl
        have kept : Kept _ (⟨t.calls ++ making, span⟩ :: inner) opening _ _ :=
          (kept.plain (plain_of_prepares prepares)).entered keys
        exact ⟨_, kept⟩
  | @leave t top _ _ closing _ same failure ih =>
    -- The span that is left was open within this one until now.
    have split : top :: _ = (top :: inner) ++ opening :: outer := congrArg (top :: ·) split
    obtain ⟨since, kept⟩ := ih split
    obtain ⟨made, after, closes⟩ := logs_closeSpan closing failure t
    obtain ⟨noted, sort, rfl, lines⟩ := closes.exists_leaving
    rw [same.leaving, ← List.append_assoc] at after
    exact ⟨_, after ▸ (kept.plain fun c hc => (lines c hc).not_context).left_within⟩

-- Inside spans, a key of an open span has the value of the innermost open span of the logger that holds it, as long as
-- no span that has been left since had the key as well. From then on the key has no value. All this where the key has
-- not been set for a span that was then refused.
theorem context_inside {t : Telemetry} {opened inner outer : List Opening} {astray : List Call}
    {opening : Opening} {key : String}
    (inside : Inside t opened astray) (split : opened = inner ++ opening :: outer)
    (held : .text key ∈ opening.span.contextKeys) (clear : ¬Sets astray opening.span.logger key)
    (innermost : ∀ within ∈ inner, within.span.logger = opening.span.logger → .text key ∉ within.span.contextKeys) :
    ∃ since, t.calls = opening.before ++ opening.span.entering ++ since ∧
      (¬Sets since opening.span.logger key → ∃ text, (.text key, text) ∈ opening.span.metadata.entries ∧
        context t.calls opening.span.logger key = some text) ∧
      (Sets since opening.span.logger key → context t.calls opening.span.logger key = none) := by
  obtain ⟨since, kept⟩ := inside.kept split
  have free : ∀ within ∈ inner, ¬within.span.Holds opening.span.logger key :=
    fun within hm ⟨same, holds⟩ => innermost within hm same holds
  exact ⟨since, kept.after, kept.left key held clear free⟩

def freshLogger : Logger := ⟨"graph_keys", [.minLevel "INFO", .consoleOutput true, .coloredOutput true, .profiling true], 0⟩

def outer : Span :=
  ⟨freshLogger, "outer", none, [.text "state", .text "edge"], ⟨[(.text "state", "idle"), (.text "edge", "a")]⟩⟩

def inner : Span := ⟨freshLogger, "inner", none, [.text "edge"], ⟨[(.text "edge", "b")]⟩⟩

def Span.wanted (span : Span) : SpanRequest :=
  { name := span.name, component := span.component, metadata := span.metadata.mapValues Value.text }

def insideOuter : Telemetry := (openSpan outer.wanted {}).2

def insideInner : Telemetry := (openSpan inner.wanted insideOuter).2

def innerLeft : Telemetry := (closeSpan inner none insideInner).2

def outerOpening : Opening := ⟨insideOuter.calls.take 5, outer⟩

def innerOpening : Opening := ⟨insideOuter.calls, inner⟩

theorem inside_innerLeft : Inside innerLeft [outerOpening] [] := by
  have outerOpens : openSpan outer.wanted {} = (.ok outer, insideOuter) := rfl
  have innerOpens : openSpan inner.wanted insideOuter = (.ok inner, insideInner) := rfl
  have inOuter : Inside insideOuter [outerOpening] [] := .enter (.outside {}) outerOpens rfl
  have inInner : Inside insideInner [innerOpening, outerOpening] [] := .enter inOuter innerOpens rfl
  exact .leave inInner (.refl inner) none

theorem context_inside_kept : Inside innerLeft [outerOpening] [] ∧
    context innerLeft.calls outer.logger "state" = some "idle" ∧
    ∃ since, innerLeft.calls = outerOpening.before ++ outer.entering ++ since ∧
      (¬Sets since outer.logger "state" → ∃ text, (.text "state", text) ∈ outer.metadata.entries ∧
        context innerLeft.calls outer.logger "state" = some text) ∧
      (Sets since outer.logger "state" → context innerLeft.calls outer.logger "state" = none) :=
  ⟨inside_innerLeft, rfl, context_inside inside_innerLeft (List.nil_append _).symm (.head _) (not_sets_plain nofun) nofun⟩

-- A key that two spans have is gone when the inner one has been left, though the outer one is still open.
theorem context_lost : Inside innerLeft [outerOpening] [] ∧ .text "edge" ∈ outer.contextKeys ∧
    context insideOuter.calls outer.logger "edge" = some "a" ∧ context insideInner.calls outer.logger "edge" = some "b" ∧
      context innerLeft.calls outer.logger "edge" = none :=
  ⟨inside_innerLeft, .tail _ (.head _), rfl, rfl, rfl⟩

end Keychord.Telemetry
