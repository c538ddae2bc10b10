import Keychord.Registry
import Keychord.Proofs.Bus.Emission
import Keychord.Proofs.Crowd
import Keychord.Proofs.Enclosure

namespace Keychord.Registry

open Relation (ReflTransGen)

variable {η Job α β : Type}

def clerk : Servant (surroundings η Job) (Registry η) Telemetry
  | .telemetry op => some ((Telemetry.perform op).onPart Prod.snd fun t u => (u.1, t))
  | _ => none

inductive Call (η : Type)
  | register (info : CommandInfo) (handler : Option η)
  | unregister (command : String)
  | execute (command : String) (arguments : List (Scalar × Value))

def Call.step : Call η → Step η Job Unit
  | .register info handler => Registry.register info handler
  | .unregister command => Registry.unregister command
  | .execute command arguments => Registry.execute command arguments

def Call.operate (c : Call η) : Program (surroundings η Job) (Registry η × Telemetry) Unit := c.step.enclose clerk

structure Ahead (u u' : Registry η × Telemetry) : Prop where
  services  : u'.1.services = u.1.services
  telemetry : u.2.Advances u'.2

-- Surroundings in which handlers and work may fail but are not cancelled, events are taken by all who hear of them unless
-- telemetry is at fault, and telemetry may be used by anyone.
def anyone : Milieu (surroundings η Job) (Registry η × Telemetry) where
  answers
    | u, .publish _, reply => reply = .ok () ∨ ∃ f, u.2.fault? = some f ∧ reply = .error f
    | _, .invoke .., reply | _, .await _, reply => ∀ f, reply = .error f → ¬f.isCancellation
    | _, .telemetry _, _ => True
  drifts u u' := u'.1 = u.1 ∧ u.2.Use u'.2

theorem Ahead.refl (u : Registry η × Telemetry) : Ahead u u := ⟨rfl, .refl u.2⟩

theorem Ahead.trans (u u' u'' : Registry η × Telemetry) (a : Ahead u u') (a' : Ahead u' u'') : Ahead u u'' :=
  ⟨a'.services.trans a.services, .trans _ _ _ a.telemetry a'.telemetry⟩

theorem Ahead.inactive {u u' : Registry η × Telemetry} (ahead : Ahead u u') {f : Failure} (fault : u'.2.fault? = some f) :
    u.2.active = none := by
  cases ha : u.2.active with
  | none => rfl
  | some settings =>
    have active : u'.2.active.isSome := ahead.telemetry.active (by simp [ha])
    have able : u'.2.fault? = none := Telemetry.able_iff_fault?.mp (.inl active)
    rw [able] at fault
    cases fault

theorem ahead_of_drifts (u u' : Registry η × Telemetry) (drifts : (anyone : Milieu (surroundings η Job) _).drifts u u') :
    Ahead u u' :=
  ⟨congrArg services drifts.left, drifts.right.advances⟩

abbrev Exchanges (η Job : Type) := List (Exchange (surroundings η Job))

def Comes (program : Step η Job α) (Q : Except Failure α → Registry η × Telemetry → Exchanges η Job → Prop)
    (u : Registry η × Telemetry) (done : Exchanges η Job) : Prop :=
  (program.enclose clerk u).Yields anyone Ahead Q u done

section Rules

variable {u : Registry η × Telemetry} {done : Exchanges η Job}
  {Q : Except Failure α → Registry η × Telemetry → Exchanges η Job → Prop}
  {Q' : Except Failure β → Registry η × Telemetry → Exchanges η Job → Prop}

theorem comes_of_finished {program : Step η Job α} {outcome : Except Failure α} {registry : Registry η}
    (ends : program u.1 = .finished outcome registry) (services : registry.services = u.1.services)
    (hq : Q outcome (registry, u.2) done) : Comes program Q u done := by
  rw [Comes, Program.enclose, ends]
  exact ⟨⟨services, .refl u.2⟩, hq⟩

theorem Comes.mono {program : Step η Job α} {Q₁ : Except Failure α → Registry η × Telemetry → Exchanges η Job → Prop}
    (comes : Comes program Q₁ u done) (hq : ∀ outcome u done, Q₁ outcome u done → Q outcome u done) :
    Comes program Q u done :=
  Run.Yields.mono comes hq

def Before (next : α → Step η Job β) (Q' : Except Failure β → Registry η × Telemetry → Exchanges η Job → Prop) :
    Except Failure α → Registry η × Telemetry → Exchanges η Job → Prop
  | .ok a => Comes (next a) Q'
  | .error f => Q' (.error f)

theorem comes_bind {first : Step η Job α} {next : α → Step η Job β} (comes : Comes first (Before next Q') u done) :
    Comes (first >>= next) Q' u done := by
  have whole : (first >>= next).enclose clerk u = (first.enclose clerk u).andThen _ := Run.enclose_andThen clerk _ _ _
  rw [Comes, whole]
  refine Run.Yields.andThen Ahead.trans comes fun outcome u done goesOn => ?_
  cases outcome with
  | ok a => exact goesOn
  | error f => exact ⟨.refl u, goesOn⟩

def Within (handler : Failure → Step η Job α) (Q : Except Failure α → Registry η × Telemetry → Exchanges η Job → Prop) :
    Except Failure α → Registry η × Telemetry → Exchanges η Job → Prop
  | .ok a => Q (.ok a)
  | .error f => Comes (handler f) Q

theorem comes_tryCatch {block : Step η Job α} {handler : Failure → Step η Job α}
    (comes : Comes block (Within handler Q) u done) : Comes (tryCatchThe Failure block handler) Q u done := by
  have whole : (tryCatchThe Failure block handler).enclose clerk u = (block.enclose clerk u).andThen _ :=
    Run.enclose_andThen clerk _ _ _
  rw [Comes, whole]
  refine Run.Yields.andThen Ahead.trans comes fun outcome u done goesOn => ?_
  cases outcome with
  | ok a => exact ⟨.refl u, goesOn⟩
  | error f => exact goesOn

theorem comes_attempt_bind {program : Step η Job α} {next : Except Failure α → Step η Job β}
    (comes : Comes program (fun outcome => Comes (next outcome) Q') u done) :
    Comes (program.attempt >>= next) Q' u done := by
  have flat : (program.attempt >>= next) u.1 = (program u.1).andThen next := Run.andThen_andThen _ _ _
  rw [Comes, Program.enclose, flat, Run.enclose_andThen]
  exact Run.Yields.andThen Ahead.trans comes fun _ _ _ goesOn => goesOn

theorem comes_ite {condition : Prop} [Decidable condition] {first second : Step η Job α} (yes : Comes first Q u done)
    (no : Comes second Q u done) : Comes (if condition then first else second) Q u done := by
  by_cases h : condition
  case pos => rwa [if_pos h]
  case neg => rwa [if_neg h]

theorem enclose_askTelemetry (op : Telemetry.Op) (u : Registry η × Telemetry) :
    (askTelemetry op : Step η Job op.Answer).enclose clerk u =
      .finished (Telemetry.perform op u.2).1 (u.1, (Telemetry.perform op u.2).2) := rfl

theorem comes_ask {request : Request η Job} (left : clerk request = none)
    {Q : Except Failure ((surroundings η Job).Answer request) → Registry η × Telemetry → Exchanges η Job → Prop}
    (goesOn : ∀ reply u', Ahead u u' → anyone.answers u' request reply → Q reply u' (done ++ [⟨request, reply⟩])) :
    Comes (ask request) Q u done := by
  have waits : (ask request).enclose clerk u = .waiting request u fun reply u => .finished reply u := by
    cases request <;> first | rfl | cases left
  rw [Comes, waits]
  exact ⟨.refl u, fun reply u' moves given => ⟨.refl u', goesOn reply u' moves given⟩⟩

theorem comes_telemetry {op : Telemetry.Op}
    {Q : Except Failure op.Answer → Registry η × Telemetry → Exchanges η Job → Prop}
    {outcome : Except Failure op.Answer} {t : Telemetry} (performs : Telemetry.perform op u.2 = (outcome, t))
    (hq : Q outcome (u.1, t) done) : Comes (askTelemetry op) Q u done := by
  rw [Comes, enclose_askTelemetry, performs]
  exact ⟨⟨rfl, (Telemetry.perform_moves op).of_eq performs⟩, hq⟩

theorem comes_publish {event : Event} {Q : Except Failure Unit → Registry η × Telemetry → Exchanges η Job → Prop}
    (taken : ∀ u', Ahead u u' → Q (.ok ()) u' (done ++ [⟨.publish event, .ok ()⟩]))
    (refused : ∀ u' f, Ahead u u' → u'.2.fault? = some f → Q (.error f) u' (done ++ [⟨.publish event, .error f⟩])) :
    Comes (ask (.publish event) : Step η Job Unit) Q u done := by
  refine comes_ask rfl fun reply u' ahead given => ?_
  cases given with
  | inl ok => cases ok; exact taken u' ahead
  | inr failed =>
    have ⟨f, fault, he⟩ := failed
    cases he
    exact refused u' f ahead fault

theorem comes_publish_of_active (active : u.2.active.isSome) {event : Event}
    {Q : Except Failure Unit → Registry η × Telemetry → Exchanges η Job → Prop}
    (taken : ∀ u', Ahead u u' → u'.2.active.isSome → Q (.ok ()) u' (done ++ [⟨.publish event, .ok ()⟩])) :
    Comes (ask (.publish event) : Step η Job Unit) Q u done := by
  refine comes_publish (fun u' ahead => taken u' ahead (ahead.telemetry.active active)) fun u' f ahead fault => ?_
  rw [ahead.inactive fault] at active
  cases active

end Rules

section Specifications

variable {u : Registry η × Telemetry} {done : Exchanges η Job}

inductive Handled (handler : η) (context : CommandContext) : Exchanges η Job → Except Failure Unit → Prop
  | atOnce : Handled handler context [⟨.invoke handler context, .ok none⟩] (.ok ())
  | failed (f : Failure) : Handled handler context [⟨.invoke handler context, .error f⟩] (.error f)
  | awaited (job : Job) (outcome : Except Failure Unit) :
      Handled handler context [⟨.invoke handler context, .ok (some job)⟩, ⟨.await job, outcome⟩] outcome

def closing (command : String) : Except Failure Unit → Event
  | .ok _ => .succeeded command
  | .error f => .failed command f

def toldInside (command : String) : Except Failure Unit → Exchanges η Job
  | .ok _ => []
  | .error f => [⟨.publish (.failed command f), .ok ()⟩]

theorem comes_handled {handler : η} {context : CommandContext} (active : u.2.active.isSome) :
    Comes (do
      match ← ask (.invoke handler context) with
      | none => pure ()
      | some job => (ask (.await job) : Step η Job Unit))
    (fun outcome u' done' => u'.2.active.isSome ∧ (∀ f, outcome = .error f → ¬f.isCancellation) ∧
      ∃ work, Handled handler context work outcome ∧ done' = done ++ work) u done := by
  refine comes_bind (comes_ask rfl fun reply u' ahead given => ?_)
  have active := ahead.telemetry.active active
  match reply with
  | .error f => exact ⟨active, fun _ he => given _ (by cases he; rfl), _, .failed f, rfl⟩
  | .ok none => exact comes_of_finished rfl rfl ⟨active, nofun, _, .atOnce, rfl⟩
  | .ok (some job) =>
    show Comes (ask (.await job) : Step η Job Unit) _ u' _
    refine comes_ask rfl fun reply u'' ahead given => ⟨ahead.telemetry.active active, given, _, .awaited job reply, ?_⟩
    rw [List.append_assoc]
    rfl

theorem comes_invoke {handler : η} {context : CommandContext} (active : u.2.active.isSome) :
    Comes (invoke handler context) (fun outcome u' done' => u'.2.active.isSome ∧
      ∃ work, Handled handler context work outcome ∧ done' = done ++ work ++ toldInside context.command outcome) u done := by
  refine comes_attempt_bind ((comes_handled active).mono fun outcome u' done' hq => ?_)
  have ⟨active, given, work, handled, he⟩ := hq
  cases outcome with
  | ok => exact comes_of_finished rfl rfl ⟨active, work, handled, by simp [he, toldInside]⟩
  | error f =>
    have plain : !f.isCancellation := by simpa using given f rfl
    show Comes (if !f.isCancellation then (do ask (.publish (.failed context.command f)); throw f) else throw f) _ u' done'
    rw [if_pos plain]
    refine comes_bind (comes_publish_of_active active fun u'' ahead active => ?_)
    exact comes_of_finished rfl rfl ⟨active, work, handled, by simp [he, toldInside]⟩

theorem comes_closeSpan {span : Telemetry.Span} (legible : ∀ key ∈ span.metadata.entries.map Prod.fst, key.text?.isSome)
    (failure : Option Failure) (active : u.2.active.isSome) :
    Comes (askTelemetry (.closeSpan span failure) : Step η Job Unit)
      (fun closed u' done' => closed = .ok () ∧ u'.2.active.isSome ∧ done' = done) u done := by
  have ⟨t, closed, advances⟩ := Telemetry.closeSpan_legible legible failure u.2
  exact comes_telemetry closed ⟨rfl, advances.active active, rfl⟩

-- A span is opened for a block unless telemetry is at fault, and then nothing else happens. It closes without anything
-- else.
theorem comes_around {wanted : Telemetry.SpanRequest} {block : Step η Job Unit}
    {Q : Except Failure Unit → Exchanges η Job → Prop}
    (coherent : u.2.Coherent) (texts : ∀ e ∈ wanted.metadata.entries, e.2.text?.isSome)
    (keys : ∀ key ∈ wanted.metadata.entries.map Prod.fst, key.text?.isSome)
    (comes : ∀ u', Ahead u u' → u'.2.active.isSome →
      Comes block (fun outcome u'' done' => u''.2.active.isSome ∧ Q outcome done') u' done) :
    Comes (Telemetry.around askTelemetry wanted block) (fun outcome u' done' => u'.2.active.isSome ∧ Q outcome done' ∨
      ∃ f, u.2.fault? = some f ∧ u'.2.fault? = some f ∧ outcome = .error f ∧ done' = done) u done := by
  cases fault : u.2.fault? with
  | some f =>
    have ⟨t, refuses, same⟩ := Telemetry.openSpan_of_fault coherent fault wanted
    refine comes_bind (comes_telemetry refuses ?_)
    exact .inr ⟨f, rfl, same.fault.symm.trans fault, rfl, rfl⟩
  | none =>
    have ⟨span, t, opens, advances⟩ := Telemetry.openSpan_ok (Telemetry.able_iff_fault?.mpr fault) texts
    have active : t.active.isSome := Telemetry.active_of_openSpan coherent opens
    have legible : ∀ key ∈ span.metadata.entries.map Prod.fst, key.text?.isSome := Telemetry.openSpan_keys opens ▸ keys
    refine comes_bind (comes_telemetry opens ?_)
    refine comes_bind (comes_tryCatch ((comes (u.1, t) ⟨rfl, advances⟩ active).mono fun outcome u' done' hq => ?_))
    have ⟨active, hq⟩ := hq
    cases outcome with
    | ok =>
      refine comes_bind ((comes_closeSpan legible none active).mono fun closed u'' done'' ends => ?_)
      have ⟨he, active, hd⟩ := ends
      subst he hd
      exact comes_of_finished rfl rfl (.inl ⟨active, hq⟩)
    | error f =>
      refine comes_bind ((comes_closeSpan legible (some f) active).mono fun closed u'' done'' ends => ?_)
      have ⟨he, active, hd⟩ := ends
      subst he hd
      exact comes_of_finished rfl rfl (.inl ⟨active, hq⟩)

-- What an execution has exchanged with others when it is over. It may have been that of a command that is not known.
-- Otherwise the command was announced and, unless telemetry was at fault, carried out by its handler, and then it was
-- told what came of it.
inductive Bracketed (command : String) (arguments : List (Scalar × Value)) (u : Registry η × Telemetry) :
    Except Failure Unit → Registry η × Telemetry → Exchanges η Job → Prop
  | unknown {u' : Registry η × Telemetry} (unknown : u.1.commands.get? command = none) :
      Bracketed command arguments u (u.2.fault?.elim (.ok ()) .error) u' []
  | refused {u' : Registry η × Telemetry} {entry : Entry η} {f : Failure} {reply : Except Failure Unit}
      (known : u.1.commands.get? command = some entry) (inactive : u.2.active = none) (fault : u'.2.fault? = some f) :
      Bracketed command arguments u (.error f) u' [⟨.publish (.before command arguments), reply⟩]
  | carriedOut {u' : Registry η × Telemetry} {entry : Entry η} {work : Exchanges η Job} {outcome : Except Failure Unit}
      (known : u.1.commands.get? command = some entry)
      (handled : Handled entry.handler ⟨command, arguments, u.1.services⟩ work outcome) :
      Bracketed command arguments u outcome u' (⟨.publish (.before command arguments), .ok ()⟩ :: work ++
        [⟨.publish (closing command outcome), .ok ()⟩])

theorem Bracketed.length_le {command : String} {arguments : List (Scalar × Value)} {u' : Registry η × Telemetry}
    {outcome : Except Failure Unit} {exchanges : Exchanges η Job}
    (bracketed : Bracketed command arguments u outcome u' exchanges) : exchanges.length ≤ 4 := by
  cases bracketed with
  | unknown => simp
  | refused => simp
  | carriedOut _ handled => cases handled <;> simp

theorem comes_execute (command : String) (arguments : List (Scalar × Value)) (coherent : u.2.Coherent) :
    Comes (execute command arguments : Step η Job Unit) (Bracketed command arguments u) u [] := by
  refine comes_bind (comes_of_finished rfl rfl ?_)
  dsimp only [Before]
  cases known : u.1.commands.get? command with
  | none =>
    have texts : ∀ e ∈ [("command_id", Value.text command)], e.2.text?.isSome := by simp
    have level : Telemetry.fieldLevels.contains (Text.lower "warning") := by decide
    have ⟨t, records, _⟩ := Telemetry.record_outcome coherent level texts "command.not_found"
    exact comes_telemetry records (.unknown known)
  | some entry =>
    refine comes_bind (comes_publish (fun u' ahead => ?taken) fun u' f ahead fault =>
      .refused known (ahead.inactive fault) fault)
    refine comes_bind (comes_of_finished rfl rfl ?_)
    have coherent : u'.2.Coherent := ahead.telemetry.coherent coherent
    refine comes_bind ((comes_around coherent (by simp [executeSpan]) (by simp [executeSpan])
      fun u'' _ active => comes_invoke active).mono fun outcome u'' done' ends => ?_)
    cases ends with
    | inl carriedOut =>
      have ⟨active, work, handled, he⟩ := carriedOut
      rw [ahead.services] at handled
      subst he
      cases outcome with
      | ok =>
        refine comes_publish_of_active active fun _ _ _ => ?_
        simpa [toldInside, closing] using Bracketed.carriedOut known handled
      | error f => simpa [Before, toldInside, closing] using Bracketed.carriedOut known handled
    | inr refused =>
      have ⟨f, fault, fault', hf, he⟩ := refused
      subst hf he
      exact .refused known (ahead.inactive fault) fault'

def Somehow (_ : Except Failure α) (_ : Registry η × Telemetry) (_ : Exchanges η Job) : Prop := True

theorem somehow_bind {first : Step η Job α} {next : α → Step η Job β} (comes : Comes first Somehow u done)
    (goesOn : ∀ a u done, Comes (next a) Somehow u done) : Comes (first >>= next) Somehow u done := by
  refine comes_bind (comes.mono fun outcome u done _ => ?_)
  cases outcome with
  | ok a => exact goesOn a u done
  | error => trivial

theorem somehow_ask {request : Request η Job} (left : clerk request = none) : Comes (ask request) Somehow u done :=
  comes_ask left fun _ _ _ _ => trivial

theorem somehow_register (info : CommandInfo) (handler : Option η) :
    Comes (register info handler : Step η Job Unit) Somehow u done := by
  cases handler with
  | none => exact comes_of_finished rfl rfl trivial
  | some handler =>
    have adds : ∀ (u : Registry η × Telemetry) (done : Exchanges η Job), Comes (do
        modify fun registry : Registry η => { registry with commands := registry.commands.insert info.id ⟨info, handler⟩ }
        ask (.publish (.registered info.id)) : Step η Job Unit) Somehow u done :=
      fun u done => somehow_bind (comes_of_finished rfl rfl trivial) fun _ _ _ => somehow_ask rfl
    refine comes_bind (comes_of_finished rfl rfl (comes_ite ?known ?new))
    case known => exact somehow_bind (comes_telemetry rfl trivial) fun _ => adds
    case new => exact adds u done

theorem somehow_unregister (command : String) : Comes (unregister command : Step η Job Unit) Somehow u done := by
  refine comes_bind (comes_of_finished rfl rfl (comes_ite ?known ?unknown))
  case known => exact somehow_bind (comes_of_finished rfl rfl trivial) fun _ _ _ => somehow_ask rfl
  case unknown => exact comes_of_finished rfl rfl trivial

end Specifications

def Call.Ends : Call η → Registry η × Telemetry → Except Failure Unit → Registry η × Telemetry → Exchanges η Job → Prop
  | .execute command arguments, u => Bracketed command arguments u
  | _, _ => Somehow

theorem yields_operate (c : Call η) {u : Registry η × Telemetry} (coherent : u.2.Coherent) :
    Run.Yields (I := surroundings η Job) anyone Ahead (c.Ends u) (c.operate u) u [] := by
  cases c with
  | register info handler => exact somehow_register info handler
  | unregister command => exact somehow_unregister command
  | execute command arguments => exact comes_execute command arguments coherent

theorem answers_total (u : Registry η × Telemetry) (request : Request η Job) : ∃ reply, anyone.answers u request reply := by
  cases request with
  | telemetry => exact ⟨.error .cancelled, trivial⟩
  | publish => exact ⟨.ok (), .inl rfl⟩
  | invoke => exact ⟨.ok none, nofun⟩
  | await => exact ⟨.ok (), nofun⟩

-- An execution that is over was that of a command that was not known when it was made, or the command was announced,
-- the handler that it had at that moment was called, once, and in the end it was told what had come of it, which is
-- also what the execution returned; only if telemetry was at fault it broke off before the handler was called. One that
-- is not over yet will be after a few answers more, and whatever it is answered, it will have been such an execution.
theorem execution_bracketed {u : Registry η × Telemetry} (coherent : u.2.Coherent)
    {G : Crowd (surroundings η Job) (Registry η × Telemetry) (Call η) Unit}
    (reaches : Crowd.Reaches Call.operate anyone ⟨u, []⟩ G) {command : String} {arguments : List (Scalar × Value)}
    {start : Registry η × Telemetry} {exchanges : Exchanges η Job}
    {progress : Progress (surroundings η Job) (Registry η × Telemetry) Unit}
    (made : ⟨.execute command arguments, start, exchanges, progress⟩ ∈ G.tasks) :
    (∀ outcome u', progress = .ended outcome u' → Bracketed command arguments start outcome u' exchanges) ∧
    ∀ request resume, progress = .waiting request resume → exchanges.length < 4 ∧
      (∃ reply, anyone.answers G.state request reply) ∧
      ∀ reply, anyone.answers G.state request reply →
        ∃ outcome u' more, Bracketed command arguments start outcome u' (exchanges ++ ⟨request, reply⟩ :: more) := by
  have ⟨_, each⟩ := reaches.each (Q := Call.Ends) Ahead.refl Ahead.trans ahead_of_drifts fun c u' ahead =>
    yields_operate c (ahead.telemetry.coherent coherent)
  have holds := each _ made
  constructor
  case left =>
    intro outcome u' ended
    subst ended
    exact holds.of_ended
  case right =>
    intro request resume waits
    subst waits
    have goesOn : ∀ reply, anyone.answers G.state request reply → ∃ outcome u' more, Bracketed command arguments start
        outcome u' (exchanges ++ ⟨request, reply⟩ :: more) := fun reply given =>
      holds.exists_end Ahead.refl answers_total given
    have ⟨reply, given⟩ := answers_total G.state request
    have ⟨_, _, more, bracketed⟩ := goesOn reply given
    have short := bracketed.length_le
    simp only [List.length_append, List.length_cons] at short
    exact ⟨by omega, ⟨reply, given⟩, goesOn⟩

def calm : (request : Request η Nat) → Except Failure ((surroundings η Nat).Answer request)
  | .telemetry _ => .error .cancelled
  | .publish _ | .await _ => .ok ()
  | .invoke .. => .ok (some 0)

def stumbling : (request : Request η Nat) → Except Failure ((surroundings η Nat).Answer request)
  | .invoke .. => .error (.raised "RuntimeError" "boom")
  | request => calm request

theorem calm_given (u : Registry η × Telemetry) : ∀ request : Request η Nat, anyone.answers u request (calm request)
  | .telemetry _ => trivial
  | .publish _ => .inl rfl
  | .invoke .. | .await _ => nofun

theorem stumbling_given (u : Registry η × Telemetry) :
    ∀ request : Request η Nat, anyone.answers u request (stumbling request)
  | .telemetry _ => trivial
  | .publish _ => .inl rfl
  | .invoke .. => fun _ he => Except.error.inj he ▸ Bool.false_ne_true
  | .await _ => nofun

abbrev Company := Crowd (surroundings String Nat) (Registry String × Telemetry) (Call String) Unit

def replaced : Company :=
  let registered := (Crowd.enter Call.operate ⟨({}, {}), []⟩ (.register ⟨"a", "", "general"⟩ (some "first"))).answer calm 0
  let begun := ((registered.enter Call.operate (.execute "a" [])).answer calm 1).answer calm 1
  let renewed := (begun.enter Call.operate (.register ⟨"a", "", "general"⟩ (some "second"))).answer calm 2
  let removed := ((renewed.enter Call.operate (.execute "a" [])).enter Call.operate (.unregister "a")).answer calm 4
  ((((removed.answer calm 3).answer stumbling 3).answer calm 3).answer calm 1).answer calm 1

theorem reaches_replaced : Crowd.Reaches Call.operate anyone ⟨({}, {}), []⟩ replaced := by
  rw [replaced]
  refine .answer calm_given (.answer calm_given (.answer calm_given (.answer stumbling_given (.answer calm_given ?_ 3) 3) 3)
    1) 1
  refine .answer calm_given (.enter (.enter (.answer calm_given (.enter ?_ _) 2) _) _) 4
  exact .answer calm_given (.answer calm_given (.enter (.answer calm_given (.enter .refl _) 0) _) 1) 1

theorem execution_bracketed_replaced : Crowd.Reaches Call.operate anyone ⟨({}, {}), []⟩ replaced ∧
    ∃ start u' exchanges, (start.1.commands.get? "a").map Entry.handler = some "second" ∧
      ⟨.execute "a" [], start, exchanges, .ended (.error (.raised "RuntimeError" "boom")) u'⟩ ∈ replaced.tasks ∧
      Bracketed "a" [] start (.error (.raised "RuntimeError" "boom")) u' exchanges := by
  have ⟨start, u', exchanges, handler, made⟩ : ∃ start u' exchanges,
      (start.1.commands.get? "a").map Entry.handler = some "second" ∧
        ⟨.execute "a" [], start, exchanges, .ended (.error (.raised "RuntimeError" "boom")) u'⟩ ∈ replaced.tasks :=
    ⟨_, _, _, by decide +kernel, List.mem_of_getElem? (i := 3) rfl⟩
  have ⟨ends, _⟩ := execution_bracketed (.inr rfl) reaches_replaced made
  exact ⟨reaches_replaced, start, u', exchanges, handler, made, ends _ u' rfl⟩

def misconfigured : Telemetry := { environment := ⟨[("LOG_BUFFERED", "1"), ("LOG_BUFFER_SIZE", "many")]⟩ }

def brokenOff : Company :=
  ((((Crowd.enter Call.operate ⟨({}, misconfigured), []⟩ (.register ⟨"a", "", "general"⟩ (some "first"))).answer
    calm 0).enter Call.operate (.execute "a" [])).answer calm 1)

-- Where telemetry is at fault, the command is announced but its handler never called, and nothing more is told of it.
theorem announced_never_called : Crowd.Reaches Call.operate anyone ⟨({}, misconfigured), []⟩ brokenOff ∧
    ∃ start u' exchanges f, (start.1.commands.get? "a").map Entry.handler = some "first" ∧
      ⟨.execute "a" [], start, exchanges, .ended (.error f) u'⟩ ∈ brokenOff.tasks ∧
      f.kind = "ValueError" ∧ exchanges.length = 1 ∧
      ¬∃ work outcome, Handled "first" ⟨"a", [], []⟩ work outcome ∧ exchanges =
        ⟨.publish (.before "a" []), .ok ()⟩ :: work ++ [⟨.publish (closing "a" outcome), .ok ()⟩] := by
  have reaches : Crowd.Reaches Call.operate anyone ⟨({}, misconfigured), []⟩ brokenOff := by
    rw [brokenOff]
    exact .answer calm_given (.enter (.answer calm_given (.enter .refl _) 0) _) 1
  have ⟨start, u', exchanges, f, handler, made, kind, short⟩ : ∃ start u' exchanges f,
      (start.1.commands.get? "a").map Entry.handler = some "first" ∧
        ⟨.execute "a" [], start, exchanges, .ended (.error f) u'⟩ ∈ brokenOff.tasks ∧ f.kind = "ValueError" ∧
          exchanges.length = 1 :=
    ⟨_, _, _, _, by decide +kernel, List.mem_of_getElem? (i := 1) rfl, rfl, rfl⟩
  refine ⟨reaches, start, u', exchanges, f, handler, made, kind, short, fun ⟨work, outcome, _, he⟩ => ?_⟩
  rw [he] at short
  simp at short

end Keychord.Registry
