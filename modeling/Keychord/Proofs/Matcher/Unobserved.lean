import Keychord.Proofs.Bus.Emission
import Keychord.Proofs.Enclosure
import Keychord.Proofs.Matcher.FailedReload
import Keychord.Proofs.Matcher.Refinement
import Keychord.Proofs.Matcher.Tasks

namespace Keychord.Matcher

variable {Job κ κ' υ υ' : Type}

structure Stage (κ υ : Type) where
  bus : Option (Bus κ) := none
  own : υ

def publish (A : Bus.Audience κ υ) (event : Event) : Keychord.Action (Logged × Stage κ υ) Unit := fun (s, stage) =>
  match stage.bus with
  | none => (.ok (), s, stage)
  | some bus =>
    let (outcome, hall) := A.send event.name event.payload ⟨s.telemetry, bus, stage.own⟩
    (outcome, ⟨s.matcher, hall.telemetry⟩, ⟨some hall.bus, hall.own⟩)

def herald (Job : Type) (A : Bus.Audience κ υ) : Servant (surroundings Job) Logged (Stage κ υ)
  | .publish event => some (publish A event)
  | _ => none

def operateBefore (A : Bus.Audience κ υ) (call : Call) : Program (surroundings Job) (Logged × Stage κ υ) (Option Bool) :=
  (operate call).enclose (herald Job A)

abbrev Performing (Job κ υ : Type) := Machine (surroundings Job) (Logged × Stage κ υ) Call (Option Bool)

def opening (s : Logged) (stage : Stage κ υ) : Performing Job κ υ := ⟨(s, stage), [], []⟩

def SameMatcher (u : Logged × Stage κ υ) (u' : Logged × Stage κ' υ') : Prop :=
  u.1.matcher = u'.1.matcher ∧ Telemetry.BothActive u.1.telemetry u'.1.telemetry

theorem sameMatcher_iff {u : Logged × Stage κ υ} {u' : Logged × Stage κ' υ'} :
    SameMatcher u u' ↔ (likeness Job Telemetry.BothActive 0).state u.1 u'.1 :=
  and_congr_left fun _ => ⟨fun same => same ▸ .refl _, Like.eq⟩

theorem Request.Like.eq {request request' : Request Job} (like : request.Like 0 request') : request = request' := by
  cases like with
  | arm delay expiries => rw [expiries.eq]
  | same => rfl

theorem publish_ok (A : Bus.Audience κ υ) (event : Event) {u : Logged × Stage κ υ} (active : u.1.telemetry.active.isSome) :
    (publish A event u).1 = .ok () ∧ (publish A event u).2.1.matcher = u.1.matcher ∧
      (publish A event u).2.1.telemetry.active.isSome := by
  obtain ⟨s, bus | bus, own⟩ := u
  case none => exact ⟨rfl, rfl, active⟩
  case some =>
    obtain ⟨hall, sent, uses⟩ := A.send_ok event.name event.payload ⟨s.telemetry, bus, own⟩ active
    simp only [publish, sent]
    exact ⟨trivial, trivial, (Bus.Audience.advances_of_uses uses).active active⟩

theorem herald_alike (A : Bus.Audience κ υ) (A' : Bus.Audience κ' υ') (request : Request Job) :
    Servant.Alike (likeness Job Telemetry.BothActive 0).state (herald Job A request) (herald Job A' request) := by
  cases request with
  | publish event =>
    refine .served fun u u' ⟨matchers, active, active'⟩ => ?_
    obtain ⟨outcome, matcher, active⟩ := publish_ok A event active
    obtain ⟨outcome', matcher', active'⟩ := publish_ok A' event active'
    exact ⟨outcome.trans outcome'.symm, by rw [matcher, matcher']; exact matchers, active, active'⟩
  | _ => exact .left

theorem operateBefore_akin (A : Bus.Audience κ υ) (A' : Bus.Audience κ' υ') (call : Call) {u : Logged × Stage κ υ}
    {u' : Logged × Stage κ' υ'} (same : SameMatcher u u') :
    (operateBefore A call u : Run (surroundings Job) _ _).Akin SameMatcher (operateBefore A' call u') := by
  have related : @SameMatcher κ κ' υ υ' = fun u u' => (likeness Job Telemetry.BothActive 0).state u.1 u'.1 := by
    funext u u'
    exact propext sameMatcher_iff
  have alike : (@operate Job call u.1).Alike _ Eq (operate call u'.1) :=
    alike_operate Telemetry.bothActive_concord (.refl call) (sameMatcher_iff.mp same)
  rw [related]
  exact alike.enclose (fun _ _ => Request.Like.eq) (herald_alike A A') u.2 u'.2

theorem Made.active {config : Config} {s : Logged} (made : Made Job config s) : s.telemetry.active.isSome := by
  obtain ⟨keymap, -, matched⟩ := made.compiles
  exact matched.active

-- Whatever a matcher is given to do, it does the same before any two audiences: it asks for the same, returns the same,
-- and is the same matcher at every sight.
theorem audience_irrelevant {config : Config} {s : Logged} (made : Made Job config s) (A : Bus.Audience κ υ)
    (A' : Bus.Audience κ' υ') (stage : Stage κ υ) (stage' : Stage κ' υ')
    {cues : List (Cue (surroundings Job) (Logged × Stage κ υ) Call)}
    {cues' : List (Cue (surroundings Job) (Logged × Stage κ' υ') Call)}
    (same : List.Forall₂ (Cue.Akin SameMatcher) cues cues') :
    SameMatcher ((opening s stage).play (operateBefore A) cues).state
        ((opening s stage').play (operateBefore A') cues').state ∧
      List.Forall₂ (Sight.Akin SameMatcher) ((opening s stage).play (operateBefore A) cues).history
        ((opening s stage').play (operateBefore A') cues').history := by
  have start : (opening s stage : Performing Job κ υ).Akin SameMatcher (opening s stage') :=
    ⟨⟨rfl, made.active, made.active⟩, .nil, .nil⟩
  obtain ⟨states, -, histories⟩ := Machine.play_akin (fun c _ _ => operateBefore_akin A A' c) same start
  exact ⟨states, histories⟩

def spoilsport : Bus.Audience String Unit where
  respond event _ hall := (.error (.raised "RuntimeError" ""), { hall with bus := hall.bus.subscribe event event })
  uses _ _ _ := .refl
  uncancelled := by
    rintro _ _ _ _ ⟨⟩
    simp [Failure.isCancellation]

def crowded : Stage String Unit := ⟨some (eventNames.foldl (fun bus event => bus.subscribe event event) {}), ()⟩

def typing (κ υ : Type) : List (Cue (surroundings Unit) (Logged × Stage κ υ) Call) :=
  .call (.press ⟨"a", {}, none⟩) :: List.replicate 2 (.answer calm) ++
    .call (.press ⟨"b", {}, none⟩) :: List.replicate 3 (.answer calm)

theorem akin_typing {R : Logged × Stage κ υ → Logged × Stage κ' υ' → Prop} :
    List.Forall₂ (Cue.Akin R) (typing κ υ) (typing κ' υ') := by
  simp [typing, List.replicate, Cue.Akin.call, Cue.Akin.answer]

theorem crowded_typing : started?.map (fun s =>
    let N := (opening s crowded).play (operateBefore spoilsport) (typing String Unit)
    (N.history.asked Request.command?, N.state.2.bus.map (·.count "keys.dispatch"))) = some (["open"], some 2) := by
  decide +kernel

theorem audience_irrelevant_typing : ∃ s, Made Unit chord s ∧
    List.Forall₂ (Sight.Akin SameMatcher)
      ((opening s ⟨none, ()⟩).play (operateBefore spoilsport) (typing String Unit)).history
      ((opening s crowded).play (operateBefore spoilsport) (typing String Unit)).history ∧
    ((opening s crowded).play (operateBefore spoilsport) (typing String Unit)).history.asked Request.command? =
      ["open"] := by
  obtain ⟨s, hs, shown⟩ := Option.map_eq_some_iff.mp crowded_typing
  simp only [Prod.mk.injEq] at shown
  have made : Made Unit chord s := made_of_started? hs
  have same := audience_irrelevant made spoilsport spoilsport ⟨none, ()⟩ crowded akin_typing
  exact ⟨s, made, same.right, shown.left⟩

end Keychord.Matcher
