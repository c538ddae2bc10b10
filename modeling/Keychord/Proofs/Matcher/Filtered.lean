import Keychord.Proofs.Matcher.Work
import Keychord.Proofs.Playback

namespace Keychord.Matcher

variable {Job : Type} {press : Press} {cues cues' : List (Cue (surroundings Job) Logged Call)} {M M' : Working Job}
  {h h' : Past Job}

def Unheard (press : Press) : Prop := press.forText ∨ press.key = "" ∨ press.key ∈ Key.modifierNames

theorem Unheard.filtered (unheard : Unheard press) : press.isFiltered := by
  simpa [Press.isFiltered, Unheard, or_assoc] using unheard

def IsUnheard : Cue (surroundings Job) Logged Call → Prop
  | .call (.press press) => Unheard press
  | _ => False

theorem isUnheard_iff {cue : Cue (surroundings Job) Logged Call} :
    IsUnheard cue ↔ ∃ press, cue = .call (.press press) ∧ Unheard press := by
  constructor
  case mp =>
    intro unheard
    obtain (⟨⟨⟩⟩ | ⟨⟩ | ⟨⟩) := cue <;> first | exact ⟨_, rfl, unheard⟩ | exact absurd unheard id
  case mpr =>
    rintro ⟨press, rfl, unheard⟩
    exact unheard

theorem handle_filtered (filtered : press.isFiltered) : handle press = (pure false : Step Job Bool) := if_pos filtered

theorem operate_unheard (unheard : Unheard press) (s : Logged) :
    operate (.press press) s = (.finished (.ok (some false)) s : Run (surroundings Job) Logged (Option Bool)) := by
  rw [operate, Call.step, handle_filtered unheard.filtered]
  rfl

theorem enterCall_unheard (unheard : Unheard press) (M : Working Job) :
    M.enterCall operate (.press press) = ⟨M.state, M.frames,
      .returned (.press press) (.ok (some false)) M.state :: .called (.press press) M.state :: M.history⟩ := by
  rw [Machine.enterCall, operate_unheard unheard]
  rfl

inductive Interspersed : Past Job → Past Job → Prop
  | nil : Interspersed [] []
  | seen (sight : Sight (surroundings Job) Logged Call (Option Bool)) {h h' : Past Job} (before : Interspersed h h') :
      Interspersed (sight :: h) (sight :: h')
  | declined {press : Press} (unheard : Unheard press) (s : Logged) {h h' : Past Job} (before : Interspersed h h') :
      Interspersed h (.returned (.press press) (.ok (some false)) s :: .called (.press press) s :: h')

theorem Interspersed.refl : (h : Past Job) → Interspersed h h
  | [] => .nil
  | sight :: h => .seen sight (refl h)

structure Unmoved (M M' : Working Job) : Prop where
  states    : M'.state = M.state
  frames    : M'.frames = M.frames
  histories : Interspersed M.history M'.history

namespace Unmoved

theorem enter (before : Interspersed h h') (c : Call) (frames : List (Frame (surroundings Job) Logged Call (Option Bool)))
    (run : Run (surroundings Job) Logged (Option Bool)) :
    Unmoved (Machine.enter c frames h run) (Machine.enter c frames h' run) := by
  cases run with
  | finished outcome s => exact ⟨rfl, rfl, .seen _ before⟩
  | waiting request s resume => exact ⟨rfl, rfl, .seen _ before⟩

theorem perform (unmoved : Unmoved M M') (cue : Cue (surroundings Job) Logged Call) :
    Unmoved (M.perform operate cue) (M'.perform operate cue) := by
  obtain ⟨s, frames, h⟩ := M
  obtain ⟨s', frames', h'⟩ := M'
  obtain ⟨rfl, rfl, before⟩ := unmoved
  cases cue with
  | call c => exact enter (.seen _ before) c _ _
  | answer reply =>
    cases frames' with
    | nil => exact ⟨rfl, rfl, before⟩
    | cons frame frames => exact enter (.seen _ before) _ _ _
  | drift change => exact ⟨rfl, rfl, before⟩

theorem performUnheard (unmoved : Unmoved M M') {cue : Cue (surroundings Job) Logged Call}
    (unheard : IsUnheard cue) : Unmoved M (M'.perform operate cue) := by
  obtain ⟨press, rfl, unheard⟩ := isUnheard_iff.mp unheard
  rw [Machine.perform, enterCall_unheard unheard]
  exact ⟨unmoved.states, unmoved.frames, .declined unheard _ unmoved.histories⟩

end Unmoved

-- Presses that are not heard are declined wherever they come, without anything being asked for, not even to consume
-- them. Apart from that nothing is seen of them, in any run and wherever they are put into it.
theorem unheard_invisible (M : Working Job) (padded : Padded IsUnheard cues cues') :
    (∀ press, Unheard press → ∀ N : Working Job, N.enterCall operate (.press press) = ⟨N.state, N.frames,
      .returned (.press press) (.ok (some false)) N.state :: .called (.press press) N.state :: N.history⟩) ∧
      (M.play operate cues').state = (M.play operate cues).state ∧
      (M.play operate cues').frames = (M.play operate cues).frames ∧
      Interspersed (M.play operate cues).history (M.play operate cues').history := by
  have start : Unmoved M M := ⟨rfl, rfl, .refl _⟩
  obtain ⟨states, frames, histories⟩ := Machine.play_padded (fun cue _ _ unmoved => unmoved.perform cue)
    (fun _ _ _ unheard unmoved => unmoved.performUnheard unheard) padded start
  exact ⟨fun press unheard N => enterCall_unheard unheard N, states, frames, histories⟩

def completion : List (Cue (surroundings Unit) Logged Call) :=
  .call (.press ⟨"b", {}, none⟩) :: List.replicate 4 (.answer calm)

def meanwhile : List (Cue (surroundings Unit) Logged Call) :=
  [.call (.press ⟨"Shift", {}, none⟩), .call (.press ⟨"b", {}, some (.ofTag "input")⟩)]

theorem meanwhile_unheard : ∀ cue ∈ meanwhile, IsUnheard cue := by
  simp only [meanwhile, List.forall_mem_cons]
  exact ⟨.inr (.inr (by decide)), .inl (by decide +kernel), by simp⟩

theorem unheard_invisible_begun :
    Padded IsUnheard completion (meanwhile ++ completion) ∧
      (begun.play operate (meanwhile ++ completion)).state = (begun.play operate completion).state ∧
      Interspersed (begun.play operate completion).history (begun.play operate (meanwhile ++ completion)).history ∧
      (begun.play operate completion).frames.length = 0 ∧
      (Past.consumed (begun.play operate completion).history).map (·.key) = ["b", "a"] := by
  have padded : Padded IsUnheard completion (meanwhile ++ completion) :=
    Padded.append_left meanwhile_unheard (.refl _)
  obtain ⟨-, states, -, histories⟩ := unheard_invisible begun padded
  exact ⟨padded, states, histories, by decide +kernel, by decide +kernel⟩

end Keychord.Matcher
