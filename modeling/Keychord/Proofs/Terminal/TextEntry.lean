import Keychord.Proofs.Application.Worlds
import Keychord.Proofs.Matcher.Filtered
import Keychord.Proofs.Notation.Grammar
import Keychord.Proofs.Telemetry.Turns
import Keychord.Scenario.Session.Play

namespace Keychord.Terminal

def Widget.TakesText (widget : Widget) : Prop := ∃ name ∈ widget.allClasses, name ∈ ["Input", "TextArea", "Select"]

theorem isTextTag_textClasses : ∀ entry ∈ textClasses, Text.lower entry.2 ∈ Target.textTags := by decide +kernel

theorem isSome_textClasses : ∀ name ∈ ["Input", "TextArea", "Select"], (textClasses.lookup name).isSome := by decide

namespace Widget

variable {widget : Widget}

theorem lower_tag (takesText : widget.TakesText) : Text.lower widget.tag ∈ Target.textTags := by
  have ⟨name, among, text⟩ := takesText
  cases found : widget.allClasses.findSome? fun name => textClasses.lookup name with
  | none =>
    have unknown := List.findSome?_eq_none_iff.mp found name among
    have known := isSome_textClasses name text
    simp [unknown] at known
  | some tag =>
    have ⟨name, _, stands⟩ := List.exists_of_findSome?_eq_some found
    have row : (name, tag) ∈ textClasses := (Notation.lookup_eq_some_iff (by decide)).mp stands
    have tagged : widget.tag = tag := by rw [Widget.tag, found]
    exact tagged ▸ isTextTag_textClasses (name, tag) row

theorem TakesText.takesText_target (takesText : widget.TakesText) : widget.target.takesText := by
  have tag : widget.target.firstOf ["tag_name", "tagName"] = .text widget.tag := by
    simp [target, Target.ofTag, Target.firstOf, Option.filter, Value.text, Value.isNull]
  have known : Target.isTextTag (.text widget.tag) := List.contains_iff_mem.mpr (lower_tag takesText)
  rw [Target.takesText, tag, known, Bool.true_or]

end Widget

end Keychord.Terminal

namespace Keychord.Scenario.Session

def World.showLog (line : String) (world : World) : World :=
  if world.screen = .hooks then { world with journal := world.journal.write (hookEntry "log" line) } else world

theorem display_log (line : String) (world : World) : display (.log line) world = (.ok (), world.showLog line) := by
  rw [display, Action.get_bind]
  cases shown : world.screen with
  | hooks => exact congrArg (Prod.mk _) (if_pos shown).symm
  | none => exact congrArg (Prod.mk _) (if_neg (by simp [shown])).symm
  | app => exact congrArg (Prod.mk _) (if_neg (by simp [shown])).symm

variable {press : Press} (filtered : press.isFiltered) (player : Player) (seat : Nat) (world : World)

include filtered

theorem onMatcher_filtered : onMatcher player seat (Matcher.handle press) world = (.ok false, world) := by
  rw [onMatcher, runMatcher, Action.get_bind, Matcher.handle_filtered filtered]
  exact congrArg (Prod.mk _) World.setMatcher_matcher

theorem deliver_filtered : deliver player seat press world = (.ok (false, {}), world) := by
  have declined : (onMatcher player seat (Matcher.handle press)).attempt { world with delivery := {} } =
      (.ok (.ok false), { world with delivery := {} }) := by
    rw [Action.attempt, onMatcher_filtered filtered]
  have emptied : (modify fun world => { world with delivery := {} } : Act Unit) world =
      (.ok (), { world with delivery := {} }) := rfl
  rw [deliver, Action.get_bind]
  exact (Action.bind_ok emptied).trans (Action.bind_ok declined)

omit filtered

variable {widget : Terminal.Widget} (takesText : widget.TakesText)

include takesText

theorem isFiltered_press (name : String) (character : Option String) :
    (Terminal.press name character (some widget.target)).isFiltered := by
  have forText : (Terminal.press name character (some widget.target)).forText := takesText.takesText_target
  rw [Press.isFiltered, forText, Bool.true_or, Bool.true_or]

theorem terminalKey_textEntry (name : String) (character : Option String) :
    terminalKey player seat name character (some widget) world =
      (.ok false, world.showLog (Terminal.keyLine name false (world.matcher seat).pendingDisplay)) := by
  have delivered := deliver_filtered (isFiltered_press takesText name character) player seat world
  rw [terminalKey, Option.map_some]
  refine (Action.bind_ok delivered).trans ?_
  dsimp only
  rw [Action.get_bind]
  exact Action.bind_ok (display_log _ world)

theorem play_textEntry (depth : Nat) (name : String) (character : Option String) (rest : List Step)
    (shown : world.screen = .hooks) (empty : world.journal.entries = []) :
    (stage (depth + 1)).play (.terminalKey name character (some widget) :: rest) world =
      ⟨.ok (.bool false), [hookEntry "log" (Terminal.keyLine name false (world.matcher mainSeat).pendingDisplay)],
        see world⟩ :: (stage (depth + 1)).play rest world := by
  have attached : ¬world.screen = .none := by simp [shown]
  have typed : (stage (depth + 1)).perform (.terminalKey name character (some widget)) world =
      (.ok (.bool false), world.showLog (Terminal.keyLine name false (world.matcher mainSeat).pendingDisplay)) := by
    show performWith (performTo depth) (.terminalKey name character (some widget)) world = _
    rw [performWith, Action.get_bind, if_neg attached]
    exact Action.bind_ok (terminalKey_textEntry (performTo depth) mainSeat world takesText name character)
  have taken : ∀ line, (stage (depth + 1)).takeLog (world.showLog line) = ([hookEntry "log" line], world) := by
    intro line
    obtain ⟨⟨telemetry, traced, entries⟩, _⟩ := world
    cases empty
    cases shown
    rfl
  rw [Stage.play, Stage.report, typed]
  simp only [taken]
  rfl

-- Whatever is typed into a control that takes text, and whatever the matcher is in the middle of, the press is declined
-- and nothing is asked for. The world stays as it is, but for the line about the key. In a session, every such key is
-- reported with this line and nothing else, and what is seen of the session does not change.
theorem text_entry_declined :
    (∀ (Job : Type) name character (m : Matcher), Matcher.handle (Terminal.press name character (some widget.target)) m =
      (.finished (.ok false) m : Run (Matcher.surroundings Job) Matcher Bool)) ∧
    (∀ player seat name character world, terminalKey player seat name character (some widget) world =
      (.ok false, world.showLog (Terminal.keyLine name false (world.matcher seat).pendingDisplay))) ∧
    ∀ depth (typed : List (String × Option String)) (world : World), world.screen = .hooks → world.journal.entries = [] →
      (stage (depth + 1)).play (typed.map fun (name, character) => .terminalKey name character (some widget)) world =
        typed.map fun (name, _) => ⟨.ok (.bool false),
          [hookEntry "log" (Terminal.keyLine name false (world.matcher mainSeat).pendingDisplay)], see world⟩ := by
  refine ⟨fun Job name character m => ?_, fun player seat name character world => ?_,
    fun depth typed world shown empty => ?_⟩
  case refine_1 => exact congrFun (Matcher.handle_filtered (isFiltered_press takesText name character)) m
  case refine_2 => exact terminalKey_textEntry player seat world takesText name character
  case refine_3 =>
    induction typed with
    | nil => rfl
    | cons key rest ih =>
      exact (play_textEntry world takesText depth key.1 key.2 _ shown empty).trans (congrArg (List.cons _) ih)

omit takesText

def halfway : World :=
  let keymap := (Keymap.compile (.text " ") 500 ⟨[("ab", "open")]⟩).toOption.getD .empty
  { journal := {}, screen := .hooks, seats := [⟨{ keymap := keymap, path := ["a"], typed := [.ofChar 'a' .none] }, none⟩] }

theorem text_entry_declined_halfway : (halfway.matcher mainSeat).pendingDisplay = "a" ∧
    Terminal.Widget.TakesText ⟨["Prompt", "Input", "Widget"]⟩ ∧
    (stage 1).play [.terminalKey "b" (some "b") (some ⟨["Prompt", "Input", "Widget"]⟩)] halfway =
      [⟨.ok (.bool false), [hookEntry "log" "key -> 'b' handled=False pending='a'"], see halfway⟩] := by
  have takesText : Terminal.Widget.TakesText ⟨["Prompt", "Input", "Widget"]⟩ := ⟨"Input", by decide, by decide⟩
  have pending : (halfway.matcher mainSeat).pendingDisplay = "a" := by decide +kernel
  have line : Terminal.keyLine "b" false "a" = "key -> 'b' handled=False pending='a'" := by decide +kernel
  have declined := (text_entry_declined takesText).right.right 0 [("b", some "b")] halfway rfl rfl
  refine ⟨pending, takesText, ?_⟩
  simpa only [List.map_cons, List.map_nil, pending, line] using declined

end Keychord.Scenario.Session
