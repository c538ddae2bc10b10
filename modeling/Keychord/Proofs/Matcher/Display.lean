import Keychord.Proofs.Matcher.Place
import Keychord.Proofs.Matcher.Refinement
import Keychord.Proofs.Notation.Legible

namespace Keychord.Matcher

variable {Job : Type}

theorem not_upper_of_toKey? {press : Press} {key : Key} (h : press.toKey? = some key) {c : Char}
    (hc : key.name = String.singleton c) : ¬Text.isAsciiUpper c := by
  rw [Press.toKey?] at h
  split at h
  case h_1 d hd =>
    split at h
    case isTrue =>
      obtain ⟨name, _⟩ := Notation.ofName?_eq_some_iff.mp h
      exact Text.not_upper_of_mem_lower (s := press.key) (by simp [← name, hc])
    case isFalse lower =>
      have same : ∀ mods, Key.ofName? press.key mods = some key → ¬Text.isAsciiUpper c := by
        intro mods h
        obtain ⟨name, _⟩ := Notation.ofName?_eq_some_iff.mp h
        obtain rfl : c = d := by simpa [← name, hc] using hd
        exact lower
      split at h <;> exact same _ h
  case h_2 several =>
    obtain ⟨name, _⟩ := Notation.ofName?_eq_some_iff.mp h
    exact absurd (by simp [← name, hc]) (several c)

structure Following (m : Matcher) : Prop where
  keymap : ∃ bindings, m.keymap.Compiled bindings
  leader : m.keymap.leader.Spelled
  path   : m.path = m.typed.map Key.edge
  node   : (m.keymap.root.find? m.path).isSome
  keys   : ∀ key ∈ m.typed, ∃ press : Press, press.toKey? = some key

theorem Following.resembles {m : Matcher} (following : Following m) :
    ∀ key ∈ m.typed, ∃ spelled, key.Resembles spelled := by
  intro key hk
  have ⟨bindings, compiled⟩ := following.keymap
  have ⟨press, pressed⟩ := following.keys key hk
  have edge : key.edge ∈ m.path := following.path ▸ List.mem_map_of_mem hk
  cases (compiled.represents.found m.path).mp following.node
  case inl start => simp [start] at edge
  case inr bound =>
    have ⟨b, hb, leads⟩ := bound
    have ⟨spelled, hs, same⟩ := List.mem_map.mp (leads.subset edge)
    exact ⟨spelled, same.symm, Notation.spelled_of_parse following.leader (compiled.parsed b hb) spelled hs,
      fun _ => not_upper_of_toKey? pressed⟩

theorem following_of_compile {config : Config} {m : Matcher}
    (compiles : Keymap.compile (.text config.leader) config.timeout config.bindings = .ok m.keymap) (path : m.path = [])
    (typed : m.typed = []) : Following m := by
  have ⟨_, _, leader, parsed, compiled⟩ := Keymap.compile_ok compiles
  exact ⟨⟨parsed, compiled⟩, Notation.spelled_of_leader leader, by simp [path, typed], by rw [path]; rfl, by simp [typed]⟩

-- Surroundings that answer as they like, and call what they like wherever control is with subscribers or commands, except
-- while a reload drops keys.
def displayHost (Job : Type) : Host Job where
  calls _ _ _ := True
  during call request _ := request.IsShown ∧ ∀ config, call ≠ .reload config
  answers _ _ := True
  drifts s s' := s'.matcher = s.matcher ∧ s.telemetry.Use s'.telemetry

theorem following_enduring : Enduring (displayHost Job) Following where
  opens := by
    rintro _ _ ⟨_, shown, _⟩
    exact shown
  drifts := fun _ _ hd => hd
  stays := by
    rintro m m' ⟨keymap, leader, path, node, keys⟩ ⟨hk, hp, ht⟩
    exact ⟨by rwa [hk], by rwa [hk], by rwa [hp, ht], by rwa [hk, hp], by rwa [ht]⟩
  clears := fun following => ⟨following.keymap, following.leader, rfl, rfl, by simp [cleared]⟩
  follows := by
    rintro m press key node ⟨keymap, leader, path, _, keys⟩ hk hn
    refine ⟨keymap, leader, by simp [advanced, path], Option.isSome_iff_exists.mpr ⟨node, hn⟩, ?_⟩
    exact List.forall_mem_append.mpr ⟨keys, by simpa using ⟨press, hk⟩⟩
  reloads := by
    intro m config keymap s h _ compiles following dropped
    have shut : ¬(displayHost Job).Opens (.reload config) (.publish .reset) := by
      rintro ⟨_, _, other⟩
      exact other config rfl
    exact following_of_compile compiles rfl (dropped shut)

variable {config : Config} {s : Logged} {M : Working Job}

-- Whatever has been typed, the display is read again just if it shows no name that nothing reads, and then it leads to
-- where the matcher is.
theorem display_legible_iff (made : Made Job config s)
    (reaches : Machine.Reaches operate (displayHost Job) ⟨s, [], []⟩ M) (pending : ¬M.state.matcher.isIdle) :
    ((∃ keys, Notation.parse M.state.matcher.keymap.leader M.state.matcher.pendingDisplay = .ok keys) ↔
      ∀ key ∈ M.state.matcher.typed, ¬key.Misspelt) ∧
    ∀ keys, Notation.parse M.state.matcher.keymap.leader M.state.matcher.pendingDisplay = .ok keys →
      keys.map Key.edge = M.state.matcher.path := by
  obtain ⟨keymap, compiles, start⟩ := made.compiles
  have typed : s.matcher.typed = [] := List.map_eq_nil_iff.mp start.typed
  have new : Following s.matcher := following_of_compile (start.keymap ▸ compiles) start.path typed
  have following : Following M.state.matcher := following_enduring.at_all_times new reaches
  have some : M.state.matcher.typed ≠ [] := by
    intro none
    simp [isIdle, following.path, none] at pending
  obtain ⟨read, edges⟩ := Notation.parse_write_iff M.state.matcher.keymap.leader some following.resembles
  exact ⟨read, fun keys h => (edges keys h).trans following.path.symm⟩

def led (source : String) : Config := ⟨" ", 500, ⟨[(source, "open")]⟩⟩

def respelt (name : String) (s : Logged) : Working Unit := .serve operate calm ⟨s, [], []⟩ (.press ⟨name, {}, none⟩)

theorem reaches_respelt (name : String) (s : Logged) :
    Machine.Reaches operate (displayHost Unit) ⟨s, [], []⟩ (respelt name s) := by
  have rest : (⟨s, [], []⟩ : Working Unit).Resting := rfl
  exact .serve (fun _ => trivial) .refl rest trivial

theorem respelt_up : (configured? Unit (led "<Up>x")).map (fun s =>
    let m := (respelt "arrowup" s).state.matcher
    (m.isIdle, m.pendingDisplay, (Notation.parse m.keymap.leader m.pendingDisplay).toOption)) =
      some (false, "<arrowup>", none) := by decide +kernel

theorem display_unread : ∃ s, Made Unit (led "<Up>x") s ∧
    Machine.Reaches operate (displayHost Unit) ⟨s, [], []⟩ (respelt "arrowup" s) ∧
    ¬(respelt "arrowup" s).state.matcher.isIdle ∧ (respelt "arrowup" s).state.matcher.pendingDisplay = "<arrowup>" ∧
    ∀ keys, Notation.parse (respelt "arrowup" s).state.matcher.keymap.leader
      (respelt "arrowup" s).state.matcher.pendingDisplay ≠ .ok keys := by
  have ⟨s, hs, shown⟩ := Option.map_eq_some_iff.mp respelt_up
  simp only [Prod.mk.injEq] at shown
  have ⟨pending, display, unread⟩ := shown
  refine ⟨s, made_of_configured? hs, reaches_respelt "arrowup" s, by simp [pending], display, fun keys read => ?_⟩
  rw [read] at unread
  cases unread

theorem respelt_enter : (configured? Unit (led "<Enter>x")).map (fun s =>
    let m := (respelt "ENTER" s).state.matcher
    (m.isIdle, m.pendingDisplay, m.path, decide (∀ key ∈ m.typed, ¬key.Misspelt))) =
      some (false, "<ENTER>", ["enter"], true) := by decide +kernel

theorem display_legible_iff_respelt : ∃ s keys, Made Unit (led "<Enter>x") s ∧
    Machine.Reaches operate (displayHost Unit) ⟨s, [], []⟩ (respelt "ENTER" s) ∧
    ¬(respelt "ENTER" s).state.matcher.isIdle ∧
    Notation.parse (respelt "ENTER" s).state.matcher.keymap.leader "<ENTER>" = .ok keys ∧
      keys.map Key.edge = ["enter"] := by
  have ⟨s, hs, shown⟩ := Option.map_eq_some_iff.mp respelt_enter
  simp only [Prod.mk.injEq, decide_eq_true_eq] at shown
  have ⟨idle, display, path, spelt⟩ := shown
  have made : Made Unit (led "<Enter>x") s := made_of_configured? hs
  have pending : ¬(respelt "ENTER" s).state.matcher.isIdle := by simp [idle]
  have ⟨legible, leads⟩ := display_legible_iff made (reaches_respelt "ENTER" s) pending
  have ⟨keys, read⟩ := legible.mpr spelt
  exact ⟨s, keys, made, reaches_respelt "ENTER" s, pending, display ▸ read, path ▸ leads keys read⟩

end Keychord.Matcher
