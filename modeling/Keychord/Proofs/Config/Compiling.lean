import Keychord.Keymap.Traced
import Keychord.Proofs.Config.Sound
import Keychord.Proofs.Telemetry.Concord

namespace Keychord

namespace Keymap

variable {leader : Notation.Leader} {timeout : Int} {bindings : OrderedMap String String} {fault : Fault}

theorem readBindings_fault {key : Key} {entries : List (String × String)} (commands : ∀ entry ∈ entries, entry.2 ≠ "")
    (h : readBindings key entries = .error fault) : ∃ error, fault = .malformed error := by
  induction entries with
  | nil => cases h
  | cons entry rest ih =>
    obtain ⟨source, command⟩ := entry
    obtain ⟨present, others⟩ := List.forall_mem_cons.mp commands
    rw [readBindings, readBinding, if_neg present] at h
    cases hp : Notation.parse key source with
    | error error => rw [hp] at h; cases h; exact ⟨error, rfl⟩
    | ok keys =>
      rw [hp] at h
      cases hr : readBindings key rest with
      | error fault => rw [hr] at h; cases h; exact ih others hr
      | ok more => rw [hr] at h; cases h

theorem compile_fault (commands : ∀ entry ∈ bindings.entries, entry.2 ≠ "")
    (h : compile leader timeout bindings = .error fault) :
    (∃ error, fault = .malformed error) ∨ ∃ conflict, fault = .conflict conflict := by
  rw [compile] at h
  split at h
  case h_1 error _ => cases h; exact .inl ⟨error, rfl⟩
  case h_2 key _ =>
    cases hr : readBindings key bindings.entries with
    | error fault => rw [hr] at h; cases h; exact .inl (readBindings_fault commands hr)
    | ok parsed =>
      rw [hr] at h
      dsimp only [bind, Except.bind] at h
      split at h
      case h_1 conflict _ => cases h; exact .inr ⟨conflict, rfl⟩
      case h_2 => cases h

def Writable (timeout : Int) (bindings : OrderedMap String String) : Prop :=
  bindings.size < Nat.pow 10 Text.maxDigits ∧ timeout.natAbs < Nat.pow 10 Text.maxDigits

theorem writable_iff : Writable timeout bindings ↔
    (Value.int bindings.size).text?.isSome ∧ (Value.int timeout).text?.isSome := by
  have written : ∀ n : Int, (Value.int n).text? = Text.writeInt? n := fun _ => rfl
  rw [Writable, written, written, Text.writeInt?_isSome, Text.writeInt?_isSome, Int.natAbs_natCast]

theorem shown_compileSpan (writable : Writable timeout bindings) :
    ∀ e ∈ (compileSpan timeout bindings).metadata.entries, Telemetry.Shown e := by
  obtain ⟨count, delay⟩ := writable_iff.mp writable
  simp [compileSpan, Telemetry.Shown, count, delay]

theorem unshown_compileSpan (unwritable : ¬Writable timeout bindings) :
    ∃ e ∈ (compileSpan timeout bindings).metadata.entries, e.2.text? = none := by
  rw [writable_iff, not_and_or, Option.not_isSome_iff_eq_none, Option.not_isSome_iff_eq_none] at unwritable
  simpa [compileSpan] using unwritable

section

variable {t : Telemetry} (able : t.Able)

include able

theorem compileTraced_writable (writable : Writable timeout bindings) :
    (compileTraced Telemetry.perform leader timeout bindings t).1 = (compile leader timeout bindings).mapError .keymap := by
  have block : compileTraced Telemetry.perform leader timeout bindings =
      Telemetry.around Telemetry.perform (compileSpan timeout bindings)
        (Action.ofExcept ((compile leader timeout bindings).mapError .keymap)) := by
    rw [compileTraced]
    cases compile leader timeout bindings <;> rfl
  obtain ⟨t', h⟩ := Telemetry.around_ofExcept able (shown_compileSpan writable)
    ((compile leader timeout bindings).mapError .keymap)
  rw [block, h]

theorem compileTraced_unwritable (unwritable : ¬Writable timeout bindings) :
    (compileTraced Telemetry.perform leader timeout bindings t).1 = .error .numberTooLong := by
  obtain ⟨t', unopened⟩ := Telemetry.openSpan_unshown able (unshown_compileSpan unwritable)
  have h : compileTraced Telemetry.perform leader timeout bindings t = (.error .numberTooLong, t') :=
    Action.bind_error unopened
  rw [h]

end

end Keymap

namespace Config

-- A configuration, whichever way it has been come by, is sound, and where telemetry can be set up it is made into a
-- keymap unless a notation is malformed or two bindings conflict. A number that is too long to be written is refused
-- before.
theorem compile_obtained {config : Config} (obtained : config.Obtained) {t : Telemetry} (able : t.Able) :
    config.Sound ∧
    (Keymap.Writable config.timeout config.bindings →
      let outcome := (Keymap.compileTraced Telemetry.perform (.text config.leader) config.timeout config.bindings t).1
      (∃ keymap, outcome = .ok keymap) ∨ (∃ error, outcome = .error (.keymap (.malformed error))) ∨
        ∃ conflict, outcome = .error (.keymap (.conflict conflict))) ∧
    (¬Keymap.Writable config.timeout config.bindings →
      (Keymap.compileTraced Telemetry.perform (.text config.leader) config.timeout config.bindings t).1 =
        .error .numberTooLong) := by
  have sound := obtained.sound
  refine ⟨sound, fun writable => ?_, Keymap.compileTraced_unwritable able⟩
  rw [Keymap.compileTraced_writable able writable]
  cases hc : Keymap.compile (.text config.leader) config.timeout config.bindings with
  | ok keymap => exact .inl ⟨keymap, rfl⟩
  | error fault =>
    obtain ⟨error, rfl⟩ | ⟨conflict, rfl⟩ := Keymap.compile_fault (fun entry he => (sound.filled entry he).right) hc
    case inl => exact .inr (.inl ⟨error, rfl⟩)
    case inr => exact .inr (.inr ⟨conflict, rfl⟩)

def kind? {α : Type} : Except Failure α → Option String
  | .ok _ => none
  | .error f => some f.kind

def mistyped : Config := ⟨" ", 500, ⟨[("ab", "open"), ("<C-", "close")]⟩⟩

theorem obtained_mistyped : mistyped.Obtained := by
  have read : ofData {} ⟨[(.text "bindings", .map [(.text "ab", .text "open")])]⟩ = .ok ⟨" ", 500, ⟨[("ab", "open")]⟩⟩ := by
    decide +kernel
  have extended : withBindings ⟨" ", 500, ⟨[("ab", "open")]⟩⟩ ⟨[(.text "<C-", .text "close")]⟩ = .ok mistyped := by
    decide +kernel
  refine .extended (.read (fun bindings given => ?_) read) extended
  obtain rfl : Value.map [(.text "ab", .text "open")] = bindings := Option.some.inj given
  exact List.pairwise_singleton _ _

theorem compile_obtained_mistyped : mistyped.Obtained ∧ ({} : Telemetry).Able ∧
    Keymap.Writable mistyped.timeout mistyped.bindings ∧ mistyped.Sound ∧
    ∃ error, (Keymap.compileTraced Telemetry.perform (.text mistyped.leader) mistyped.timeout mistyped.bindings {}).1 =
      .error (.keymap (.malformed error)) := by
  have able : ({} : Telemetry).Able := .inr ⟨[], by decide +kernel⟩
  have writable : Keymap.Writable mistyped.timeout mistyped.bindings := Keymap.writable_iff.mpr (by decide +kernel)
  obtain ⟨sound, outcomes, -⟩ := compile_obtained obtained_mistyped able
  refine ⟨obtained_mistyped, able, writable, sound, ?_⟩
  have kind : kind? (Keymap.compileTraced Telemetry.perform (.text mistyped.leader) mistyped.timeout
      mistyped.bindings {}).1 = some "NotationError" := by decide +kernel
  obtain ⟨keymap, ho⟩ | found | ⟨conflict, ho⟩ := outcomes writable
  case inl => simp [ho, kind?] at kind
  case inr.inl => exact found
  case inr.inr => simp [ho, kind?, Failure.kind] at kind

def endless : Config := ⟨" ", Nat.pow 10 Text.maxDigits, ⟨[("a", "open")]⟩⟩

-- A valid configuration whose time to wait is too long to be written is refused, though nothing is wrong with its
-- bindings.
theorem compile_fails_endless :
    build (.text " ") (.int (Nat.pow 10 Text.maxDigits)) ⟨[(.text "a", .text "open")]⟩ = .ok endless ∧
      ({} : Telemetry).Able ∧
    (Keymap.compileTraced Telemetry.perform (.text endless.leader) endless.timeout endless.bindings {}).1 =
      .error .numberTooLong ∧ Failure.numberTooLong.kind = "ValueError" := by
  have able : ({} : Telemetry).Able := .inr ⟨[], by decide +kernel⟩
  have powers : ∀ n, 0 < Nat.pow 10 n := fun _ => Nat.pow_pos (by decide)
  have positive : 0 < endless.timeout := Int.natCast_pos.mpr (powers _)
  have unwritable : ¬Keymap.Writable endless.timeout endless.bindings := by
    rw [Keymap.Writable, endless, Int.natAbs_natCast]
    exact fun writable => Nat.lt_irrefl _ writable.right
  have build := build_eq_ok_iff.mpr ⟨⟨rfl, rfl, rfl⟩, by decide, positive, by decide⟩
  exact ⟨build, able, Keymap.compileTraced_unwritable able unwritable, rfl⟩

end Config

end Keychord
