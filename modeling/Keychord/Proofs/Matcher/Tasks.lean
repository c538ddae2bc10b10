import Keychord.Proofs.Matcher.Quiet
import Mathlib.Data.List.Perm.Basic

namespace Keychord.Matcher

variable {Job : Type}

def Request.work? : Request Job → Option (String × Job)
  | .settle command job => some (command, job)
  | _ => none

def Request.command? : Request Job → Option String
  | .execute command => some command
  | _ => none

def atOnce : String × Except Failure (Option Job) → Option (String × Except Failure Unit)
  | (command, .error f) => some (command, .error f)
  | (command, .ok none) => some (command, .ok ())
  | (_, .ok (some _)) => none

namespace Past

def handed (h : Past Job) : List (String × Job) := History.asked Request.work? h

def taken (h : Past Job) : List (String × Job) := History.answered Request.work? h

def awaiting : Past Job → Nat
  | [] => 0
  | .asked (.settle ..) _ :: h => awaiting h + 1
  | .answered (.settle ..) _ :: h => awaiting h - 1
  | _ :: h => awaiting h

-- Whether a loop ran already when the latest work was to be awaited: there has been one from the start, or one runs for
-- other work.
def looping (looped : Bool) (h : Past Job) : Bool := looped || 1 < awaiting h

def Awaits (looped : Bool) (result : Job → Except Failure Unit) (h : Past Job) :
    Sight (surroundings Job) Logged Call (Option Bool) → Prop
  | .answered (.settle _ job) reply => reply = if looping looped h then .ok () else result job
  | _ => True

instance (looped : Bool) (result : Job → Except Failure Unit) (h : Past Job) (sight : Sight (surroundings Job) Logged Call
    (Option Bool)) : Decidable (Awaits looped result h sight) :=
  match sight with
  | .answered (.settle _ job) reply => decidable_of_iff (reply = if looping looped h then .ok () else result job) Iff.rfl
  | .answered (.telemetry _) _ | .answered (.consume _) _ | .answered (.arm ..) _ | .answered (.disarm _) _
  | .answered (.publish _) _ | .answered (.execute _) _ | .called .. | .asked .. | .returned .. => isTrue trivial

abbrev Awaited (looped : Bool) (result : Job → Except Failure Unit) (h : Past Job) : Prop :=
  History.Always (Awaits looped result) h

def tasks (looped : Bool) : Past Job → List (String × Job)
  | [] => []
  | .answered (.settle command job) _ :: h =>
    if looping looped h then (command, job) :: tasks looped h else tasks looped h
  | _ :: h => tasks looped h

def settlements : Past Job → List (String × Except Failure Unit)
  | [] => []
  | .called (.settled command outcome) _ :: h => (command, outcome) :: settlements h
  | _ :: h => settlements h

def dispatches : Past Job → List (String × Except Failure (Option Job))
  | [] => []
  | .answered (.execute command) reply :: h => (command, reply) :: dispatches h
  | _ :: h => dispatches h

def direct (looped : Bool) : Past Job → List (String × Except Failure Unit)
  | [] => []
  | .answered (.execute command) reply :: h => (atOnce (command, reply)).toList ++ direct looped h
  | .answered (.settle command _) reply :: h =>
    if looping looped h then direct looped h else (command, reply) :: direct looped h
  | _ :: h => direct looped h

def failures : Past Job → List (String × Failure)
  | [] => []
  | .answered (.execute command) (.error f) :: h => (command, f) :: failures h
  | .answered (.settle command _) (.error f) :: h => (command, f) :: failures h
  | .called (.settled command (.error f)) _ :: h => (command, f) :: failures h
  | _ :: h => failures h

def reports : Past Job → List (String × Failure)
  | [] => []
  | .asked (.publish (.failed command f)) _ :: h => (command, f) :: reports h
  | _ :: h => reports h

theorem executed_eq (h : Past Job) : executed h = History.asked Request.command? h := by
  induction h with
  | nil => rfl
  | cons sight h ih =>
    cases sight with
    | asked request =>
      cases request with
      | execute command => exact congrArg (command :: ·) ih
      | _ => exact ih
    | _ => exact ih

theorem map_dispatches (h : Past Job) : (dispatches h).map Prod.fst = History.answered Request.command? h := by
  induction h with
  | nil => rfl
  | cons sight h ih =>
    cases sight with
    | answered request =>
      cases request with
      | execute command => exact congrArg (command :: ·) ih
      | _ => exact ih
    | _ => exact ih

end Past

def erred {α : Type} : String × Except Failure α → Option (String × Failure)
  | (command, .error f) => some (command, f)
  | (_, .ok _) => none

def leftWork : String × Except Failure (Option Job) → Option (String × Job)
  | (command, .ok (some job)) => some (command, job)
  | _ => none

def ending (result : Job → Except Failure Unit) (work : String × Job) : String × Except Failure Unit :=
  (work.1, result work.2)

def ended (result : Job → Except Failure Unit) : String × Except Failure (Option Job) → String × Except Failure Unit
  | (command, .error f) => (command, .error f)
  | (command, .ok none) => (command, .ok ())
  | (command, .ok (some job)) => (command, result job)

def failure? (result : Job → Except Failure Unit) (dispatch : String × Except Failure (Option Job)) :
    Option (String × Failure) :=
  (erred dispatch).or ((leftWork dispatch).bind fun work => erred (ending result work))

def Finished (looped : Bool) (result : Job → Except Failure Unit) (h : Past Job) : Prop :=
  (Past.settlements h).Perm ((Past.tasks looped h).map (ending result))

instance (looped : Bool) (result : Job → Except Failure Unit) (h : Past Job) : Decidable (Finished looped result h) :=
  inferInstanceAs (Decidable (List.Perm _ _))

section Accounts

variable {looped : Bool} {result : Job → Except Failure Unit} {h : Past Job}

theorem failure?_eq (dispatch : String × Except Failure (Option Job)) :
    failure? result dispatch = erred (ended result dispatch) := by
  obtain ⟨command, f | _ | job⟩ := dispatch <;> rfl

theorem ended_fst (dispatch : String × Except Failure (Option Job)) : (ended result dispatch).1 = dispatch.1 := by
  obtain ⟨command, f | _ | job⟩ := dispatch <;> rfl

theorem filterMap_cons_eq {α β : Type} (pick : α → Option β) (a : α) (rest : List α) :
    (a :: rest).filterMap pick = (pick a).toList ++ rest.filterMap pick := by
  rw [List.filterMap_cons]
  cases pick a <;> rfl

theorem ended_perm (dispatches : List (String × Except Failure (Option Job))) :
    (dispatches.map (ended result)).Perm
      (dispatches.filterMap atOnce ++ (dispatches.filterMap leftWork).map (ending result)) := by
  induction dispatches with
  | nil => exact .refl _
  | cons dispatch dispatches ih =>
    obtain ⟨command, f | _ | job⟩ := dispatch
    · exact ih.cons _
    · exact ih.cons _
    · exact (ih.cons _).trans List.perm_middle.symm

theorem direct_tasks_perm (awaited : Past.Awaited looped result h) :
    (Past.direct looped h ++ (Past.tasks looped h).map (ending result)).Perm
      ((Past.dispatches h).filterMap atOnce ++ (Past.taken h).map (ending result)) := by
  induction h with
  | nil => exact .refl _
  | cons sight h ih =>
    have ih := ih (awaited.of_suffix (List.suffix_cons _ _))
    cases sight with
    | answered request reply =>
      cases request with
      | execute command =>
        have direct : Past.direct looped (.answered (.execute command) reply :: h) =
            (atOnce (command, reply)).toList ++ Past.direct looped h := rfl
        have dispatches : (Past.dispatches (.answered (.execute command) reply :: h)).filterMap atOnce =
            (atOnce (command, reply)).toList ++ (Past.dispatches h).filterMap atOnce := filterMap_cons_eq _ _ _
        rw [direct, dispatches, List.append_assoc, List.append_assoc]
        exact ih.append_left _
      | settle command job =>
        have given : reply = if Past.looping looped h then .ok () else result job := awaited _ h List.suffix_rfl
        show ((if Past.looping looped h then Past.direct looped h else (command, reply) :: Past.direct looped h) ++
          (if Past.looping looped h then (command, job) :: Past.tasks looped h else Past.tasks looped h).map _).Perm
            (_ ++ (command, result job) :: (Past.taken h).map _)
        cases looping : Past.looping looped h with
        | true => exact List.perm_middle.trans ((ih.cons _).trans List.perm_middle.symm)
        | false =>
          obtain rfl : reply = result job := by rw [given, looping]; rfl
          exact (ih.cons _).trans List.perm_middle.symm
      | _ => exact ih
    | _ => exact ih

theorem failures_perm_ends (awaited : Past.Awaited looped result h) :
    (Past.failures h).Perm ((Past.direct looped h ++ Past.settlements h).filterMap erred) := by
  rw [List.filterMap_append]
  induction h with
  | nil => exact .refl _
  | cons sight h ih =>
    have ih := ih (awaited.of_suffix (List.suffix_cons _ _))
    cases sight with
    | called call s =>
      cases call with
      | settled command outcome =>
        cases outcome with
        | ok => exact ih
        | error f => exact (ih.cons _).trans List.perm_middle.symm
      | _ => exact ih
    | answered request reply =>
      cases request with
      | execute command => rcases reply with f | _ | job <;> first | exact ih.cons _ | exact ih
      | settle command job =>
        have given : reply = if Past.looping looped h then .ok () else result job := awaited _ h List.suffix_rfl
        show (Past.failures _).Perm
          ((if Past.looping looped h then Past.direct looped h else
            (command, reply) :: Past.direct looped h).filterMap erred ++ (Past.settlements h).filterMap erred)
        cases looping : Past.looping looped h with
        | true =>
          rw [looping] at given
          obtain rfl : reply = .ok () := given
          exact ih
        | false =>
          cases reply with
          | ok => exact ih
          | error f => exact ih.cons _
      | _ => exact ih
    | _ => exact ih

theorem awaited_answerAll {α : Type} {reply : (request : Request Job) → Except Failure ((surroundings Job).Answer request)}
    (awaits : ∀ command job, reply (.settle command job) = if looped then .ok () else result job)
    (run : Run (surroundings Job) Logged α) (idle : Past.awaiting h = 0) (awaited : Past.Awaited looped result h) :
    Past.awaiting (run.answerAll reply h).2.2 = 0 ∧ Past.Awaited looped result (run.answerAll reply h).2.2 := by
  induction run generalizing h with
  | finished => exact ⟨idle, awaited⟩
  | waiting request s resume ih =>
    have asked : Past.Awaited looped result (.asked request s :: h) := awaited.cons trivial
    cases request with
    | settle command job =>
      refine ih _ s (by simp [Past.awaiting, idle]) (asked.cons ((awaits command job).trans ?_))
      simp [Past.looping, Past.awaiting, idle]
    | _ => exact ih _ s idle (asked.cons trivial)

theorem awaited_serve {reply : (request : Request Job) → Except Failure ((surroundings Job).Answer request)}
    (awaits : ∀ command job, reply (.settle command job) = if looped then .ok () else result job) {M : Working Job}
    (call : Call) (idle : Past.awaiting M.history = 0) (awaited : Past.Awaited looped result M.history) :
    Past.awaiting (Machine.serve operate reply M call).history = 0 ∧
      Past.Awaited looped result (Machine.serve operate reply M call).history := by
  have called : Past.awaiting (.called call M.state :: M.history) = 0 := idle
  obtain ⟨idle, awaited⟩ := awaited_answerAll awaits (operate call M.state) called (awaited.cons trivial)
  exact ⟨idle, awaited.cons trivial⟩

-- As soon as all tasks have ended, the commands that have been carried out have ended just as they were to.
theorem ends_perm (awaited : Past.Awaited looped result h) (finished : Finished looped result h)
    (taken : (Past.taken h).Perm ((Past.dispatches h).filterMap leftWork)) :
    (Past.direct looped h ++ Past.settlements h).Perm ((Past.dispatches h).map (ended result)) := by
  have told : (Past.direct looped h ++ Past.settlements h).Perm
      (Past.direct looped h ++ (Past.tasks looped h).map (ending result)) := finished.append_left _
  have left : ((Past.dispatches h).filterMap atOnce ++ (Past.taken h).map (ending result)).Perm
      ((Past.dispatches h).filterMap atOnce ++ ((Past.dispatches h).filterMap leftWork).map (ending result)) :=
    (taken.map _).append_left _
  exact told.trans ((direct_tasks_perm awaited).trans (left.trans (ended_perm _).symm))

theorem failures_perm (awaited : Past.Awaited looped result h) (finished : Finished looped result h)
    (taken : (Past.taken h).Perm ((Past.dispatches h).filterMap leftWork)) :
    (Past.failures h).Perm ((Past.dispatches h).filterMap (failure? result)) := by
  have failed : (Past.dispatches h).filterMap (failure? result) =
      ((Past.dispatches h).map (ended result)).filterMap erred := by
    rw [List.filterMap_map]
    exact congrArg (List.filterMap · _) (funext failure?_eq)
  rw [failed]
  exact (failures_perm_ends awaited).trans ((ends_perm awaited finished taken).filterMap erred)

end Accounts

end Keychord.Matcher
