import Keychord.Bus
import Keychord.Matcher.Basic
import Keychord.Terminal.Focus
import Keychord.Terminal.KeyName

namespace Keychord.Terminal

inductive Display
  | pending (keys : String)
  | status (text : String)
  | log (text : String)
  deriving DecidableEq, Repr

inductive Observer
  | pending
  | reset
  | dispatch
  | failure
  deriving DecidableEq, Repr

namespace Observer

def all : List Observer := [pending, reset, dispatch, failure]

def event : Observer → String
  | pending => "keys.pending"
  | reset => "keys.reset"
  | dispatch => "keys.dispatch"
  | failure => "keys.dispatch_failed"

def fieldText (payload : Value) (name : String) (missing : Value) : Except Failure String :=
  Telemetry.textOf ((payload.field? name).getD missing)

def respond {m : Type → Type} [Monad m] [MonadExceptOf Failure m] (display : Display → m Unit) (payload : Value) :
    Observer → m Unit
  | pending => do
    if payload.isMap then
      match fieldText payload "keys" (.text "") with
      | .ok keys => display (.pending keys)
      | .error f => throwThe Failure f
  | reset => display (.pending "")
  | dispatch => do
    display (.pending "")
    if payload.isMap then
      match fieldText payload "command_id" (.text "") with
      | .ok command => display (.status command)
      | .error f => throwThe Failure f
  | failure => do
    if payload.isMap then
      match fieldText payload "command_id" .null, fieldText payload "error" .null with
      | .ok command, .ok error => display (.status (command ++ " failed: " ++ error))
      | .error f, _ => throwThe Failure f
      | _, .error f => throwThe Failure f

end Observer

def attach {κ : Type} (subscriber : Observer → κ) (bus : Bus κ) : Bus κ :=
  Observer.all.foldl (fun bus observer => bus.subscribe observer.event (subscriber observer)) bus

def keyLine (key : String) (handled : Bool) (pending : String) : String :=
  "key -> " ++ Text.quoted key ++ " handled=" ++ (if handled then "True" else "False") ++ " pending=" ++
    Text.quoted pending

end Keychord.Terminal
