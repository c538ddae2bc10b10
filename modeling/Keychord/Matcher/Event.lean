import Keychord.Failure

namespace Keychord.Matcher

inductive Event
  | pending (keys : String) (command : Option String) (next : List Edge)
  | reset
  | dispatch (command keys : String)
  | failed (command : String) (failure : Failure)

def Event.name : Event → String
  | pending .. => "keys.pending"
  | reset => "keys.reset"
  | dispatch .. => "keys.dispatch"
  | failed .. => "keys.dispatch_failed"

def Event.payload : Event → Value
  | pending keys command next =>
    .record [("keys", .text keys), ("command_id", .ofText? command), ("next", .list (next.map Value.text))]
  | reset => .null
  | dispatch command keys => .record [("command_id", .text command), ("keys", .text keys)]
  | failed command failure => .record [("command_id", .text command), ("error", failure.toValue)]

def eventNames : List String := ["keys.pending", "keys.dispatch", "keys.reset", "keys.dispatch_failed"]

end Keychord.Matcher
