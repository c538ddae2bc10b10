import Keychord.Keymap.Compile
import Keychord.Telemetry.Span

namespace Keychord.Keymap

def compileSpan (timeout : Int) (bindings : OrderedMap String String) : Telemetry.SpanRequest :=
  { name := "keymaps::compile", component := some "keymaps",
    metadata := ⟨[(.text "bindings", .int bindings.size), (.text "timeout_ms", .int timeout)]⟩ }

def compileTraced {m : Type → Type} [Monad m] [MonadExceptOf Failure m] (ask : (op : Telemetry.Op) → m op.Answer)
    (leader : Notation.Leader) (timeout : Int) (bindings : OrderedMap String String) : m Keymap :=
  Telemetry.around ask (compileSpan timeout bindings) do
    match compile leader timeout bindings with
    | .ok keymap => return keymap
    | .error fault => throwThe Failure (.keymap fault)

end Keychord.Keymap
