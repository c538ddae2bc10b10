import Keychord.Config.Basic
import Keychord.Registry
import Keychord.Text.Split

namespace Keychord.Terminal

def insertSorted (s : String) : List String → List String
  | [] => [s]
  | t :: rest => if s = t then t :: rest else if s < t then s :: t :: rest else t :: insertSorted s rest

def sortedSet (texts : List String) : List String := texts.foldr insertSorted []

def category (command : String) : String := String.ofList (Text.cut '.' command.toList).1

def demoCommands (config : Config) : List CommandInfo :=
  (sortedSet config.bindings.values).map fun command => { id := command, category := category command }

end Keychord.Terminal
