import Keychord.Text.Case
import Keychord.Value

namespace Keychord

structure Target where
  attributes : List (String × Value)

namespace Target

def textTags : List String := ["input", "textarea", "select"]

def firstOf (target : Target) (names : List String) : Value :=
  (names.findSome? fun name => (target.attributes.lookup name).filter (!·.isNull)).getD Value.null

-- Whether a value is the tag of a control that takes text. The text of a value that is no text is never such a tag.
def isTextTag (tag : Value) : Bool :=
  match tag.asText? with
  | some s => textTags.contains (Text.lower s)
  | none => false

def takesText (target : Target) : Bool :=
  isTextTag (target.firstOf ["tag_name", "tagName"]) ||
    (target.firstOf ["is_content_editable", "isContentEditable"]).truthy

def ofTag (tag : String) : Target :=
  ⟨[("tag_name", .text tag), ("is_content_editable", .bool false)]⟩

end Target

end Keychord
