import CommentDocs.Log.Event
import CommentDocs.Log.Filter
import CommentDocs.Text.Quoted

/-!
# CommentDocs.Log.Line

The written form of events: a line with the level, a message, and fields. Fields that hold names of
the documented language stand as they are, those that hold words of the program are quoted. In a
message control characters that a terminal might obey are shown by their numbers.
-/

namespace CommentDocs

structure Field where
  name : Text
  value : Text

namespace Field

def plain (name value : Text) : Field := ⟨name, value⟩

def quoted (name value : Text) : Field := ⟨name, Text.quoted value⟩

def render (f : Field) : Text := " " ++ f.name ++ "=" ++ f.value

end Field

namespace Event

def level : Event → Level
  | .unknownTag .. | .outsideEntity .. | .outsideMethod .. | .constructorReturn ..
  | .repeatedDeclaration .. | .fragmentUnreadable .. | .inputRead .. => .debug
  | .newEntity .. => .trace
  | .fragmentMissing .. | .patternUnmatched .. | .inputSkipped .. | .nothingFound => .warn
  | .inputsParsed .. | .pageWritten .. => .info

/-- The part of the program that the event comes from, as log settings name it. -/
def target : Event → Text
  | .unknownTag .. | .outsideEntity .. | .outsideMethod .. | .constructorReturn ..
  | .repeatedDeclaration .. => "annodoc::parser::builder"
  | .newEntity .. => "annodoc::model"
  | .fragmentUnreadable .. | .fragmentMissing .. => "annodoc::page"
  | .patternUnmatched .. | .inputSkipped .. | .inputRead .. | .nothingFound | .inputsParsed ..
  | .pageWritten .. => "annodoc"

def message : Event → Text
  | .unknownTag .. => "ignoring unknown annotation"
  | .outsideEntity .. => "dropping annotation outside of any class or mixin"
  | .outsideMethod .. => "dropping annotation outside of any method"
  | .constructorReturn .. => "dropping return on constructor"
  | .repeatedDeclaration .. => "merging repeated declaration"
  | .newEntity .. => "new entity"
  | .fragmentUnreadable .. => "fragment not readable"
  | .fragmentMissing .. => "missing fragment, including nothing"
  | .patternUnmatched pattern => "no files matched: " ++ pattern
  | .inputSkipped path error => "skipping " ++ path ++ ": " ++ error.message
  | .inputRead .. => "parsing"
  | .nothingFound => "no documented classes or mixins found"
  | .inputsParsed .. => "parsed"
  | .pageWritten .. => "wrote page"

def fields : Event → List Field
  | .unknownTag tag label => [.quoted "tag" tag, .plain "label" label]
  | .outsideEntity tag label | .outsideMethod tag label =>
    [.plain "tag" tag, .plain "label" label]
  | .constructorReturn label => [.plain "label" label]
  | .repeatedDeclaration key | .newEntity key =>
    [.quoted "kind" key.kind.tag, .plain "name" key.name]
  | .fragmentUnreadable path error => [.plain "path" path, .plain "error" error.message]
  | .fragmentMissing name => [.quoted "fragment" name]
  | .inputRead path => [.plain "file" path]
  | .inputsParsed entities files =>
    [.plain "entities" (Text.ofNat entities), .plain "files" (Text.ofNat files)]
  | .pageWritten page path => [.plain "page" page, .plain "path" path]
  | .patternUnmatched .. | .inputSkipped .. | .nothingFound => []

/-- The names of the fields, of which the message is the first. -/
def fieldNames (e : Event) : List Text := "message" :: e.fields.map Field.name

def shownChar (c : Char) : Text :=
  match c with
  | '\x07' => "\\x07"
  | '\x08' => "\\x08"
  | '\x0c' => "\\x0c"
  | '\x1b' => "\\x1b"
  | '\x7f' => "\\x7f"
  | c => if 0x80 ≤ c.toNat ∧ c.toNat ≤ 0x9F then Text.codePointName c else [c]

def line (e : Event) : Text :=
  e.level.name ++ " " ++ e.message.flatMap shownChar ++ e.fields.flatMap Field.render ++ "\n"

end Event

def Filter.log (f : Filter) (events : List Event) : Text :=
  (events.filter fun e => f.admits e.target e.fieldNames e.level).flatMap Event.line

end CommentDocs
