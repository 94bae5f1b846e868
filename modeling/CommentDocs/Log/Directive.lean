import CommentDocs.RegularExpression.Reader
import CommentDocs.Text.Alphanumeric
import CommentDocs.Text.Blank
import CommentDocs.Text.Number

/-!
# CommentDocs.Log.Directive

Directives of a log setting. Every event has a level, a target, which is the part of the program
that it comes from, and named fields. A directive names the least severe level that is logged for
the events it applies to: those whose target starts with the one of the directive and that have the
field it asks for, as in `target[span{field}]=level`. Every part may be left out.

The parts are found in the directive without the blanks around it, and are then read at the same
places of the directive as it is written (`Layout`). So blanks at the end belong to the last part,
and a directive with blanks in front has its parts shifted towards the front.
-/

namespace CommentDocs

/-- Levels of events, the most severe first. -/
inductive Level where
  | error
  | warn
  | info
  | debug
  | trace
deriving DecidableEq

namespace Level

def name : Level → Text
  | .error => "ERROR"
  | .warn => "WARN"
  | .info => "INFO"
  | .debug => "DEBUG"
  | .trace => "TRACE"

def rank : Level → Nat
  | .error => 1
  | .warn => 2
  | .info => 3
  | .debug => 4
  | .trace => 5

end Level

structure FieldTest where
  name : Text
  value : Option Text
deriving DecidableEq

/-- A directive. An empty target is that of every event, and no level means that nothing is
logged. -/
structure Directive where
  target : Text
  span : Option Text
  field : Option FieldTest
  least : Option Level
deriving DecidableEq

namespace Directive

def everywhere (least : Option Level) : Directive := ⟨[], none, none, least⟩

/-- Whether a directive applies to an event with a target and fields of these names. Events are in
no span, and the value of a field is known in a span only. -/
def appliesTo (d : Directive) (target : Text) (fields : List Text) : Bool :=
  match d.span, d.field with
  | some _, _ => false
  | none, none => d.target.isPrefixOf target
  | none, some ⟨name, none⟩ => d.target.isPrefixOf target && fields.contains name
  | none, some ⟨_, some _⟩ => false

def admits (d : Directive) (level : Level) : Bool :=
  match d.least with
  | none => false
  | some least => level.rank ≤ least.rank

/-- The order of directives from the general to the specific: by the length of the target, then the
absence of a field, then its name. -/
def specificity : Directive → Directive → Ordering :=
  compareLex (compareOn fun d => d.target.length)
    (compareOn fun d => d.field.map FieldTest.name)

/-! ## Levels -/

/-- Reads a number, which may have a plus sign in front. -/
def number? (t : Text) : Option Nat :=
  let digits :=
    match t with
    | '+' :: digits => digits
    | digits => digits
  if digits ≠ [] ∧ digits.all Char.isDigit then
    some (digits.foldl (fun n c => 10 * n + (c.toNat - '0'.toNat)) 0)
  else none

/-- Reads the name or the number of a level, in any letter case; the first `none` is for a text that
names no level, the second for the level that logs nothing. -/
def level? (t : Text) : Option (Option Level) :=
  match number? t with
  | some 0 => some none
  | some 1 => some (some .error)
  | some 2 => some (some .warn)
  | some 3 => some (some .info)
  | some 4 => some (some .debug)
  | some 5 => some (some .trace)
  | _ =>
    let name := t.map Char.toLower
    if name = "off" then some none
    else if name = "error" then some (some .error)
    else if name = "warn" then some (some .warn)
    else if name = "info" then some (some .info)
    else if name = "debug" then some (some .debug)
    else if name = "trace" then some (some .trace)
    else none

/-- Reads the level of a directive; an empty one is that of all events. -/
def least? (t : Text) : Option (Option Level) := if t = [] then some (some .trace) else level? t

/-! ## Fields -/

/-- Whether the value that a directive asks for can be read: it is a number or a regular
expression. -/
def isValue (t : Text) : Bool := Text.isNumber t || RegularExpression.isWellFormed t

/-- Reads the name of a field, or a name and a value with an equals sign between them. What stands
behind a second equals sign is left out. -/
def fieldTest? (t : Text) : Option FieldTest :=
  match Text.splitOnce '=' t with
  | none => some ⟨t, none⟩
  | some (name, rest) =>
    let value := rest.takeWhile (· ≠ '=')
    if isValue value then some ⟨name, some value⟩ else none

/-! ## Layout -/

/-- The parts of a directive: the target, a bracket with a span and a field, and the level. -/
structure Layout where
  target : Text
  bracket : Option (Text × Option Text)
  level : Option Text
deriving DecidableEq

namespace Layout

/-- Reads what stands behind the target and the bracket: nothing, or a level behind an equals
sign. -/
def withLevel? (target : Text) (bracket : Option (Text × Option Text)) : Text → Option Layout
  | [] => some ⟨target, bracket, none⟩
  | '=' :: level => some ⟨target, bracket, some level⟩
  | _ => none

def withBracket? (target rest : Text) : Option Layout :=
  let span := rest.takeWhile fun c => c != ']' && c != '\x7b'
  match rest.dropWhile fun c => c != ']' && c != '\x7b' with
  | [] => none
  | ']' :: rest => withLevel? target (some (span, none)) rest
  | _ :: rest =>
    match Text.splitOnce '\x7d' rest with
    | some (c :: field, ']' :: rest) => withLevel? target (some (span, some (c :: field))) rest
    | _ => none

def startsWith (c : Char) : Bool :=
  Text.isAlphanumeric c || c == '-' || c == ':' || c == '_' || c == '['

/-- Finds the parts of a directive that has no blanks around it. -/
def ofText? (t : Text) : Option Layout :=
  match t with
  | [] => none
  | c :: _ =>
    if startsWith c then
      let target := t.takeWhile fun c => c != '=' && c != '['
      match t.dropWhile fun c => c != '=' && c != '[' with
      | '[' :: rest => withBracket? target rest
      | rest => withLevel? target none rest
    else none

def bracketLength : Option (Text × Option Text) → Nat
  | none => 0
  | some (span, none) => span.byteLength + 2
  | some (span, some field) => span.byteLength + field.byteLength + 4

/-- Reads the span and the field of a bracket at its place in the directive `t`. An empty span in
front of a field is none. -/
def bracket? (layout : Layout) (t : Text) : Option (Option Text × Option FieldTest) :=
  let first := layout.target.byteLength + 1
  match layout.bracket with
  | none => some (none, none)
  | some (span, none) => (Text.slice? first span.byteLength t).map fun span => (some span, none)
  | some (span, some field) =>
    match Text.slice? first span.byteLength t,
      (Text.slice? (first + span.byteLength + 1) field.byteLength t).bind fieldTest? with
    | some span, some test => some (if span = [] then none else some span, some test)
    | _, _ => none

def level? (layout : Layout) (t : Text) : Option (Option Level) :=
  match layout.level with
  | none => some (some .trace)
  | some _ =>
    let first := layout.target.byteLength + bracketLength layout.bracket + 1
    (Text.splitBytes? first t).bind fun (_, level) => least? level

/-- Reads the parts of the directive `t`. One that has neither bracket nor equals sign is a level
for all events or else a target. -/
def directive? (layout : Layout) (t : Text) : Option Directive :=
  match layout.bracket, layout.level with
  | none, none =>
    match Directive.level? t with
    | some least => some (everywhere least)
    | none => some ⟨t, none, none, some .trace⟩
  | _, _ =>
    match Text.slice? 0 layout.target.byteLength t, layout.bracket? t, layout.level? t with
    | some target, some (span, field), some least => some ⟨target, span, field, least⟩
    | _, _, _ => none

end Layout

def ofText? (t : Text) : Option Directive :=
  (Layout.ofText? (Text.trim t)).bind fun layout => layout.directive? t

end Directive
end CommentDocs
