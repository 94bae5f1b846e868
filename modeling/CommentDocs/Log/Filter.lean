import CommentDocs.Log.Directive

/-!
# CommentDocs.Log.Filter

Which events are logged. A filter is a list of directives; of those that apply to an event the most
specific one decides, and an event that none applies to is not logged.
-/

namespace CommentDocs

abbrev Filter := List Directive

namespace Filter

/-- The most specific of some directives, of equals the last. -/
def mostSpecific : List Directive → Option Directive
  | [] => none
  | d :: ds =>
    match mostSpecific ds with
    | none => some d
    | some b => if (Directive.specificity d b).isLE then some b else some d

def decisive (f : Filter) (target : Text) (fields : List Text) : Option Directive :=
  mostSpecific (f.filter fun d => d.appliesTo target fields)

def admits (f : Filter) (target : Text) (fields : List Text) (level : Level) : Bool :=
  match f.decisive target fields with
  | none => false
  | some d => d.admits level

/-- The filter that a setting asks for, directives separated by commas; `none` if one of them cannot
be read. Nothing between two commas is no directive, and a setting without any asks for errors. -/
def ofSetting? (t : Text) : Option Filter :=
  match (Text.splitWhen (· = ',') t).filter (· ≠ []) with
  | [] => some [.everywhere (some .error)]
  | ds => ds.mapM Directive.ofText?

/-- The filter of a run: that of the setting if it can be read, else by verbosity. -/
def choose (setting : Option Text) (verbose : Bool) : Filter :=
  match setting.bind ofSetting? with
  | some f => f
  | none => [.everywhere (some (if verbose then .debug else .warn))]

end Filter
end CommentDocs
