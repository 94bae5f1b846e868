import CommentDocs.Disk.FileError
import CommentDocs.Glob.Pattern

/-!
# CommentDocs.Run.Failure

Why a run fails. A failure has a message, and possibly a cause, which stands by itself in the report
and behind a colon where the two are written on one line.
-/

namespace CommentDocs

inductive Failure where
  | pageWithoutFiles
  | outputMissing
  | unknownFormat (name : Text)
  | badPageSpec (spec : Text)
  | templateUnreadable (path : Text) (error : FileError)
  | badPattern (pattern : Text) (error : Glob.PatternError)
  | inputUnreadable (error : FileError)
  | directoryNotMade (path : Text) (error : FileError)
  | pageNotWritten (path : Text) (error : FileError)
deriving DecidableEq

namespace Failure

def message : Failure → Text
  | .pageWithoutFiles => "--page requires input files and --output"
  | .outputMissing => "--output is required when files are given"
  | .unknownFormat name => "unknown format: " ++ name ++ ". Use html, json, or markdown"
  | .badPageSpec spec => "invalid page spec: " ++ spec ++ " (expected NAME=TEMPLATE)"
  | .templateUnreadable path _ => "failed to read page template: " ++ path
  | .badPattern pattern _ => "invalid glob pattern: " ++ pattern
  | .inputUnreadable _ => "failed to read stdin"
  | .directoryNotMade path _ => "failed to create output directory: " ++ path
  | .pageNotWritten path _ => "failed to write " ++ path

def cause? : Failure → Option Text
  | .templateUnreadable _ e | .inputUnreadable e | .directoryNotMade _ e
  | .pageNotWritten _ e => some e.message
  | .badPattern _ e => some e.message
  | _ => none

def chain (f : Failure) : Text :=
  match f.cause? with
  | none => f.message
  | some cause => f.message ++ ": " ++ cause

def report (f : Failure) : Text :=
  "Error: " ++ f.message ++ "\n"
    ++ match f.cause? with
      | none => []
      | some cause => "\nCaused by:\n    " ++ cause ++ "\n"

end Failure
end CommentDocs
