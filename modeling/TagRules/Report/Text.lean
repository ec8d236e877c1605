import TagRules.Expr.Compiler
import TagRules.Report.Basic
import TagRules.Report.Style

/-!
# Reports for a terminal

The lines that are printed for an expression, a subject, a problem and an entry of the lists of
functions and keywords. A quiet form leaves out what is not a result.
-/

namespace TagRules.Display

/-- Texts with commas between them. -/
def listed (items : List String) : String :=
  ", ".intercalate items

/-- A compiled expression: its canonical text, and what is known of it unless that is not wanted. -/
def compiled (colour quiet : Bool) (c : Compiled) : String :=
  if quiet then c.expr.canonical
  else
    "\n".intercalate <|
      [Style.green.paint colour "ok" ++ " " ++ c.expr.canonical, "  level: " ++ c.level.text] ++
        (if c.followsState then ["  follows run state"] else []) ++
        (if c.keywords.isEmpty then []
          else ["  keywords: " ++ listed (c.keywords.map Keyword.text)]) ++
        c.warnings.map fun warning =>
          "  " ++ Style.yellow.paint colour "warning:" ++ " " ++ warning

/-- A message after the word for an error. -/
def error (colour : Bool) (message : String) : String :=
  Style.red.paint colour "error:" ++ " " ++ message

/-- A subject and its tags. -/
def subject (colour quiet : Bool) (name : String) (tags : List String) : String :=
  if quiet then name ++ "\t" ++ ",".intercalate tags
  else if tags.isEmpty then "  " ++ name ++ " (no tags)"
  else "  " ++ Style.bold.paint colour name ++ " [" ++ Style.cyan.paint colour (listed tags) ++ "]"

/-- A problem of a tag. -/
def problem (colour : Bool) (tag message : String) : String :=
  "  " ++ Style.yellow.paint colour "!" ++ " " ++ Style.bold.paint colour tag ++ ": " ++ message

/-- A name with a detail in a second column and, in parentheses, its other spellings. -/
def names (colour : Bool) (name : String) (aliases : List String) (detail : String) : String :=
  "  " ++ Style.green.paintPadded colour 24 name ++ " " ++ Style.dimmed.paint colour detail ++
    if aliases.isEmpty then "" else " (" ++ listed aliases ++ ")"

/-- The shape of arguments in a word. -/
def signature : Signature → String
  | .nullary => "nullary"
  | .literal => "literal"
  | .numbers => "numbers"
  | .texts => "texts"
  | .pattern => "pattern"
  | .quantity => "quantity"

/-- The lines for all functions. -/
def functions (colour : Bool) : List String :=
  Builtin.all.map fun f => names colour f.name f.aliases (signature f.signature)

/-- The lines for all keywords. -/
def keywords (colour : Bool) : List String :=
  Keyword.all.map fun k => names colour k.text k.aliases k.level.text

/-- The lines of a report. -/
def report (colour quiet : Bool) (r : Report) : List String :=
  (if quiet then [] else ["Subjects (" ++ toString r.subjects.length ++ "):"]) ++
    r.subjects.map (fun s => subject colour quiet s.name s.tags) ++
    if r.diagnostics.isEmpty || quiet then []
    else "" :: Style.yellow.paint colour "Constraint diagnostics:" ::
      r.diagnostics.map fun p => problem colour p.tag p.message

end TagRules.Display
