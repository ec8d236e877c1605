/-!
# Styled text

Text on a terminal is styled by an escape sequence in front and a reset behind. A reset within the
text would end the style early, so the style is set again after it. Without colours text stays as it
is.
-/

namespace TagRules

/-- A colour or a weight. -/
inductive Style where
  | bold
  | dimmed
  | red
  | green
  | yellow
  | cyan
deriving DecidableEq, Repr

namespace Style

/-- The number of a style. -/
def code : Style → String
  | bold => "1"
  | dimmed => "2"
  | red => "31"
  | green => "32"
  | yellow => "33"
  | cyan => "36"

/-- What begins a style. -/
def opening (style : Style) : List Char :=
  '\x1b' :: '[' :: style.code.toList ++ ['m']

/-- What ends every style. -/
def reset : List Char :=
  ['\x1b', '[', '0', 'm']

/-- Begin a style again after each reset. -/
def resume (opening : List Char) : List Char → List Char
  | '\x1b' :: '[' :: '0' :: 'm' :: rest => reset ++ opening ++ resume opening rest
  | c :: rest => c :: resume opening rest
  | [] => []

/-- Fill up with spaces to a width in characters. -/
def padded (width : Nat) (s : List Char) : List Char :=
  s ++ List.replicate (width - s.length) ' '

/-- A text in a style and at least of a width, where colours are used. -/
def paintPadded (style : Style) (colour : Bool) (width : Nat) (text : String) : String :=
  String.ofList <|
    if colour then style.opening ++ padded width (resume style.opening text.toList) ++ reset
    else padded width text.toList

/-- A text in a style, where colours are used. -/
def paint (style : Style) (colour : Bool) (text : String) : String :=
  style.paintPadded colour 0 text

@[simp] theorem paint_false (style : Style) (text : String) : style.paint false text = text := by
  simp [paint, paintPadded, padded]

end Style

end TagRules
