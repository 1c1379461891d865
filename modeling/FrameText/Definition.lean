import FrameText.Event
import FrameText.Text.Blank

/-!
# Frame definitions

* A definition file has lines `Name := layer/layer/…`.  The description of a frame goes on over the
  lines that follow, up to the next line with `:=`; a slash joins the lines.  Everything behind `//`
  on a line is a comment.
* A definition string is one description, with or without `Name :=` in front.
-/

namespace FrameText

/-- A frame that is defined in a file or string. -/
structure Definition where
  /-- The name in front of `:=`, if there is one. -/
  name : Option Text
  text : Text
  deriving DecidableEq, Repr

/-- A trimmed text unless nothing is left of it. -/
def nonBlank? (s : Text) : Option Text :=
  if Text.trim s = [] then none else some (Text.trim s)

/-- A line without its comment. -/
def stripComment (line : Text) : Text :=
  match Text.cut? "//".toList line with
  | some (before, _) => before
  | none => line

/-! ## Lines of a definition file -/

/-- A line that says something. -/
inductive DefinitionLine where
  /-- Starts a definition. -/
  | opening (name : Option Text) (text : Text)
  /-- Goes on with the definition above. -/
  | continuation (text : Text)
  deriving DecidableEq, Repr

/-- Reads a line; nothing is left of a blank line or a comment. -/
def DefinitionLine.ofText? (line : Text) : Option DefinitionLine :=
  let line := Text.trim (stripComment line)
  if line = [] then
    none
  else
    match Text.cut? ":=".toList line with
    | some (name, text) => some (.opening (nonBlank? name) (Text.trim text))
    | none => some (.continuation line)

/-- The lines of a file that say something. -/
def definitionLines (content : Text) : List DefinitionLine :=
  (content.splitOn '\n').filterMap DefinitionLine.ofText?

namespace Definition

/-- The definition with another line of layers behind it. -/
def push (definition : Definition) (line : Text) : Definition :=
  let text := definition.text
  if line = [] then
    definition
  else if text = [] ∨ text.getLast? = some '/' then
    { definition with text := text ++ line }
  else
    { definition with text := text ++ '/' :: line }

/-- The definition without the slashes at its end, if anything is left. -/
def finish (definition : Definition) : Option Definition × List Event :=
  let text := (definition.text.reverse.dropWhile (· == '/')).reverse
  if text = [] then
    (none, [⟨.warn, .definitionSkipped definition.name⟩])
  else
    (some { definition with text := text }, [])

/-- Gathers lines into definitions; `current` is the definition that the next line may go on with.
Lines in front of the first definition belong to no frame. -/
def gather (current : Option Definition) : List DefinitionLine → List Definition × List Event
  | [] =>
    match current with
    | none => ([], [])
    | some definition => (definition.finish.1.toList, definition.finish.2)
  | .opening name text :: rest =>
    let later := gather (some (push ⟨name, []⟩ text)) rest
    match current with
    | none => later
    | some definition => (definition.finish.1.toList ++ later.1, definition.finish.2 ++ later.2)
  | .continuation line :: rest =>
    match current with
    | none =>
      let later := gather none rest
      (later.1, ⟨.warn, .strayLine line⟩ :: later.2)
    | some definition => gather (some (definition.push line)) rest

/-- Reads a definition file. -/
def parseFile (content : Text) : List Definition × List Event :=
  gather none (definitionLines content)

/-- Reads a definition string. -/
def parse (s : Text) : Except Error Definition :=
  match Text.cut? ":=".toList s with
  | none => .ok ⟨none, Text.trim s⟩
  | some (name, text) =>
    if Text.trim text = [] then .error (.invalidName s) else .ok ⟨nonBlank? name, Text.trim text⟩

end Definition

end FrameText
