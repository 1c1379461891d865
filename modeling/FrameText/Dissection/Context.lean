import FrameText.Dissection.Fragment

/-!
# Dissection contexts

A context keeps the text of the last frame that was dissected with it.

* `TextBuffer` is text that grows piece by piece.  It keeps some room free behind the text, and
  refuses a piece that would take it to the hard limit.
* `DecodeContext.decode` forgets the last text, dissects data, and keeps the new text if there is
  one.
-/

namespace FrameText

/-- Text, and the room that has been set aside for it.  The text is ASCII, so that its characters
are its bytes. -/
structure TextBuffer where
  text : Text := []
  room : Nat := 0
  deriving DecidableEq, Repr

namespace TextBuffer

/-- Adds a piece of text.  More room is made when the piece and the slack behind it do not fit. -/
def append (buffer : TextBuffer) (piece : Text) : Except Error TextBuffer :=
  let need := buffer.text.length + piece.length + Limits.textSlack
  if need < buffer.room then
    .ok { buffer with text := buffer.text ++ piece }
  else if Limits.maxDissectionText ≤ need then
    .error (.textTooLong need Limits.maxDissectionText)
  else
    .ok { text := buffer.text ++ piece, room := max need Limits.textStartRoom }

/-- Adds pieces of text in order. -/
def appendAll (buffer : TextBuffer) (pieces : List Text) : Except Error TextBuffer :=
  pieces.foldlM append buffer

end TextBuffer

/-- Writes the text of a frame of this length.  The pieces in front of the place where the data ends
too early are written before that is reported. -/
def Dissection.write (dissection : Dissection) (length : Nat) (buffer : TextBuffer) :
    Except Error TextBuffer := do
  let buffer ← buffer.appendAll dissection.headerTexts
  let rest ← dissection.rest
  buffer.appendAll (closingTexts length rest)

/-- The text of the last frame that was dissected. -/
structure DecodeContext where
  buffer : TextBuffer := {}
  /-- Whether the buffer holds the text of a whole frame. -/
  valid : Bool := false
  deriving DecidableEq, Repr

namespace DecodeContext

/-- The text of the last call, if it was a dissection and succeeded. -/
def text? (context : DecodeContext) : Option Text :=
  if context.valid then some context.buffer.text else none

/-- Forgets the text. -/
def clear (_ : DecodeContext) : DecodeContext := {}

/-- Dissects data that starts with a layer of the given kind. -/
def decode (context : DecodeContext) (data : Bytes) (start : LayerKind) :
    Except Error Text × DecodeContext :=
  let cleared := context.clear
  if data = [] then
    (.error (.truncated start 1 0), cleared)
  else
    match (Dissection.ofBytes (.ofKind start) data).write data.length cleared.buffer with
    | .error e => (.error e, cleared)
    | .ok buffer => (.ok buffer.text, { buffer := buffer, valid := true })

end DecodeContext

/-- The description of data that starts with a layer of the given kind. -/
def decode (data : Bytes) (start : LayerKind) : Except Error Text :=
  (DecodeContext.decode {} data start).1

end FrameText
