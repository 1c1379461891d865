import FrameText.Frame
import FrameText.Token

/-!
# Listings

A frame description with one layer per line, under a title.
-/

namespace FrameText

/-- The line of a layer. -/
def layerLine (layer : Text) : Text :=
  "   ".toList ++ layer ++ ['\n']

/-- The layers of a description, one per line, under a title. -/
def layerListing (title text : Text) : Text :=
  ">>>> ".toList ++ title ++ " <<<<\n".toList ++ (layerTexts text).flatMap layerLine

/-- The listing of a frame's description. -/
def Frame.listing (frame : Frame) : Text :=
  layerListing frame.name frame.text

/-! ## Diagnostic form -/

/-- An optional number as it is shown in diagnostics. -/
def numberOption : Option Nat → Text
  | some n => "Some(".toList ++ Text.decimal n ++ ")".toList
  | none => "None".toList

/-- An optional extent as it is shown in diagnostics. -/
def extentOption : Option Extent → Text
  | some extent =>
    "Some(HeaderExtent \x7b offset: ".toList ++ Text.decimal extent.offset ++
      ", length: ".toList ++ Text.decimal extent.length ++ " \x7d)".toList
  | none => "None".toList

/-- A frame on one line, without its bytes. -/
def Frame.describe (frame : Frame) : Text :=
  "Frame \x7b name: ".toList ++ Text.quoted frame.name ++
    ", text: ".toList ++ Text.quoted frame.text ++
    ", data_len: ".toList ++ Text.decimal frame.dataLen ++
    ", capacity: ".toList ++ Text.decimal frame.capacity ++
    ", tsc_offset: ".toList ++ numberOption frame.tscOffset ++
    ", l2: ".toList ++ extentOption frame.l2 ++
    ", l3: ".toList ++ extentOption frame.l3 ++
    ", l4: ".toList ++ extentOption frame.l4 ++ " \x7d".toList

end FrameText
