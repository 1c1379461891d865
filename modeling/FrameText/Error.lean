import FrameText.LayerKind
import FrameText.Text.Quoted

/-!
# Errors

Everything that can go wrong with a frame, its description or the store, as causes, and the one
place where they are put into words.
-/

namespace FrameText

/-- Why the value of a key is refused. -/
inductive ValueFault where
  | notANumber
  | outOfRange
  | notAProtocol
  | notAnAddress
  | macOctetLength
  | macOctetDigits
  | macGroupLength
  | macGroupDigits
  | macShape
  | shortEscape
  | badEscape
  | unknownEscape
  deriving DecidableEq, Repr

/-- Why a frame description cannot be read. -/
inductive ParseFault where
  /-- The description has no layer. -/
  | noLayers
  /-- A payload is given two sizes. -/
  | payloadSizedTwice
  /-- The frame of this name has an empty description. -/
  | noText (frame : Text)
  deriving DecidableEq, Repr

/-- Why a text is not a row of hexadecimal pairs. -/
inductive HexFault where
  /-- The last pair is not complete. -/
  | oddLength
  /-- The byte at this position is no digit. -/
  | badDigit (byte : UInt8) (position : Nat)
  deriving DecidableEq, Repr

/-- Why a file cannot be read. -/
inductive FileFault where
  | notFound
  | notUtf8
  deriving DecidableEq, Repr

/-- What can go wrong. -/
inductive Error where
  | file (fault : FileFault)
  | parse (fault : ParseFault)
  /-- No layer kind has this name. -/
  | unknownLayer (token : Text)
  /-- The layer has no such parameter. -/
  | invalidKey (layer : LayerKind) (key : Text)
  | invalidValue (key value : Text) (fault : ValueFault)
  /-- Not of the form `key=value`. -/
  | keyValue (param : Text)
  | tooManyLayers (max : Nat)
  | tooManyParams (text : Text) (max : Nat)
  | textTooLong (length max : Nat)
  | bufferOverflow (need capacity : Nat)
  /-- A VLAN tag directly in front of another of its kind. -/
  | repeatedTag (tag : LayerKind)
  /-- The data ends inside a header. -/
  | truncated (layer : LayerKind) (need available : Nat)
  | invalidHex (fault : HexFault)
  | invalidName (name : Text)
  | notFound (name : Text)
  | alreadyExists (name : Text)
  deriving DecidableEq, Repr

/-! ## Words -/

/-- The reason in words. -/
def ValueFault.message : ValueFault → Text
  | notANumber => "not a number".toList
  | outOfRange => "out of range".toList
  | notAProtocol => "expected udp, tcp or 0-255".toList
  | notAnAddress => "invalid address".toList
  | macOctetLength => "octet must be 1 or 2 hex digits".toList
  | macOctetDigits => "invalid hex octet".toList
  | macGroupLength => "group must be 1 to 4 hex digits".toList
  | macGroupDigits => "invalid hex group".toList
  | macShape => "expected 6 octets or 3 groups".toList
  | shortEscape => "short \\x escape".toList
  | badEscape => "bad \\x escape".toList
  | unknownEscape => "unknown escape".toList

/-- The reason in words. -/
def ParseFault.message : ParseFault → Text
  | noLayers => "frame text has no layers".toList
  | payloadSizedTwice => "Payload: size and append are mutually exclusive".toList
  | noText frame => "frame '".toList ++ frame ++ "' has no text".toList

/-- The reason in words; a byte that is no digit is shown as the character with its number. -/
def HexFault.message : HexFault → Text
  | oddLength => "Odd number of digits".toList
  | badDigit byte position =>
    "Invalid character ".toList ++ Text.quotedSingle (Char.ofNat byte.toNat) ++
      " at position ".toList ++ Text.decimal position

/-- The reason in words. -/
def FileFault.message : FileFault → Text
  | notFound => "No such file or directory (os error 2)".toList
  | notUtf8 => "stream did not contain valid UTF-8".toList

namespace Error

open Text (decimal)

/-- The error in words. -/
def message : Error → Text
  | file fault => "I/O error: ".toList ++ fault.message
  | parse fault => "Parse error: ".toList ++ fault.message
  | unknownLayer token => "Unknown layer '".toList ++ token ++ "'".toList
  | invalidKey layer key => layer.name ++ ": Invalid key '".toList ++ key ++ "'".toList
  | invalidValue key value fault =>
    "Invalid value '".toList ++ value ++ "' for key '".toList ++ key ++ "': ".toList ++
      fault.message
  | keyValue param => "Invalid key/value pair '".toList ++ param ++ "'".toList
  | tooManyLayers max => "Too many layers, maximum is ".toList ++ decimal max
  | tooManyParams text max =>
    "Too many parameters in '".toList ++ text ++ "', maximum is ".toList ++ decimal max
  | textTooLong length max =>
    "Text length ".toList ++ decimal length ++ " exceeds maximum ".toList ++ decimal max
  | bufferOverflow need capacity =>
    "Frame buffer overflow: need ".toList ++ decimal need ++ " bytes, capacity ".toList ++
      decimal capacity
  | repeatedTag tag =>
    "Invalid layer sequence: ".toList ++ tag.name ++ " cannot be followed by ".toList ++ tag.name
  | truncated layer need available =>
    layer.name ++ " header truncated: need ".toList ++ decimal need ++ " bytes, ".toList ++
      decimal available ++ " available".toList
  | invalidHex fault => "Invalid hex string: ".toList ++ fault.message
  | invalidName name => "Invalid frame name '".toList ++ name ++ "'".toList
  | notFound name => "Frame not found: ".toList ++ name
  | alreadyExists name => "Frame already exists: ".toList ++ name

/-- Whether the words of a frame description are at fault, rather than its size or order. -/
def isParseError : Error → Bool
  | parse _ | unknownLayer _ | invalidKey _ _ | invalidValue _ _ _ | keyValue _ => true
  | _ => false

end Error

end FrameText
