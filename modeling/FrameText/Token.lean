import FrameText.Error
import FrameText.Limits

/-!
# Tokens of a frame description

A description is a row of layers `Name(key=value, …)` with slashes between them.  This module takes
it apart, without reading any value:

1. `layerTexts` splits a description at slashes; `splitLayers` also bounds their number;
2. `LayerToken.ofText?` splits a layer into its kind and its parameter text;
3. `splitParams` splits the parameter text at commas and blanks, `splitPair` one parameter into key
   and value, and `assignments` does both;
4. `number` reads a value as a number below a bound.
-/

namespace FrameText

/-! ## Layers -/

/-- The trimmed texts between slashes, without the empty ones. -/
def layerTexts (text : Text) : List Text :=
  ((text.splitOn '/').map Text.trim).filter (!·.isEmpty)

/-- The layers of a description, of which there may be at most `max`. -/
def splitLayers (text : Text) (max : Nat) : Except Error (List Text) :=
  let layers := layerTexts text
  if max < layers.length then .error (.tooManyLayers max) else .ok layers

/-- Reads the name of a layer kind; blanks around it do not count. -/
def LayerKind.parse (s : Text) : Except Error LayerKind :=
  match LayerKind.ofName? (Text.trim s) with
  | some kind => .ok kind
  | none => .error (.unknownLayer s)

/-- A layer whose parameters have not been read yet. -/
structure LayerToken where
  kind : LayerKind
  /-- Everything behind the name, the opening parenthesis included. -/
  params : Text
  deriving DecidableEq, Repr

namespace LayerToken

/-- Reads the layer as one of this kind: its name in any case, then an opening parenthesis. -/
def ofKind? (kind : LayerKind) (text : Text) : Option LayerToken :=
  let params := text.drop kind.name.length
  if Text.sameIgnoringCase (text.take kind.name.length) kind.name ∧ params.head? = some '(' then
    some ⟨kind, params⟩
  else
    none

/-- Reads the layer as one of the kinds in the list. -/
def ofKinds? (kinds : List LayerKind) (text : Text) : Option LayerToken :=
  kinds.findSome? fun kind => ofKind? kind text

/-- Splits a layer into its kind and its parameter text. -/
def ofText? (text : Text) : Option LayerToken :=
  ofKinds? LayerKind.all text

end LayerToken

/-! ## Parameters -/

/-- The trimmed text between one opening and one closing parenthesis, each of which may be
missing. -/
def stripParens (params : Text) : Text :=
  let inner := Text.trim params
  let inner := (Text.stripStart? ['('] inner).getD inner
  Text.trim ((Text.stripEnd? [')'] inner).getD inner)

/-- Whether a character separates parameters. -/
def separatesParams (c : Char) : Bool :=
  c == ',' || Text.isBlank c

/-- The parameters of a layer, of which there may be at most `max`. -/
def splitParams (params : Text) (max : Nat) : Except Error (List Text) :=
  let inner := stripParens params
  let tokens := (inner.splitOnP separatesParams).filter (!·.isEmpty)
  if max < tokens.length then .error (.tooManyParams inner max) else .ok tokens

/-- The key and the value of a parameter; both have to be there. -/
def splitPair (param : Text) : Except Error (Text × Text) :=
  match (param.splitOn '=').map Text.trim with
  | [key, value] =>
    if key = [] ∨ value = [] then .error (.keyValue param) else .ok (key, value)
  | _ => .error (.keyValue param)

/-- The keys and values of a layer. -/
def assignments (params : Text) : Except Error (List (Text × Text)) := do
  (← splitParams params Limits.maxParams).mapM splitPair

/-! ## Values -/

/-- Reads a value as a number below `bound`. -/
def number (bound : Nat) (key value : Text) : Except Error Nat :=
  let value := Text.trim value
  match Text.number? Limits.wordBound value with
  | none => .error (.invalidValue key value .notANumber)
  | some n =>
    if n < bound then .ok n else .error (.invalidValue key value .outOfRange)

/-- Reads an eight-bit value. -/
def uint8 (key value : Text) : Except Error UInt8 :=
  (number 0x100 key value).map UInt8.ofNat

/-- Reads a 16-bit value. -/
def uint16 (key value : Text) : Except Error UInt16 :=
  (number 0x10000 key value).map UInt16.ofNat

/-- Reads a 32-bit value. -/
def uint32 (key value : Text) : Except Error UInt32 :=
  (number 0x100000000 key value).map UInt32.ofNat

/-- Reads a 64-bit value. -/
def uint64 (key value : Text) : Except Error UInt64 :=
  (number Limits.wordBound key value).map UInt64.ofNat

/-- Reads an address with `read?`. -/
def address {α : Type} (read? : Text → Option α) (key value : Text) : Except Error α :=
  match read? (Text.trim value) with
  | some a => .ok a
  | none => .error (.invalidValue key value .notAnAddress)

end FrameText
