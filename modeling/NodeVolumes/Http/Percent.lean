import NodeVolumes.Json.Reader
import NodeVolumes.Text.Utf8

/-!
# Percent notation

Bytes written as a percent sign and two hexadecimal digits.  Which characters of a text are
written so depends on the place in a URL where the text stands; characters beyond ASCII and
control characters always are.
-/

namespace NodeVolumes.Http.Percent

def upperHex (n : Nat) : Char :=
  (Nat.digitChar (n % 16)).toUpper

def escapeByte (b : UInt8) : List Char :=
  ['%', upperHex (b.toNat / 16), upperHex b.toNat]

def isOutside (c : Char) : Bool :=
  c.toNat < 0x20 || 0x7E < c.toNat

/-- A character, in percent notation if it is in the set or cannot stand for itself. -/
def encodeChar (set : Char → Bool) (c : Char) : List Char :=
  if set c || isOutside c then (String.utf8EncodeChar c).flatMap escapeByte else [c]

def encode (set : Char → Bool) (cs : List Char) : List Char :=
  cs.flatMap (encodeChar set)

@[simp] theorem encode_cons (set : Char → Bool) (c : Char) (cs : List Char) :
    encode set (c :: cs) = encodeChar set c ++ encode set cs := rfl

/-- The bytes of characters with percent notation resolved; a lone percent sign is itself. -/
def decodeBytes : List Char → List UInt8
  | [] => []
  | '%' :: a :: b :: rest =>
      match Json.hexValue? a, Json.hexValue? b with
      | some x, some y => (x * 16 + y).toUInt8 :: decodeBytes rest
      | _, _ => 0x25 :: decodeBytes (a :: b :: rest)
  | c :: rest => String.utf8EncodeChar c ++ decodeBytes rest

def decode (cs : List Char) : String :=
  Text.decodeLossy (decodeBytes cs)

/-! ## What is escaped where -/

def inFragment (c : Char) : Bool :=
  c == ' ' || c == '"' || c == '<' || c == '>' || c == '\x60'

/-- Escaped in queries; those of well-known schemes escape the single quote too. -/
def inQuery (special : Bool) (c : Char) : Bool :=
  c == ' ' || c == '"' || c == '#' || c == '<' || c == '>' || (special && c == '\'')

def inPath (c : Char) : Bool :=
  inFragment c || c == '#' || c == '?' || c == '\x7b' || c == '\x7d'

def inSegment (special : Bool) (c : Char) : Bool :=
  inPath c || c == '/' || c == '%' || (special && c == '\\')

def inUserinfo (c : Char) : Bool :=
  inPath c || c == '/' || c == ':' || c == ';' || c == '=' || c == '@' || c == '[' || c == '\\' ||
    c == ']' || c == '^' || c == '|'

/-! ## Forms -/

def isPlainInForm (b : UInt8) : Bool :=
  (Char.ofNat b.toNat).isAlphanum || b == 0x2A || b == 0x2D || b == 0x2E || b == 0x5F

/-- A byte of a form: letters, digits and `*-._` are themselves, a space is a plus sign. -/
def formByte (b : UInt8) : List Char :=
  if isPlainInForm b then [Char.ofNat b.toNat]
  else if b = 0x20 then ['+']
  else escapeByte b

def formEncode (s : String) : List Char :=
  (Text.utf8Bytes s).flatMap formByte

def formDecode (cs : List Char) : String :=
  decode (cs.map fun c => if c = '+' then ' ' else c)

def formPair (name value : String) : List Char :=
  formEncode name ++ '=' :: formEncode value

end NodeVolumes.Http.Percent
