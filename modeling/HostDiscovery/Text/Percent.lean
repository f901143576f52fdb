import HostDiscovery.Text.Quoted
import HostDiscovery.Text.Utf8
import HostDiscovery.Text.Word

/-!
# Percent encoding

A character that has no place in a URL is written as the bytes of its UTF-8
form, each byte as a percent sign and two hexadecimal digits. `encode` leaves
the safe characters as they are, and `decode` reads the bytes back; bytes that
are no UTF-8 become the replacement character.
-/
namespace HostDiscovery.Percent

open Text

def encodeByte (b : UInt8) : Text := '%' :: (hexDigits 2 b.toNat).map Char.toUpper

/-- The text with every character that is not safe as its bytes. -/
def encode (isSafe : Char → Bool) (s : Text) : Text :=
  s.flatMap fun c => if isSafe c then [c] else (Utf8.encodeChar c).flatMap encodeByte

/-- The text of bytes; `fuel` bounds the number of places that are no UTF-8. -/
def textWithin : (fuel : Nat) → List UInt8 → Text
  | 0, _ => []
  | fuel + 1, bytes =>
    match Utf8.decode bytes with
    | .ok s => s
    | .error r =>
      (Utf8.decode (bytes.take r.position)).toOption.getD [] ++
        '\uFFFD' :: textWithin fuel (bytes.drop (r.position + r.bytes.length))

def textOfBytes (bytes : List UInt8) : Text := textWithin (bytes.length + 1) bytes

/-- Bytes read so far, the last one first, and the rest of a text. -/
def decodeAfter (bytes : List UInt8) : Text → Text
  | [] => textOfBytes bytes.reverse
  | c :: rest =>
    if 128 ≤ c.toNat then textOfBytes bytes.reverse ++ c :: decodeAfter [] rest
    else
      match c, rest with
      | '%', a :: b :: rest =>
        match hexDigit? a, hexDigit? b with
        | some m, some n => decodeAfter (UInt8.ofNat (16 * m + n) :: bytes) rest
        | _, _ => decodeAfter (UInt8.ofNat c.toNat :: bytes) (a :: b :: rest)
      | c, rest => decodeAfter (UInt8.ofNat c.toNat :: bytes) rest

def decode (s : Text) : Text := decodeAfter [] s

/-- Letters, digits and four marks, which never need an escape. -/
def isUnreserved (c : Char) : Bool := c.isAlphanum || "-._~".toList.contains c

/-- Signs that have a meaning in a URL, and the tilde. -/
def isReserved (c : Char) : Bool := "!#$&'()*+,/:;=?@[]~".toList.contains c

/-- A letter or numeral of any script. -/
def isAlphanumeric (c : Char) : Bool := isWord c && c ≠ '_'

/-- A hexadecimal digit, or a decimal one of any script. -/
def anyHexDigit? (c : Char) : Option Nat :=
  match hexDigit? c with
  | some d => some d
  | none => digitValue? c

/-- The text without escapes of unreserved characters, unless there is a percent sign in front of
two letters or numerals that are no digits. -/
def unescaped? : Text → Option Text
  | [] => some []
  | '%' :: a :: b :: rest =>
    if isAlphanumeric a && isAlphanumeric b then
      match anyHexDigit? a, anyHexDigit? b with
      | some m, some n =>
        let c := Char.ofNat (16 * m + n)
        (unescaped? rest).map fun rest =>
          if isUnreserved c then c :: rest else '%' :: a :: b :: rest
      | _, _ => none
    else (unescaped? (a :: b :: rest)).map ('%' :: ·)
  | c :: rest => (unescaped? rest).map (c :: ·)

def normal (s : Text) : Text :=
  match unescaped? s with
  | some s => encode (fun c => isUnreserved c || isReserved c || c == '%') s
  | none => encode (fun c => isUnreserved c || isReserved c) s

end HostDiscovery.Percent
