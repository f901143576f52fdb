import HostDiscovery.Text.Digits

/-!
# UTF-8

Texts as bytes. `encode` writes each character in the shortest form and fails
for none, as there are no lone surrogates in texts; `decode` accepts exactly
those forms. A byte sequence that is no text is refused at its
first offending byte with the longest beginning of a character found there, as
the three reasons of `Fault` distinguish.
-/
namespace HostDiscovery.Utf8

/-- The bytes of one character, between one and four of them. -/
def encodeChar (c : Char) : List UInt8 :=
  let n := c.toNat
  if n < 0x80 then [UInt8.ofNat n]
  else if n < 0x800 then [UInt8.ofNat (0xC0 + n / 64), UInt8.ofNat (0x80 + n % 64)]
  else if n < 0x10000 then
    [UInt8.ofNat (0xE0 + n / 4096), UInt8.ofNat (0x80 + n / 64 % 64),
      UInt8.ofNat (0x80 + n % 64)]
  else
    [UInt8.ofNat (0xF0 + n / 262144), UInt8.ofNat (0x80 + n / 4096 % 64),
      UInt8.ofNat (0x80 + n / 64 % 64), UInt8.ofNat (0x80 + n % 64)]

def encode (s : Text) : List UInt8 := s.flatMap encodeChar

def size (s : Text) : Nat := (encode s).length

inductive Fault
  | invalidStart
  | invalidContinuation
  | unexpectedEnd
  deriving DecidableEq, Repr

/-- Where decoding stopped: `bytes` are those refused, the first of them at `position`. -/
structure Refusal where
  fault : Fault
  position : Nat
  bytes : List UInt8
  deriving DecidableEq, Repr

def Fault.reason : Fault → String
  | .invalidStart => "invalid start byte"
  | .invalidContinuation => "invalid continuation byte"
  | .unexpectedEnd => "unexpected end of data"

def byteText (b : UInt8) : String :=
  String.ofList [Text.hexDigit (b.toNat / 16), Text.hexDigit (b.toNat % 16)]

def Refusal.message (r : Refusal) : String :=
  match r.bytes with
  | [b] =>
    s!"'utf-8' codec can't decode byte 0x{byteText b} in position {r.position}: {r.fault.reason}"
  | bytes =>
    s!"'utf-8' codec can't decode bytes in position {r.position}-{r.position + bytes.length - 1}: "
      ++ r.fault.reason

def isContinuation (b : UInt8) : Bool := 0x80 ≤ b.toNat && b.toNat < 0xC0

/-- The second byte of three: two first bytes allow only half of the continuation bytes. -/
def isSecondOfThree (first second : UInt8) : Bool :=
  isContinuation second &&
    (if first.toNat = 0xE0 then 0xA0 ≤ second.toNat
      else if first.toNat = 0xED then second.toNat < 0xA0
      else true)

/-- The second byte of four: two first bytes allow only a part of the continuation bytes. -/
def isSecondOfFour (first second : UInt8) : Bool :=
  isContinuation second &&
    (if first.toNat = 0xF0 then 0x90 ≤ second.toNat
      else if first.toNat = 0xF4 then second.toNat < 0x90
      else true)

def decodeFrom (position : Nat) : List UInt8 → Except Refusal Text
  | [] => .ok []
  | a :: rest =>
    if a.toNat < 0x80 then
      (decodeFrom (position + 1) rest).map (Char.ofNat a.toNat :: ·)
    else if a.toNat < 0xC2 then .error ⟨.invalidStart, position, [a]⟩
    else if a.toNat < 0xE0 then
      match rest with
      | [] => .error ⟨.unexpectedEnd, position, [a]⟩
      | b :: rest =>
        if isContinuation b then
          (decodeFrom (position + 2) rest).map
            (Char.ofNat (a.toNat % 32 * 64 + b.toNat % 64) :: ·)
        else .error ⟨.invalidContinuation, position, [a]⟩
    else if a.toNat < 0xF0 then
      match rest with
      | [] => .error ⟨.unexpectedEnd, position, [a]⟩
      | b :: rest =>
        if isSecondOfThree a b then
          match rest with
          | [] => .error ⟨.unexpectedEnd, position, [a, b]⟩
          | c :: rest =>
            if isContinuation c then
              (decodeFrom (position + 3) rest).map
                (Char.ofNat (a.toNat % 16 * 4096 + b.toNat % 64 * 64 + c.toNat % 64) :: ·)
            else .error ⟨.invalidContinuation, position, [a, b]⟩
        else .error ⟨.invalidContinuation, position, [a]⟩
    else if a.toNat < 0xF5 then
      match rest with
      | [] => .error ⟨.unexpectedEnd, position, [a]⟩
      | b :: rest =>
        if isSecondOfFour a b then
          match rest with
          | [] => .error ⟨.unexpectedEnd, position, [a, b]⟩
          | c :: rest =>
            if isContinuation c then
              match rest with
              | [] => .error ⟨.unexpectedEnd, position, [a, b, c]⟩
              | d :: rest =>
                if isContinuation d then
                  (decodeFrom (position + 4) rest).map
                    (Char.ofNat (a.toNat % 8 * 262144 + b.toNat % 64 * 4096
                      + c.toNat % 64 * 64 + d.toNat % 64) :: ·)
                else .error ⟨.invalidContinuation, position, [a, b, c]⟩
            else .error ⟨.invalidContinuation, position, [a, b]⟩
        else .error ⟨.invalidContinuation, position, [a]⟩
    else .error ⟨.invalidStart, position, [a]⟩

def decode (bytes : List UInt8) : Except Refusal Text := decodeFrom 0 bytes

end HostDiscovery.Utf8
