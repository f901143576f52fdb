import HostDiscovery.Text.Pattern
import HostDiscovery.Value

/-!
# Dotted quads

The lenient syntax of IPv4 addresses: four octets from 0 to 255 with one point
between each two. An octet has one to three ASCII digits and may have leading
zeros. Nothing is resolved or contacted.
-/
namespace HostDiscovery.DottedQuad

open Pattern

def digitIn (low high : Char) : Pattern := one fun c => low.toNat ≤ c.toNat && c.toNat ≤ high.toNat

/-- Up to 199, with or without leading zeros; or 200 to 249; or 250 to 255. -/
def octet : Pattern :=
  orElse (andThen (optional (digitIn '0' '1')) (andThen digit (optional digit)))
    (orElse (andThen (char '2') (andThen (digitIn '0' '4') digit))
      (andThen (char '2') (andThen (char '5') (digitIn '0' '5'))))

def quad : Pattern :=
  andThen octet (andThen (char '.') (andThen octet (andThen (char '.')
    (andThen octet (andThen (char '.') octet)))))

def isWellFormed (s : Text) : Bool := matchesFully quad s

/-- The check on an untyped value; only a text can be well formed. -/
def valueIsWellFormed : Value → Bool
  | .text s => isWellFormed s.toList
  | _ => false

end HostDiscovery.DottedQuad
