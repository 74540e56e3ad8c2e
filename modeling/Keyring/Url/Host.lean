import Keyring.Bytes
import Keyring.Url.Domain

/-! The host of a URL: an address in brackets, an address of numbers, or a domain. A domain is read with its escaped
bytes in place. -/
namespace Keyring.Url

/-- Puts the bytes that `%` and two digits stand for. -/
def unescape : Bytes → Bytes
  | 0x25 :: a :: b :: rest =>
    match Text.numeral? 16 [Char.ofNat a.toNat, Char.ofNat b.toNat] with
    | some n => UInt8.ofNat n :: unescape rest
    | none => 0x25 :: unescape (a :: b :: rest)
  | b :: rest => b :: unescape rest
  | [] => []

def isHost (host : List Char) : Bool :=
  match host with
  | [] => false
  | '[' :: rest => rest.getLast? == some ']' && isIpv6 rest.dropLast
  | _ =>
    match String.fromUTF8? (ByteArray.mk (unescape (host.flatMap String.utf8EncodeChar)).toArray) with
    | none => false
    | some text =>
      match domain? text.toList with
      | none => false
      | some domain => !endsInNumber domain || isIpv4 domain

end Keyring.Url
