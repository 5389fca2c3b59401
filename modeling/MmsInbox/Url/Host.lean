import MmsInbox.Domain.Name
import MmsInbox.Url.Error
import MmsInbox.Url.Ipv4
import MmsInbox.Url.Ipv6
import MmsInbox.Url.Percent

namespace MmsInbox.Url

/-!
# Hosts

A host is an address between brackets, an IPv4 address or a name. The names of special schemes are
domain names; those of other schemes are kept as they are.
-/

/-- A host. -/
inductive Host where
  | empty
  | name (text : String)
  | ipv4 (address : Nat)
  | ipv6 (pieces : List Nat)
  deriving Repr, DecidableEq

namespace Host

/-- A host as it is written. -/
def text : Host → String
  | .empty => ""
  | .name text => text
  | .ipv4 address => ipv4Text address
  | .ipv6 pieces => "[" ++ ipv6Text pieces ++ "]"

/-- Read what stands between brackets. -/
def ofBracketed (text : List Char) : Except UrlError Host :=
  if text.getLast? = some ']' then
    match ipv6? text.dropLast with
    | some pieces => .ok (.ipv6 pieces)
    | none => .error .invalidIpv6
  else .error .invalidIpv6

/-- Read the host of a special scheme, which is not empty. -/
def ofSpecial (text : List Char) : Except UrlError Host :=
  match text with
  | '[' :: rest => ofBracketed rest
  | _ =>
      match (percentDecodedText? text).bind Domain.ascii? with
      | none => .error .invalidDomainName
      | some [] => .error .emptyHost
      | some domain =>
          if endsInNumber domain then
            match ipv4? domain with
            | some address => .ok (.ipv4 address)
            | none => .error .invalidIpv4
          else .ok (.name (String.ofList domain))

/-- The characters that no host of another scheme may hold. -/
def isForbidden (c : Char) : Bool :=
  "\x00\t\n\r #/:<>?@[\\]^|".contains c

/-- Read the host of another scheme. -/
def ofPlain (text : List Char) : Except UrlError Host :=
  match text with
  | [] => .ok .empty
  | '[' :: rest => ofBracketed rest
  | _ =>
      if text.any isForbidden then .error .invalidDomainCharacter
      else .ok (.name (String.ofList (percentEncode inControls text)))

end Host

end MmsInbox.Url
