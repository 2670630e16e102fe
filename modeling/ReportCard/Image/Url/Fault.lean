import ReportCard.Image.Url.Label

/-!
# Faults of addresses

The reasons why a text is no address on the web, and their wording.
-/

namespace ReportCard

/-- Why a text is no address. -/
inductive UrlFault where
  /-- More characters than are read. -/
  | tooLong
  /-- A control character of ASCII, where it stands first. -/
  | unprintable (c : Char) (position : Nat)
  /-- A control character of ASCII in a fragment that is carried over. -/
  | unprintableFragment (c : Char) (position : Nat)
  /-- A host of four numbers that are not four bytes. -/
  | invalidIPv4 (host : String)
  /-- A host in square brackets that is no address of eight pairs of bytes. -/
  | invalidIPv6 (host : String)
  /-- A host outside ASCII that is no name. -/
  | invalidName (host : String)
  /-- A host in Punycode that stands for no name. -/
  | undecodable (fault : LabelFault)
  /-- One of two square brackets. -/
  | unpairedBracket
  /-- An address of a later version than six without its version or without itself. -/
  | invalidFuture
  /-- An address of four bytes in square brackets. -/
  | bracketedIPv4
  /-- What stands in square brackets and is no address. -/
  | noAddress (host : String)
  /-- A port that is no whole number. -/
  | invalidPort (port : String)
  /-- A host with a path that does not begin at the root. -/
  | rootless
  /-- A path that begins like a host. -/
  | slashes
  /-- A path that begins like the end of a scheme. -/
  | colon
  /-- A redirection to what is no address. -/
  | inLocation (fault : UrlFault)
deriving Repr, DecidableEq

namespace UrlFault

/-- The wording of a fault. -/
def message : UrlFault → String
  | tooLong => "URL too long"
  | unprintable c position => "Invalid non-printable ASCII character in URL, " ++
      Text.quoted (String.singleton c) ++ " at position " ++ toString position ++ "."
  | unprintableFragment c position => "Invalid non-printable ASCII character in URL fragment component, " ++
      Text.quoted (String.singleton c) ++ " at position " ++ toString position ++ "."
  | invalidIPv4 host => "Invalid IPv4 address: " ++ Text.quoted host
  | invalidIPv6 host => "Invalid IPv6 address: " ++ Text.quoted host
  | invalidName host => "Invalid IDNA hostname: " ++ Text.quoted host
  | undecodable fault => fault.message
  | unpairedBracket => "Invalid IPv6 URL"
  | invalidFuture => "IPvFuture address is invalid"
  | bracketedIPv4 => "An IPv4 address cannot be in brackets"
  | noAddress host => Text.quoted host ++ " does not appear to be an IPv4 or IPv6 address"
  | invalidPort port => "Invalid port: " ++ Text.quoted port
  | rootless => "For absolute URLs, path must be empty or begin with '/'"
  | slashes => "Relative URLs cannot have a path starting with '//'"
  | colon => "Relative URLs cannot have a path starting with ':'"
  | inLocation fault => "Invalid URL in location header: " ++ fault.message ++ "."

end UrlFault

end ReportCard
