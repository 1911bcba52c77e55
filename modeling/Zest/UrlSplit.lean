import Zest.Text

/-! # `urllib.parse.urlsplit`

Core and the Worker both take a URL apart with `urlsplit` and read the parts
off the result.  The splitting itself is written out here, step for step.

The tables it rests on are parameters: Unicode lower-casing, the NFKC check of
a network location, the literals that `ipaddress` accepts and the IDNA codec.
Nothing is assumed of them; `none` stands for the `ValueError` or
`UnicodeError` that the code catches.
-/
namespace Zest

/-- The Unicode and address tables that the URL functions call. -/
structure UrlCodecs where
  /-- `str.lower`. -/
  lower : Text → Text
  /-- `_checknetloc` passes on a network location outside ASCII. -/
  nfkcSafe : Text → Bool
  /-- `_check_bracketed_host` passes on what stands between the brackets. -/
  bracketedHost : Text → Bool
  /-- `str(ipaddress.IPv6Address(s))`. -/
  ipv6Address : Text → Option Text
  /-- `str(ipaddress.IPv4Address(s))`. -/
  ipv4Address : Text → Option Text
  /-- `s.encode("idna").decode("ascii")`. -/
  idna : Text → Option Text

/-- `urllib.parse.SplitResult`, less the query and the fragment, which nothing
here reads. -/
structure SplitResult where
  scheme : Text
  netloc : Text
  path : Text
  deriving DecidableEq, Repr

/-- `_WHATWG_C0_CONTROL_OR_SPACE`. -/
def isC0ControlOrSpace (c : Char) : Bool := c.toNat ≤ 0x20

/-- `_UNSAFE_URL_BYTES_TO_REMOVE`. -/
def isUnsafeUrlByte (c : Char) : Bool := c == '\t' || c == '\r' || c == '\n'

/-- `c.isascii() and c.isalpha()`. -/
def isAsciiAlpha (c : Char) : Bool := ('a' ≤ c && c ≤ 'z') || ('A' ≤ c && c ≤ 'Z')

/-- `scheme_chars`. -/
def isSchemeChar (c : Char) : Bool :=
  isAsciiAlpha c || ('0' ≤ c && c ≤ '9') || c == '+' || c == '-' || c == '.'

/-- The scheme of a URL, lower-cased, and what follows its colon. -/
def splitScheme (url : Text) : Text × Text :=
  let (before, found, after) := url.partition ':'
  match before with
  | c :: _ =>
    if found && isAsciiAlpha c && before.all isSchemeChar then
      (before.map Text.asciiLower, after)
    else ([], url)
  | [] => ([], url)

/-- `_splitnetloc`: up to the first of `/`, `?` and `#`. -/
def splitNetloc (url : Text) : Text × Text :=
  url.span (fun c => c != '/' && c != '?' && c != '#')

variable (L : UrlCodecs)

/-- The checks of the brackets of a network location. -/
def bracketsOk (netloc : Text) : Bool :=
  if '[' ∈ netloc ∧ ']' ∈ netloc then
    L.bracketedHost ((netloc.partition '[').2.2.partition ']').1
  else !(netloc.contains '[' || netloc.contains ']')

/-- `_checknetloc`. -/
def checkNetloc (netloc : Text) : Bool := netloc.all Text.isAscii || L.nfkcSafe netloc

/-- `urlsplit`; `none` is its `ValueError`. -/
def urlsplit (url : Text) : Option SplitResult :=
  let url := (url.dropWhile isC0ControlOrSpace).filter (fun c => !isUnsafeUrlByte c)
  let (scheme, url) := splitScheme url
  let (netloc, url) :=
    if url.startsWith "//".toList then splitNetloc (url.drop 2) else ([], url)
  if !bracketsOk L netloc then none
  else
    let url := (url.partition '#').1
    let path := (url.partition '?').1
    if !checkNetloc L netloc then none else some ⟨scheme, netloc, path⟩

namespace SplitResult

variable (parts : SplitResult)

/-- `_userinfo`: the user name and the password. -/
def userinfo : Option Text × Option Text :=
  let (info, haveInfo, _) := parts.netloc.rpartition '@'
  if haveInfo then
    let (username, havePassword, password) := info.partition ':'
    (some username, if havePassword then some password else none)
  else (none, none)

/-- `_hostinfo`: the host and the port as written. -/
def hostinfo : Text × Option Text :=
  let hostinfo := (parts.netloc.rpartition '@').2.2
  let (_, haveOpenBr, bracketed) := hostinfo.partition '['
  let (hostname, port) :=
    if haveOpenBr then
      let (hostname, _, port) := bracketed.partition ']'
      (hostname, (port.partition ':').2.2)
    else
      let (hostname, _, port) := hostinfo.partition ':'
      (hostname, port)
  (hostname, if port = [] then none else some port)

/-- `hostname`: lower-cased, but for the zone of a scoped address. -/
def hostname : Option Text :=
  if parts.hostinfo.1 = [] then none
  else
    let (hostname, percent, zone) := parts.hostinfo.1.partition '%'
    some (L.lower hostname ++ (if percent then ['%'] else []) ++ zone)

/-- `port`: `none` is its `ValueError`, `some none` a URL that names no port. -/
def port : Option (Option Nat) :=
  match parts.hostinfo.2 with
  | none => some none
  | some port =>
    if port.isDecimal ∧ port.toNat ≤ 65535 then some (some port.toNat) else none

end SplitResult
end Zest
