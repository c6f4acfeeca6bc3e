import Chaft.Domain.Identifiers
import Chaft.Library.Text

/-!
# Avatar IDs and peer endpoint hints

The two small languages of texts that event validation recognizes: avatar IDs
with their built-in `relay-v1` family, and the endpoint hints under which a
device can be reached.
-/

namespace Chaft

open Text

/-! ## Avatar IDs -/

inductive AvatarIdValidationError where
  | tooLarge (actualBytes maxBytes : Nat)
  | invalidCharacters
  | invalidRelayV1
  deriving DecidableEq, Repr

def parseRelayAvatarComponent (value : List Char) (initial : Char) : Option Nat :=
  match value with
  | [first, tens, units] =>
      if first = initial ∧ tens.isDigit ∧ units.isDigit then
        some ((tens.toNat - '0'.toNat) * 10 + (units.toNat - '0'.toNat))
      else
        none
  | _ => none

def parseRelayAvatarId (value : List Char) : Option (Nat × Nat × Nat) :=
  match (stripPrefix "relay-v1:".toList value).map (List.splitOn ':') with
  | some [groupText, patternText, colorText] => do
      let group ← parseRelayAvatarComponent groupText 'g'
      let pattern ← parseRelayAvatarComponent patternText 'p'
      let color ← parseRelayAvatarComponent colorText 'c'
      if relayAvatarGroupCount ≤ group ∨ relayAvatarPatternCount ≤ pattern ∨
          relayAvatarColorCount ≤ color then
        none
      else
        some (group, pattern, color)
  | _ => none

def isAvatarIdCharacter (symbol : Char) : Bool :=
  ('a' ≤ symbol && symbol ≤ 'z') || symbol.isDigit ||
    symbol == ':' || symbol == '_' || symbol == '-'

def validateAvatarIdStr (value : String) : Except AvatarIdValidationError Unit :=
  if avatarIdMaxBytes < value.utf8ByteSize then
    .error (.tooLarge value.utf8ByteSize avatarIdMaxBytes)
  else if ¬ value.toList.all isAvatarIdCharacter then
    .error .invalidCharacters
  else if "relay-v1:".toList.isPrefixOf value.toList ∧
      (parseRelayAvatarId value.toList).isNone then
    .error .invalidRelayV1
  else
    .ok ()

/-! ## Peer endpoint hints -/

inductive SupportedPeerEndpointHintRoute where
  | directTcp
  | nativeIrohDirect
  | nativeIrohRelay
  | nativeIrohDiscovery
  deriving DecidableEq, Repr

namespace SupportedPeerEndpointHintRoute

/-- The label that names a route alone; the native routes also go by `iroh`. -/
def primaryTransportLabel : SupportedPeerEndpointHintRoute → String
  | directTcp => "direct-tcp"
  | nativeIrohDirect => "iroh-direct"
  | nativeIrohRelay => "iroh-relay"
  | nativeIrohDiscovery => "iroh-discovery"

def allowsTransportLabel
    (route : SupportedPeerEndpointHintRoute) (transport : String) : Bool :=
  let transport := trim transport.toList
  match route with
  | directTcp => transport == "direct-tcp".toList
  | nativeIrohDirect =>
      transport == "iroh".toList || transport == "iroh-direct".toList
  | nativeIrohRelay =>
      transport == "iroh".toList || transport == "iroh-relay".toList
  | nativeIrohDiscovery =>
      transport == "iroh".toList || transport == "iroh-discovery".toList

end SupportedPeerEndpointHintRoute

def directTcpHostIsValid (host : List Char) : Bool :=
  !host.isEmpty && host.all fun symbol =>
    symbol.isAlphanum || symbol == '.' || symbol == '-' || symbol == '_'

def validTcpPort (port : List Char) (allowZeroPort : Bool) : Bool :=
  !port.isEmpty && port.all Char.isDigit &&
    let value := digitsValue 10 (port.filterMap (toDigit 10))
    value ≤ 65535 && (allowZeroPort || 0 < value)

/-- A bracketed host must be an IPv6 address; any other host has no colon. -/
def directTcpAddressIsValid (address : List Char) (allowZeroPort : Bool) : Bool :=
  let address := trim address
  if address.isEmpty || address.any isAsciiWhitespace then
    false
  else
    match stripPrefix ['['] address with
    | some rest =>
        match splitOnce "]:".toList rest with
        | none => false
        | some (host, port) =>
            (parseIpv6Addr host).isSome && validTcpPort port allowZeroPort
    | none =>
        match rsplitOnce ':' address with
        | none => false
        | some (host, port) =>
            !host.contains ':' && directTcpHostIsValid host &&
              validTcpPort port allowZeroPort

def supportedDirectTcpHintRoute
    (address : List Char) : Option SupportedPeerEndpointHintRoute :=
  if directTcpAddressIsValid address false then some .directTcp else none

def nativeIrohEndpointIdSyntaxIsValid (endpointId : List Char) : Bool :=
  let bytes := (String.ofList endpointId).utf8ByteSize
  if bytes = irohEndpointIdHexBytes then
    endpointId.all fun symbol =>
      symbol.isDigit || ('a' ≤ symbol && symbol ≤ 'f')
  else
    bytes = irohEndpointIdBase32Bytes && endpointId.all fun symbol =>
      symbol.isAlpha || ('2' ≤ symbol && symbol ≤ '7')

def nativeIrohRelayUrlIsValid (value : List Char) : Bool :=
  match stripPrefix "https://".toList value with
  | none => false
  | some authorityAndPath =>
      let authority := authorityAndPath.takeWhile (· != '/')
      !authority.isEmpty && !authority.contains '@' && !value.any isAsciiWhitespace

def nativeIrohDirectAddrIsValid (address : List Char) : Bool :=
  (parseSocketAddr address).any fun parsed => 0 < parsed.port

/-- Read the parameters of a native endpoint, noting which kinds it has. -/
def nativeIrohParameters :
    List (List Char) → (hasDirectAddr hasRelay : Bool) → Option (Bool × Bool)
  | [], hasDirectAddr, hasRelay => some (hasDirectAddr, hasRelay)
  | parameter :: rest, hasDirectAddr, hasRelay =>
      let (key, value) :=
        match splitOnce ['='] parameter with
        | some (key, value) => (trim key, trim value)
        | none => (trim parameter, [])
      if key = "addr".toList then
        if nativeIrohDirectAddrIsValid value then
          nativeIrohParameters rest true hasRelay
        else
          none
      else if key = "relay".toList then
        if nativeIrohRelayUrlIsValid value then
          nativeIrohParameters rest hasDirectAddr true
        else
          none
      else
        none

def supportedNativeIrohHintRoute
    (endpoint : List Char) : Option SupportedPeerEndpointHintRoute := do
  let endpoint ← stripPrefix "iroh://".toList endpoint
  let (endpointId, queryAndFragment) :=
    match splitOnce ['?'] endpoint with
    | some (endpointId, query) => (endpointId, some query)
    | none => (endpoint, none)
  if ¬ nativeIrohEndpointIdSyntaxIsValid endpointId then
    none
  else
    match queryAndFragment with
    | none => some .nativeIrohDiscovery
    | some queryAndFragment =>
        let query := queryAndFragment.takeWhile (· != '#')
        let (hasDirectAddr, hasRelay) ←
          nativeIrohParameters (query.splitOn '&') false false
        if hasRelay then
          some .nativeIrohRelay
        else if hasDirectAddr then
          some .nativeIrohDirect
        else
          none

def supportedPeerEndpointHintRoute
    (endpoint : String) : Option SupportedPeerEndpointHintRoute :=
  let endpoint := trim endpoint.toList
  if endpoint.isEmpty then
    none
  else
    match stripPrefix "direct+tcp://".toList endpoint with
    | some address => supportedDirectTcpHintRoute address
    | none =>
        match stripPrefix "tcp://".toList endpoint with
        | some address => supportedDirectTcpHintRoute address
        | none =>
            if "iroh://".toList.isPrefixOf endpoint then
              supportedNativeIrohHintRoute endpoint
            else if Text.contains "://".toList endpoint then
              none
            else
              supportedDirectTcpHintRoute endpoint

def peerEndpointHintIsSupported (endpoint : String) : Bool :=
  (supportedPeerEndpointHintRoute endpoint).isSome

def peerEndpointHintTransportIsConsistent (endpoint transport : String) : Bool :=
  (supportedPeerEndpointHintRoute endpoint).any fun route =>
    route.allowsTransportLabel transport

/-- Every route is consistent with its own label. -/
theorem primaryTransportLabel_allowed
    (route : SupportedPeerEndpointHintRoute) :
    route.allowsTransportLabel route.primaryTransportLabel = true := by
  cases route <;> decide +kernel

end Chaft
