import Chaft.Domain.PeerEndpoint
import Chaft.Library.SocketText
import Chaft.Library.TextParts
import Chaft.Network.SyncRequest

/-!
# Dialing a published endpoint

How the transport resolves the endpoint under which a peer is known: which
backend serves it, and the canonical form in which a native endpoint is kept.
It reads the same texts as the check on published hints, with rules of its
own.  The key and relay-URL types of the native backend are parameters.
-/

namespace Chaft

open Text

/-! ## The transport -/

/-- What the native backend supplies: endpoint keys and relay URLs, each with
a parser and the text in which it is displayed. -/
structure IrohLibrary where
  EndpointId : Type
  parseEndpointId : List Char → Except String EndpointId
  endpointIdText : EndpointId → List Char
  RelayUrl : Type
  parseRelayUrl : List Char → Except String RelayUrl
  relayUrlText : RelayUrl → List Char

structure IrohTransportConfig where
  allowPublicRelays : Bool
  allowPublicDiscovery : Bool
  allowDirectTcpBridge : Bool
  deriving DecidableEq, Repr

namespace IrohTransportConfig

def allAllowed : IrohTransportConfig where
  allowPublicRelays := true
  allowPublicDiscovery := true
  allowDirectTcpBridge := true

end IrohTransportConfig

inductive IrohEndpointRoute where
  | directTcp (address : List Char)
  | nativeIroh (endpoint : List Char)
  | publicRelay (endpoint : List Char)
  | publicDiscovery (endpoint : List Char)
  deriving DecidableEq, Repr

structure PeerAddress where
  peerId : String
  endpoint : String
  deriving DecidableEq, Repr

inductive ResolvedPeer where
  | directTcp (peer : PeerAddress)
  | nativeIroh (endpoint : String)
  deriving DecidableEq, Repr

def directTcpRoute (address : List Char) : Except NetError IrohEndpointRoute :=
  let address := trim address
  if directTcpAddressIsValid address false then
    .ok (.directTcp address)
  else
    .error (.protocol "direct TCP endpoint must be host:port with nonzero numeric port")

def classifyEndpoint (endpoint : List Char) : Except NetError IrohEndpointRoute :=
  let endpoint := trim endpoint
  if endpoint.isEmpty then
    .error (.protocol "peer endpoint is empty")
  else
    match stripPrefix "direct+tcp://".toList endpoint with
    | some address => directTcpRoute address
    | none =>
        match stripPrefix "tcp://".toList endpoint with
        | some address => directTcpRoute address
        | none =>
            if Text.contains "://".toList endpoint then
              if "iroh+relay://".toList.isPrefixOf endpoint ||
                  "relay://".toList.isPrefixOf endpoint then
                .ok (.publicRelay endpoint)
              else if "iroh+discovery://".toList.isPrefixOf endpoint ||
                  "discovery://".toList.isPrefixOf endpoint then
                .ok (.publicDiscovery endpoint)
              else if "iroh://".toList.isPrefixOf endpoint then
                .ok (.nativeIroh endpoint)
              else
                let scheme := ((splitOnce "://".toList endpoint).map Prod.fst).getD endpoint
                .error (.protocol ("unsupported peer endpoint scheme: " ++ String.ofList scheme))
            else
              directTcpRoute endpoint

namespace IrohLibrary

variable (library : IrohLibrary)

/-- An address of a native endpoint.  Parsing builds the first two kinds. -/
inductive TransportAddr where
  | ip (address : SocketAddr)
  | relay (url : library.RelayUrl)
  | custom (text : List Char)

structure EndpointAddr where
  endpointId : library.EndpointId
  addrs : List library.TransportAddr

structure ParsedNativeEndpoint where
  endpoint : String
  addr : library.EndpointAddr

variable {library}

/-- How an address stands in the query of an endpoint. -/
def TransportAddr.parameter : library.TransportAddr → List Char
  | .ip address => "addr=".toList ++ writeSocketAddr address
  | .relay url => "relay=".toList ++ library.relayUrlText url
  | .custom text => "custom=".toList ++ text

def writeNativeAddrs : (first : Bool) → List library.TransportAddr → List Char
  | _, [] => []
  | first, addr :: rest =>
      (if first then '?' else '&') :: (addr.parameter ++ writeNativeAddrs false rest)

variable (library)

def formatNativeEndpointAddr
    (endpointId : library.EndpointId) (addrs : List library.TransportAddr) : String :=
  String.ofList ("iroh://".toList ++ library.endpointIdText endpointId ++
    writeNativeAddrs true addrs)

/-- One nonempty part of the query. -/
def parseNativeParameter
    (config : IrohTransportConfig) (pair : List Char) :
    Except NetError library.TransportAddr :=
  match splitOnce ['='] pair with
  | none =>
      .error (.protocol ("invalid native iroh endpoint query: " ++ String.ofList pair))
  | some (key, value) =>
      if key = "addr".toList then
        match parseSocketAddr value with
        | none =>
            .error (.protocol
              "invalid native iroh direct address: invalid socket address syntax")
        | some address =>
            if address.port = 0 then
              .error (.protocol
                "invalid native iroh direct address: port must be greater than zero")
            else
              .ok (.ip address)
      else if key = "relay".toList then
        if ¬ config.allowPublicRelays then
          .error (.unavailable "iroh public relay endpoints are disabled")
        else
          match library.parseRelayUrl value with
          | .error error => .error (.protocol ("invalid native iroh relay URL: " ++ error))
          | .ok url => .ok (.relay url)
      else
        .error (.protocol
          ("unsupported native iroh endpoint query key: " ++ String.ofList key))

/-- The endpoint ID and the whole query, its fragment included. -/
def splitNativeEndpoint (endpoint : List Char) : Option (List Char × List Char) :=
  (stripPrefix "iroh://".toList (trim endpoint)).map fun endpoint =>
    (splitOnce ['?'] endpoint).getD (endpoint, [])

def nativeEndpointParameters (query : List Char) : List (List Char) :=
  (query.splitOn '&').filter fun pair => !pair.isEmpty

def parseNativeEndpoint
    (config : IrohTransportConfig) (endpoint : List Char) :
    Except NetError library.ParsedNativeEndpoint :=
  match splitNativeEndpoint endpoint with
  | none => .error (.protocol "native iroh endpoint must start with iroh://")
  | some (endpointId, query) =>
      if endpointId.isEmpty then
        .error (.protocol "native iroh endpoint ID is required")
      else
        match library.parseEndpointId endpointId with
        | .error error =>
            .error (.protocol ("invalid native iroh endpoint ID: " ++ error))
        | .ok endpointId =>
            match (nativeEndpointParameters query).mapM
                (library.parseNativeParameter config) with
            | .error error => .error error
            | .ok addrs =>
                if addrs.isEmpty ∧ ¬ config.allowPublicDiscovery then
                  .error (.unavailable "iroh public discovery endpoints are disabled")
                else
                  .ok ⟨library.formatNativeEndpointAddr endpointId addrs,
                    endpointId, addrs⟩

def directTcpPeer
    (config : IrohTransportConfig) (peer : PeerAddress) (address : List Char) :
    Except NetError ResolvedPeer :=
  if ¬ config.allowDirectTcpBridge then
    .error (.unavailable "direct TCP bridge is disabled")
  else
    let address := trim address
    if address.isEmpty then
      .error (.protocol "direct TCP endpoint is empty")
    else
      .ok (.directTcp ⟨peer.peerId, String.ofList address⟩)

def resolvePeer
    (config : IrohTransportConfig) (peer : PeerAddress) : Except NetError ResolvedPeer :=
  match classifyEndpoint peer.endpoint.toList with
  | .error error => .error error
  | .ok (.directTcp address) => directTcpPeer config peer address
  | .ok (.nativeIroh endpoint) =>
      (library.parseNativeEndpoint config endpoint).map fun nativePeer =>
        .nativeIroh nativePeer.endpoint
  | .ok (.publicRelay _) =>
      if ¬ config.allowPublicRelays then
        .error (.unavailable "iroh public relay endpoints are disabled")
      else
        .error (.unavailable "native iroh relay backend is not linked yet")
  | .ok (.publicDiscovery _) =>
      if ¬ config.allowPublicDiscovery then
        .error (.unavailable "iroh public discovery endpoints are disabled")
      else
        .error (.unavailable "native iroh discovery backend is not linked yet")

end IrohLibrary

end Chaft
