import Chaft.Network.EndpointResolution

/-!
# Which published hints can be dialed

A hint that a member may publish is checked by one reader of endpoint texts
and dialed by another.  The check trims the parameters of a native endpoint
and stops at its fragment; the transport takes every parameter of the whole
query as it stands.  The two agree on an endpoint exactly when it is written
the way the transport reads it.
-/

namespace Chaft

open Outcome Text

namespace IrohLibrary

/-! ## The native library -/

/-- The authority that an `https` URL names. -/
def relayAuthority (text : List Char) : List Char :=
  ((stripPrefix "https://".toList text).getD []).takeWhile (· != '/')

/-- What the transport relies on.  Displayed keys are 64 lower-case hexadecimal
digits; displayed keys and URLs are read back; a displayed URL has a fragment
when the read text has one.  An `https` URL is displayed with its scheme, a
nonempty authority and a path, without white space.  Parsing can bring an `&`
into a text only by decoding a host name, which is never displayed without the
path that follows it. -/
structure Lawful (library : IrohLibrary) : Prop where
  endpointIdText_length : ∀ id, (library.endpointIdText id).length = 64
  endpointIdText_hex : ∀ id, ∀ symbol ∈ library.endpointIdText id,
    symbol.isDigit = true ∨ ('a' ≤ symbol ∧ symbol ≤ 'f')
  endpointId_again : ∀ id, library.parseEndpointId (library.endpointIdText id) = .ok id
  relayUrl_again : ∀ text url, library.parseRelayUrl text = .ok url →
    library.parseRelayUrl (library.relayUrlText url) = .ok url
  relayUrl_trimmed : ∀ text url, library.parseRelayUrl text = .ok url →
    trim (library.relayUrlText url) = library.relayUrlText url
  relayUrl_fragment : ∀ text url, library.parseRelayUrl text = .ok url →
    ('#' ∈ library.relayUrlText url ↔ '#' ∈ text)
  relayUrl_https : ∀ text url, library.parseRelayUrl text = .ok url →
    "https://".toList.isPrefixOf (trim (text.takeWhile (· != '#'))) = true →
    ∃ authority path,
      (library.relayUrlText url).takeWhile (· != '#') =
          "https://".toList ++ (authority ++ '/' :: path) ∧
        authority ≠ [] ∧ '/' ∉ authority ∧
        ∀ symbol ∈ authority ++ '/' :: path, isWhiteSpace symbol = false
  relayUrl_decoded : ∀ text url, library.parseRelayUrl text = .ok url → '&' ∉ text →
    ∀ before after, library.relayUrlText url = before ++ '&' :: after → '&' ∉ before →
      ∀ other, library.parseRelayUrl before = .ok other →
        '&' ∉ library.relayUrlText other ∧ library.relayUrlText other ≠ before

/-! ## Dialing -/

/-- The peer resolves to the backend that its route names; a native endpoint is
kept in a form that has the same route and resolves to itself. -/
def DialableAs
    (library : IrohLibrary) (peer : PeerAddress)
    (route : SupportedPeerEndpointHintRoute) : Prop :=
  if route = .directTcp then
    ∃ resolved, library.resolvePeer .allAllowed peer = .ok (.directTcp resolved)
  else
    ∃ endpoint,
      library.resolvePeer .allAllowed peer = .ok (.nativeIroh endpoint) ∧
      supportedPeerEndpointHintRoute endpoint = some route ∧
      library.resolvePeer .allAllowed ⟨peer.peerId, endpoint⟩ = .ok (.nativeIroh endpoint)

/-- A parameter as the transport reads it: no white space around key or value,
no fragment after an address, and a relay URL whose host holds no `&`. -/
def IsDialedParameter (library : IrohLibrary) (part : List Char) : Prop :=
  (∃ value, part = "addr=".toList ++ value ∧ nativeIrohDirectAddrIsValid value = true) ∨
    ∃ value url, part = "relay=".toList ++ value ∧ library.parseRelayUrl value = .ok url ∧
      '&' ∉ library.relayUrlText url

/-- Up to the fragment, no relay URL has a user in its authority. -/
def RelaysNameNoUser (library : IrohLibrary) : List (List Char) → Prop
  | [] => True
  | part :: rest =>
      (∀ value url, part = "relay=".toList ++ value → library.parseRelayUrl value = .ok url →
        '@' ∉ relayAuthority (library.relayUrlText url)) ∧
      ('#' ∈ part ∨ RelaysNameNoUser library rest)

/-- The ID of a native endpoint, and the parameters of its whole query. -/
def nativeEndpointId (endpoint : String) : List Char :=
  ((splitNativeEndpoint endpoint.toList).map Prod.fst).getD []

def nativeEndpointQuery (endpoint : String) : List Char :=
  ((splitNativeEndpoint endpoint.toList).map Prod.snd).getD []

/-- A native endpoint written the way the transport reads it. -/
structure WrittenAsDialed (library : IrohLibrary) (endpoint : String) : Prop where
  parameters : ∀ part ∈ nativeEndpointParameters (nativeEndpointQuery endpoint),
    library.IsDialedParameter part
  relays : library.RelaysNameNoUser (nativeEndpointParameters (nativeEndpointQuery endpoint))

/-! ## One parameter -/

variable {library : IrohLibrary}

/-- What parsing builds: addresses that are read back from their text. -/
def TransportAddr.Parsed : library.TransportAddr → Prop
  | .ip address => address.WellFormed ∧ address.port ≠ 0
  | .relay url => ∃ text, library.parseRelayUrl text = .ok url ∧ '&' ∉ text
  | .custom _ => False

private theorem splitOnce_addr (value : List Char) :
    splitOnce ['='] ("addr=".toList ++ value) = some ("addr".toList, value) := by
  have text : "addr=".toList ++ value = "addr".toList ++ '=' :: value := by
    rw [show "addr=".toList = "addr".toList ++ ['='] by decide, List.append_assoc]
    rfl
  rw [text]
  exact splitOnce_append (by decide) value

private theorem splitOnce_relay (value : List Char) :
    splitOnce ['='] ("relay=".toList ++ value) = some ("relay".toList, value) := by
  have text : "relay=".toList ++ value = "relay".toList ++ '=' :: value := by
    rw [show "relay=".toList = "relay".toList ++ ['='] by decide, List.append_assoc]
    rfl
  rw [text]
  exact splitOnce_append (by decide) value

theorem parseNativeParameter_addr (value : List Char) (addr : library.TransportAddr) :
    library.parseNativeParameter .allAllowed ("addr=".toList ++ value) = .ok addr ↔
      ∃ address, parseSocketAddr value = some address ∧ address.port ≠ 0 ∧
        addr = .ip address := by
  rw [parseNativeParameter, splitOnce_addr]
  simp only [if_true]
  cases parsed : parseSocketAddr value with
  | none => simp
  | some address =>
      by_cases zero : address.port = 0
      · simp [zero]
      · simp only [if_neg zero, Except.ok.injEq, Option.some.injEq]
        constructor
        · intro same
          exact ⟨address, rfl, zero, same.symm⟩
        · rintro ⟨_, rfl, -, same⟩
          exact same.symm

theorem parseNativeParameter_relay (value : List Char) (addr : library.TransportAddr) :
    library.parseNativeParameter .allAllowed ("relay=".toList ++ value) = .ok addr ↔
      ∃ url, library.parseRelayUrl value = .ok url ∧ addr = .relay url := by
  rw [parseNativeParameter, splitOnce_relay]
  have different : "relay".toList ≠ "addr".toList := by decide
  simp only [if_neg different, if_true, IrohTransportConfig.allAllowed, not_true_eq_false,
    if_false]
  cases parsed : library.parseRelayUrl value with
  | error error => simp
  | ok url => simp [eq_comm]

/-- A parameter that is read has one of two keys. -/
theorem parseNativeParameter_forms
    {part : List Char} {addr : library.TransportAddr}
    (parsed : library.parseNativeParameter .allAllowed part = .ok addr) :
    (∃ value, part = "addr=".toList ++ value) ∨ ∃ value, part = "relay=".toList ++ value := by
  rw [parseNativeParameter] at parsed
  cases cut : splitOnce ['='] part with
  | none => simp [cut] at parsed
  | some pair =>
      obtain ⟨key, value⟩ := pair
      obtain ⟨whole, -⟩ := splitOnce_eq_some cut
      simp only [cut] at parsed
      by_cases isAddr : key = "addr".toList
      · exact Or.inl ⟨value, by
          rw [whole, isAddr, show "addr=".toList = "addr".toList ++ ['='] by decide,
            List.append_assoc]
          rfl⟩
      · by_cases isRelay : key = "relay".toList
        · exact Or.inr ⟨value, by
            rw [whole, isRelay, show "relay=".toList = "relay".toList ++ ['='] by decide,
              List.append_assoc]
            rfl⟩
        · simp only [if_neg isAddr, if_neg isRelay] at parsed
          exact absurd parsed (by simp)

theorem parsed_of_parseNativeParameter
    {part : List Char} {addr : library.TransportAddr}
    (parsed : library.parseNativeParameter .allAllowed part = .ok addr)
    (whole : '&' ∉ part) : addr.Parsed := by
  rcases parseNativeParameter_forms parsed with ⟨value, rfl⟩ | ⟨value, rfl⟩
  · obtain ⟨address, read, port, rfl⟩ := (parseNativeParameter_addr value addr).1 parsed
    exact ⟨(parseSocketAddr_accepts read).1, port⟩
  · obtain ⟨url, read, rfl⟩ := (parseNativeParameter_relay value addr).1 parsed
    exact ⟨value, read, fun inside => whole (List.mem_append_right _ inside)⟩

/-- The written form of an address is read as the same address. -/
theorem parseNativeParameter_parameter
    (lawful : library.Lawful) {addr : library.TransportAddr} (parsed : addr.Parsed) :
    library.parseNativeParameter .allAllowed addr.parameter = .ok addr := by
  cases addr with
  | ip address =>
      have known : address.WellFormed ∧ address.port ≠ 0 := parsed
      have again := parseSocketAddr_write known.1
      have form := @parseNativeParameter_addr library (writeSocketAddr address) (.ip address)
      exact form.2 ⟨address, again, known.2, rfl⟩
  | relay url =>
      obtain ⟨text, read, -⟩ := parsed
      have again := lawful.relayUrl_again text url read
      have form := @parseNativeParameter_relay library (library.relayUrlText url) (.relay url)
      exact form.2 ⟨url, again, rfl⟩
  | custom text => exact absurd parsed id

/-- No text of an address holds a symbol that addresses are not made of. -/
private theorem not_mem_writeSocketAddr
    {address : SocketAddr} (wellFormed : address.WellFormed) {symbol : Char}
    (foreign : isAddressSymbol symbol = false) : symbol ∉ writeSocketAddr address := by
  intro inside
  have known := (parseSocketAddr_accepts (parseSocketAddr_write wellFormed)).2 symbol inside
  rw [foreign] at known
  exact Bool.false_ne_true known

/-! ## The canonical form -/

private theorem tightEnds_ip {address : SocketAddr} (wellFormed : address.WellFormed) :
    TightEnds (writeSocketAddr address) := by
  have known := (parseSocketAddr_accepts (parseSocketAddr_write wellFormed)).2
  exact tightEnds_of_all fun symbol inside =>
    not_whiteSpace_of_isAddressSymbol (known symbol inside)

private theorem tightEnds_parameter
    (lawful : library.Lawful) {addr : library.TransportAddr} (parsed : addr.Parsed) :
    TightEnds addr.parameter := by
  cases addr with
  | ip address =>
      have key : TightEnds "addr=".toList := tightEnds_of_noSpace (by decide)
      exact key.append (tightEnds_ip parsed.1)
  | relay url =>
      have key : TightEnds "relay=".toList := tightEnds_of_noSpace (by decide)
      obtain ⟨text, read, -⟩ := parsed
      exact key.append (tightEnds_of_trim (lawful.relayUrl_trimmed text url read))
  | custom text => exact absurd parsed id

theorem parameter_ne_nil (addr : library.TransportAddr) : addr.parameter ≠ [] := by
  cases addr with
  | ip address =>
      have key : "addr=".toList ≠ [] := by decide
      exact fun empty => key (List.append_eq_nil_iff.1 empty).1
  | relay url =>
      have key : "relay=".toList ≠ [] := by decide
      exact fun empty => key (List.append_eq_nil_iff.1 empty).1
  | custom text =>
      have key : "custom=".toList ≠ [] := by decide
      exact fun empty => key (List.append_eq_nil_iff.1 empty).1

/-- The query of a canonical endpoint. -/
def writtenQuery (addrs : List library.TransportAddr) : List Char :=
  ['&'].intercalate (addrs.map TransportAddr.parameter)

theorem writeNativeAddrs_cons
    (first : Bool) (addr : library.TransportAddr) (rest : List library.TransportAddr) :
    writeNativeAddrs first (addr :: rest) =
      (if first then '?' else '&') :: writtenQuery (addr :: rest) := by
  induction rest generalizing first addr with
  | nil => simp [writeNativeAddrs, writtenQuery]
  | cons next rest inductionHypothesis =>
      rw [writeNativeAddrs, inductionHypothesis]
      simp [writtenQuery, List.intercalate_cons_cons]

theorem tightEnds_writtenQuery
    (lawful : library.Lawful) {addrs : List library.TransportAddr}
    (parsed : ∀ addr ∈ addrs, addr.Parsed) : TightEnds (writtenQuery addrs) := by
  induction addrs with
  | nil => exact ⟨by simp [writtenQuery], by simp [writtenQuery]⟩
  | cons addr rest inductionHypothesis =>
      have first := tightEnds_parameter lawful (parsed addr List.mem_cons_self)
      have others := inductionHypothesis
        fun other member => parsed other (List.mem_cons_of_mem _ member)
      cases rest with
      | nil => simpa [writtenQuery] using first
      | cons next rest =>
          have separator : TightEnds ['&'] := tightEnds_of_noSpace (by decide)
          rw [writtenQuery, List.map_cons, List.map_cons, List.intercalate_cons_cons]
          exact (first.append separator).append others

private theorem hex_code
    {symbol : Char} (hex : symbol.isDigit = true ∨ ('a' ≤ symbol ∧ symbol ≤ 'f')) :
    symbol.toNat ≤ 0x66 ∧ (symbol.isDigit = true → symbol.toNat ≤ 0x39) := by
  have decimal : symbol.isDigit = true → symbol.toNat ≤ 0x39 := by
    intro isDigit
    simp only [Char.isDigit, Bool.and_eq_true, decide_eq_true_eq] at isDigit
    exact toNat_le_of_le isDigit.2
  refine ⟨?_, decimal⟩
  rcases hex with isDigit | ⟨-, upper⟩
  · exact (decimal isDigit).trans (by decide)
  · exact toNat_le_of_le upper

private theorem hex_symbol
    {symbol : Char} (hex : symbol.isDigit = true ∨ ('a' ≤ symbol ∧ symbol ≤ 'f')) :
    isAddressSymbol symbol = true ∧ symbol ≠ '?' := by
  obtain ⟨upper, decimal⟩ := hex_code hex
  have known : (toDigit 16 symbol).isSome = true := by
    by_cases isDigit : symbol.isDigit = true
    · have small := decimal isDigit
      simp [toDigit, isDigit, Option.filter]
      omega
    · have lowerCase := hex.resolve_left isDigit
      simp [toDigit, isDigit, lowerCase, Option.filter]
      omega
  refine ⟨by simp [isAddressSymbol, known], ?_⟩
  rintro rfl
  exact absurd known (by decide)

/-- A displayed key is an endpoint ID by its syntax. -/
theorem endpointIdText_syntax (lawful : library.Lawful) (id : library.EndpointId) :
    nativeIrohEndpointIdSyntaxIsValid (library.endpointIdText id) = true := by
  have narrow : ∀ symbol ∈ library.endpointIdText id, symbol.utf8Size = 1 := by
    intro symbol inside
    have upper := (hex_code (lawful.endpointIdText_hex id symbol inside)).1
    have code : symbol.val ≤ 0x7F :=
      UInt32.le_iff_toNat_le.2 (upper.trans (by decide))
    simp [Char.utf8Size, code]
  have bytes := utf8ByteSize_ofList narrow
  rw [lawful.endpointIdText_length] at bytes
  rw [nativeIrohEndpointIdSyntaxIsValid]
  simp only [bytes, irohEndpointIdHexBytes, if_true, List.all_eq_true, Bool.or_eq_true,
    Bool.and_eq_true, decide_eq_true_eq]
  exact lawful.endpointIdText_hex id

theorem toList_format
    (id : library.EndpointId) (addrs : List library.TransportAddr) :
    (library.formatNativeEndpointAddr id addrs).toList =
      "iroh://".toList ++ (library.endpointIdText id ++ writeNativeAddrs true addrs) :=
  String.toList_ofList.trans (List.append_assoc _ _ _)

/-- What both readers take a canonical endpoint apart into. -/
theorem stripPrefix_format
    (id : library.EndpointId) (addrs : List library.TransportAddr) :
    stripPrefix "iroh://".toList (library.formatNativeEndpointAddr id addrs).toList =
      some (library.endpointIdText id ++ writeNativeAddrs true addrs) := by
  rw [toList_format]
  exact stripPrefix_append _ _

theorem trim_format
    (lawful : library.Lawful) (id : library.EndpointId) {addrs : List library.TransportAddr}
    (parsed : ∀ addr ∈ addrs, addr.Parsed) :
    trim (library.formatNativeEndpointAddr id addrs).toList =
      (library.formatNativeEndpointAddr id addrs).toList := by
  have scheme : TightEnds "iroh://".toList := tightEnds_of_noSpace (by decide)
  have key : TightEnds (library.endpointIdText id) :=
    tightEnds_of_all fun symbol inside =>
      not_whiteSpace_of_isAddressSymbol
        (hex_symbol (lawful.endpointIdText_hex id symbol inside)).1
  have query : TightEnds (writeNativeAddrs true addrs) := by
    cases addrs with
    | nil => exact ⟨by simp [writeNativeAddrs], by simp [writeNativeAddrs]⟩
    | cons addr rest =>
        have mark : TightEnds ['?'] := tightEnds_of_noSpace (by decide)
        rw [writeNativeAddrs_cons]
        exact mark.append (tightEnds_writtenQuery lawful parsed)
  rw [toList_format]
  exact trim_eq_self (scheme.append (key.append query))

theorem splitOnce_format
    (lawful : library.Lawful) (id : library.EndpointId)
    (addrs : List library.TransportAddr) :
    splitOnce ['?'] (library.endpointIdText id ++ writeNativeAddrs true addrs) =
      if addrs = [] then none else some (library.endpointIdText id, writtenQuery addrs) := by
  have absent : '?' ∉ library.endpointIdText id := fun inside =>
    (hex_symbol (lawful.endpointIdText_hex id '?' inside)).2 rfl
  cases addrs with
  | nil =>
      rw [writeNativeAddrs, List.append_nil, if_pos rfl]
      exact splitOnce_none absent
  | cons addr rest =>
      have nonempty : addr :: rest ≠ [] := List.cons_ne_nil addr rest
      rw [writeNativeAddrs_cons, if_pos rfl, if_neg nonempty]
      exact splitOnce_append absent _

/-! ## Reading a native endpoint -/

/-- The transport reads the key and then one parameter after the other. -/
theorem parseNativeEndpoint_eq
    {endpoint endpointId query : List Char} {id : library.EndpointId}
    (split : splitNativeEndpoint endpoint = some (endpointId, query))
    (nonempty : endpointId ≠ []) (valid : library.parseEndpointId endpointId = .ok id) :
    library.parseNativeEndpoint .allAllowed endpoint =
      ((nativeEndpointParameters query).mapM
          (library.parseNativeParameter .allAllowed)).map fun addrs =>
        ⟨library.formatNativeEndpointAddr id addrs, id, addrs⟩ := by
  have named : endpointId.isEmpty = false := by simpa using nonempty
  rw [parseNativeEndpoint, split]
  simp only [named, Bool.false_eq_true, if_false, valid, IrohTransportConfig.allAllowed,
    not_true_eq_false, and_false]
  cases (nativeEndpointParameters query).mapM
      (library.parseNativeParameter ⟨true, true, true⟩) <;> rfl

theorem splitNativeEndpoint_format
    (lawful : library.Lawful) (id : library.EndpointId) {addrs : List library.TransportAddr}
    (parsed : ∀ addr ∈ addrs, addr.Parsed) :
    splitNativeEndpoint (library.formatNativeEndpointAddr id addrs).toList =
      some (library.endpointIdText id, writtenQuery addrs) := by
  rw [splitNativeEndpoint, trim_format lawful id parsed, stripPrefix_format, Option.map_some,
    splitOnce_format lawful]
  by_cases none : addrs = []
  · rw [if_pos none, none]
    simp [writeNativeAddrs, writtenQuery]
  · rw [if_neg none, Option.getD_some]

/-- What the transport makes of a canonical endpoint. -/
theorem parseNativeEndpoint_format
    (lawful : library.Lawful) (id : library.EndpointId) {addrs : List library.TransportAddr}
    (parsed : ∀ addr ∈ addrs, addr.Parsed) :
    library.parseNativeEndpoint .allAllowed (library.formatNativeEndpointAddr id addrs).toList =
      ((nativeEndpointParameters (writtenQuery addrs)).mapM
          (library.parseNativeParameter .allAllowed)).map fun again =>
        ⟨library.formatNativeEndpointAddr id again, id, again⟩ := by
  have nonempty : library.endpointIdText id ≠ [] := by
    intro empty
    have length := lawful.endpointIdText_length id
    rw [empty] at length
    exact absurd length (by decide)
  exact parseNativeEndpoint_eq (splitNativeEndpoint_format lawful id parsed) nonempty
    (lawful.endpointId_again id)

/-! ## Which canonical forms resolve to themselves -/

private theorem parameters_cons
    {part : List Char} (nonempty : part ≠ []) (clear : '&' ∉ part) (rest : List Char) :
    nativeEndpointParameters (part ++ '&' :: rest) = part :: nativeEndpointParameters rest := by
  have split := List.splitOn_append_cons_self_of_not_mem clear rest
  simp [nativeEndpointParameters, split, nonempty]

private theorem parameters_single
    {part : List Char} (nonempty : part ≠ []) (clear : '&' ∉ part) :
    nativeEndpointParameters part = [part] := by
  have split := List.splitOn_eq_singleton clear
  simp [nativeEndpointParameters, split, nonempty]

private theorem writtenQuery_cons
    (addr : library.TransportAddr) (rest : List library.TransportAddr) :
    writtenQuery (addr :: rest) =
      addr.parameter ++ if rest = [] then [] else '&' :: writtenQuery rest := by
  cases rest with
  | nil => simp [writtenQuery]
  | cons next rest =>
      rw [if_neg (List.cons_ne_nil next rest), writtenQuery, List.map_cons, List.map_cons,
        List.intercalate_cons_cons, List.append_assoc]
      rfl

theorem parameters_writtenQuery
    {addrs : List library.TransportAddr} (clear : ∀ addr ∈ addrs, '&' ∉ addr.parameter) :
    nativeEndpointParameters (writtenQuery addrs) = addrs.map TransportAddr.parameter := by
  induction addrs with
  | nil => simp [nativeEndpointParameters, writtenQuery]
  | cons addr rest inductionHypothesis =>
      have first := clear addr List.mem_cons_self
      have others := inductionHypothesis
        fun other member => clear other (List.mem_cons_of_mem _ member)
      rw [writtenQuery_cons]
      by_cases last : rest = []
      · rw [if_pos last, List.append_nil, last, parameters_single (parameter_ne_nil addr) first]
        rfl
      · rw [if_neg last, parameters_cons (parameter_ne_nil addr) first, others]
        rfl

theorem read_parameters
    (lawful : library.Lawful) {addrs : List library.TransportAddr}
    (parsed : ∀ addr ∈ addrs, addr.Parsed) :
    (addrs.map TransportAddr.parameter).mapM (library.parseNativeParameter .allAllowed) =
      .ok addrs := by
  induction addrs with
  | nil => rfl
  | cons addr rest inductionHypothesis =>
      have first := parseNativeParameter_parameter lawful (parsed addr List.mem_cons_self)
      have others := inductionHypothesis
        fun other member => parsed other (List.mem_cons_of_mem _ member)
      exact mapM_cons_eq_ok_iff.2 ⟨addr, rest, first, others, rfl⟩

private theorem regroup (key before after rest : List Char) :
    key ++ (before ++ '&' :: after) ++ rest = (key ++ before) ++ '&' :: (after ++ rest) := by
  simp

/-- A relay URL with an `&` is cut when its parameter is read back, and what is
read from the front part is written differently. -/
private theorem not_again_of_relay_ampersand
    (lawful : library.Lawful) {url : library.RelayUrl} {text key rest : List Char}
    (isKey : key = "relay=".toList) (readText : library.parseRelayUrl text = .ok url)
    (textClear : '&' ∉ text) (inside : '&' ∈ library.relayUrlText url)
    {others : List library.TransportAddr}
    (read : (nativeEndpointParameters (key ++ library.relayUrlText url ++ rest)).mapM
      (library.parseNativeParameter .allAllowed) = .ok others)
    (same : writtenQuery others = key ++ library.relayUrlText url ++ rest) : False := by
  have keyClear : '&' ∉ key := by
    rw [isKey]
    decide
  have named : key ≠ [] := by
    rw [isKey]
    decide
  have readKey : ∀ value addr,
      library.parseNativeParameter .allAllowed (key ++ value) = .ok addr →
        ∃ url, library.parseRelayUrl value = .ok url ∧ addr = .relay url := by
    rw [isKey]
    exact fun value addr => (parseNativeParameter_relay value addr).1
  have written : ∀ other : library.RelayUrl,
      (TransportAddr.relay other).parameter = key ++ library.relayUrlText other := by
    rw [isKey]
    exact fun other => rfl
  obtain ⟨before, after, whole, clear⟩ := List.eq_append_cons_of_mem inside
  have front : '&' ∉ key ++ before := by
    rw [List.mem_append, not_or]
    exact ⟨keyClear, clear⟩
  have nonempty : key ++ before ≠ [] := fun empty => named (List.append_eq_nil_iff.1 empty).1
  rw [whole, regroup] at read same
  rw [parameters_cons nonempty front] at read
  obtain ⟨first, more, readFirst, -, rfl⟩ := mapM_cons_eq_ok_iff.1 read
  obtain ⟨other, readBefore, rfl⟩ := readKey before first readFirst
  obtain ⟨otherClear, different⟩ := lawful.relayUrl_decoded text url readText textClear
    before after whole clear other readBefore
  have otherFront : '&' ∉ key ++ library.relayUrlText other := by
    rw [List.mem_append, not_or]
    exact ⟨keyClear, otherClear⟩
  rw [writtenQuery_cons, written] at same
  by_cases last : more = []
  · rw [if_pos last, List.append_nil] at same
    exact otherFront (by rw [same]; simp)
  · rw [if_neg last] at same
    have agree := (before_separator same otherFront front).1
    exact different (List.append_cancel_left agree)

private theorem not_again_of_ampersand
    (lawful : library.Lawful) {addr : library.TransportAddr} (parsed : addr.Parsed)
    (inside : '&' ∈ addr.parameter) {rest : List Char}
    {others : List library.TransportAddr}
    (read : (nativeEndpointParameters (addr.parameter ++ rest)).mapM
      (library.parseNativeParameter .allAllowed) = .ok others)
    (same : writtenQuery others = addr.parameter ++ rest) : False := by
  cases addr with
  | ip address =>
      have absent : '&' ∉ "addr=".toList ++ writeSocketAddr address := by
        rw [List.mem_append, not_or]
        exact ⟨by decide, not_mem_writeSocketAddr parsed.1 (by decide)⟩
      exact absent inside
  | custom text => exact absurd parsed id
  | relay url =>
      obtain ⟨text, readText, textClear⟩ := parsed
      have key : '&' ∉ "relay=".toList := by decide
      have inUrl : '&' ∈ library.relayUrlText url :=
        (List.mem_append.1 inside).resolve_left key
      exact not_again_of_relay_ampersand lawful rfl readText textClear inUrl read same

/-- A canonical query that is read as it was written has no `&` but those
between its parameters. -/
theorem clear_of_again
    (lawful : library.Lawful) {addrs again : List library.TransportAddr}
    (parsed : ∀ addr ∈ addrs, addr.Parsed)
    (read : (nativeEndpointParameters (writtenQuery addrs)).mapM
      (library.parseNativeParameter .allAllowed) = .ok again)
    (same : writtenQuery again = writtenQuery addrs) :
    ∀ addr ∈ addrs, '&' ∉ addr.parameter := by
  induction addrs generalizing again with
  | nil => exact fun _ member => absurd member List.not_mem_nil
  | cons addr rest inductionHypothesis =>
      have parsedFirst := parsed addr List.mem_cons_self
      have first : '&' ∉ addr.parameter := by
        intro inside
        rw [writtenQuery_cons] at read same
        exact not_again_of_ampersand lawful parsedFirst inside read same
      rw [List.forall_mem_cons]
      refine ⟨first, ?_⟩
      by_cases last : rest = []
      · rw [last]
        exact fun _ member => absurd member List.not_mem_nil
      · rw [writtenQuery_cons, if_neg last] at read same
        rw [parameters_cons (parameter_ne_nil addr) first] at read
        obtain ⟨other, more, readFirst, readMore, rfl⟩ := mapM_cons_eq_ok_iff.1 read
        have known := parseNativeParameter_parameter lawful parsedFirst
        rw [known, Except.ok.injEq] at readFirst
        subst readFirst
        rw [writtenQuery_cons, List.append_cancel_left_eq] at same
        have moreWritten : more ≠ [] := by
          intro none
          rw [if_pos none] at same
          exact absurd same (by simp)
        rw [if_neg moreWritten, List.cons.injEq] at same
        exact inductionHypothesis
          (fun other member => parsed other (List.mem_cons_of_mem _ member)) readMore same.2

/-! ## What the check on hints makes of a canonical form -/

private theorem not_asciiWhitespace
    {symbol : Char} (solid : isWhiteSpace symbol = false) : isAsciiWhitespace symbol = false := by
  cases spaced : isAsciiWhitespace symbol with
  | false => rfl
  | true =>
      simp only [isAsciiWhitespace, Bool.or_eq_true, beq_iff_eq] at spaced
      rcases spaced with (((rfl | rfl) | rfl) | formFeed) | rfl
      · exact absurd solid (by decide)
      · exact absurd solid (by decide)
      · exact absurd solid (by decide)
      · simp [isWhiteSpace, formFeed] at solid
      · exact absurd solid (by decide)

private theorem takeWhile_authority
    {authority : List Char} (noSlash : '/' ∉ authority) (path : List Char) :
    (authority ++ '/' :: path).takeWhile (· != '/') = authority := by
  rw [List.takeWhile_append_of_pos]
  · simp
  · intro symbol inside
    have different : symbol ≠ '/' := fun same => noSlash (same ▸ inside)
    simpa using different

private theorem relayAuthority_https
    {scheme authority : List Char} (isScheme : scheme = "https://".toList)
    (noSlash : '/' ∉ authority) (path : List Char) :
    relayAuthority (scheme ++ (authority ++ '/' :: path)) = authority := by
  rw [relayAuthority, ← isScheme, stripPrefix_append, Option.getD_some,
    takeWhile_authority noSlash]

private theorem relayUrlIsValid_https
    {scheme authority path : List Char} (isScheme : scheme = "https://".toList)
    (nonempty : authority ≠ []) (noSlash : '/' ∉ authority)
    (solid : ∀ symbol ∈ authority ++ '/' :: path, isWhiteSpace symbol = false) :
    nativeIrohRelayUrlIsValid (trim (scheme ++ (authority ++ '/' :: path))) = true ↔
      '@' ∉ authority := by
  have schemeSolid : ∀ symbol ∈ scheme, isWhiteSpace symbol = false := by
    have noSpace : "https://".toList.any isWhiteSpace = false := by decide
    intro symbol inside
    rw [isScheme] at inside
    exact Bool.eq_false_iff.2 (List.any_eq_false.1 noSpace symbol inside)
  have wholeSolid : ∀ symbol ∈ scheme ++ (authority ++ '/' :: path),
      isWhiteSpace symbol = false := fun symbol inside =>
    (List.mem_append.1 inside).elim (schemeSolid symbol) (solid symbol)
  have noSpace : (scheme ++ (authority ++ '/' :: path)).any isAsciiWhitespace = false := by
    rw [List.any_eq_false]
    intro symbol inside
    simp [not_asciiWhitespace (wholeSolid symbol inside)]
  have named : authority.isEmpty = false := by simpa using nonempty
  rw [trim_eq_self (tightEnds_of_all wholeSolid), nativeIrohRelayUrlIsValid, ← isScheme,
    stripPrefix_append]
  simp only [takeWhile_authority noSlash, noSpace, named, Bool.not_false, Bool.true_and,
    Bool.and_true, Bool.not_eq_true', List.contains_eq_mem, decide_eq_false_iff_not]

/-- A displayed relay URL passes the check exactly when it names no user. -/
theorem relayUrlText_valid_iff
    (lawful : library.Lawful) {value : List Char} {url : library.RelayUrl}
    (read : library.parseRelayUrl value = .ok url)
    (https : nativeIrohRelayUrlIsValid (trim (value.takeWhile (· != '#'))) = true) :
    nativeIrohRelayUrlIsValid (trim ((library.relayUrlText url).takeWhile (· != '#'))) = true ↔
      '@' ∉ relayAuthority (library.relayUrlText url) := by
  have schemed :
      "https://".toList.isPrefixOf (trim (value.takeWhile (· != '#'))) = true := by
    rw [nativeIrohRelayUrlIsValid, stripPrefix] at https
    by_contra other
    rw [if_neg other] at https
    exact Bool.false_ne_true https
  obtain ⟨authority, path, shape, nonempty, noSlash, solid⟩ :=
    lawful.relayUrl_https value url read schemed
  have whole := List.takeWhile_append_dropWhile (p := (· != '#'))
    (l := library.relayUrlText url)
  have known : relayAuthority (library.relayUrlText url) = authority := by
    rw [← whole, shape, List.append_assoc, List.append_assoc, List.cons_append]
    exact relayAuthority_https rfl noSlash _
  rw [shape, known]
  exact relayUrlIsValid_https rfl nonempty noSlash solid

private theorem trim_addr : trim "addr".toList = "addr".toList := by decide
private theorem trim_relay : trim "relay".toList = "relay".toList := by decide

theorem nativeIrohParameters_addr
    (value : List Char) (rest : List (List Char)) (direct relay : Bool) :
    nativeIrohParameters (("addr=".toList ++ value) :: rest) direct relay =
      if nativeIrohDirectAddrIsValid (trim value) then nativeIrohParameters rest true relay
      else none := by
  rw [nativeIrohParameters, splitOnce_addr]
  simp only [trim_addr, if_true]

theorem nativeIrohParameters_relay
    (value : List Char) (rest : List (List Char)) (direct relay : Bool) :
    nativeIrohParameters (("relay=".toList ++ value) :: rest) direct relay =
      if nativeIrohRelayUrlIsValid (trim value) then nativeIrohParameters rest direct true
      else none := by
  have different : "relay".toList ≠ "addr".toList := by decide
  rw [nativeIrohParameters, splitOnce_relay]
  simp only [trim_relay, if_neg different, if_true]

private theorem nativeIrohParameters_empty
    (rest : List (List Char)) (direct relay : Bool) :
    nativeIrohParameters ([] :: rest) direct relay = none := by
  have noAddr : [] ≠ "addr".toList := by decide
  have noRelay : [] ≠ "relay".toList := by decide
  have absent : splitOnce ['='] [] = none := by decide
  have trimmed : trim [] = [] := by decide
  rw [nativeIrohParameters, absent]
  simp only [trimmed, if_neg noAddr, if_neg noRelay]

private theorem takeWhile_clear
    {mark : Char} {text : List Char} (absent : mark ∉ text) :
    text.takeWhile (· != mark) = text := by
  rw [List.takeWhile_eq_self_iff]
  intro symbol inside
  have different : symbol ≠ mark := fun same => absent (same ▸ inside)
  simpa using different

private theorem cutAtMark_clear
    {mark : Char} {part : List Char} (absent : mark ∉ part) (rest : List (List Char)) :
    cutAtMark mark (part :: rest) = part :: cutAtMark mark rest := by
  rw [cutAtMark, if_neg absent]

private theorem cutAtMark_marked
    {mark : Char} {part : List Char} (inside : mark ∈ part) (rest : List (List Char)) :
    cutAtMark mark (part :: rest) = [part.takeWhile (· != mark)] := by
  rw [cutAtMark, if_pos inside]

/-- The check comes to the same end on the parameters of an endpoint and on
those of its canonical form, provided no relay URL names a user. -/
def HintsAgree
    (library : IrohLibrary) (parts : List (List Char)) (addrs : List library.TransportAddr) : Prop :=
  ∀ direct relay flags, nativeIrohParameters (cutAtMark '#' parts) direct relay = some flags →
    (library.RelaysNameNoUser (parts.filter fun part => !part.isEmpty) →
      nativeIrohParameters (cutAtMark '#' (addrs.map TransportAddr.parameter)) direct relay =
        some flags) ∧
    (nativeIrohParameters (cutAtMark '#' (addrs.map TransportAddr.parameter)) direct relay ≠
        none →
      library.RelaysNameNoUser (parts.filter fun part => !part.isEmpty))

private theorem keys_differ
    {first second : List Char} (isAddr : first = "addr=".toList)
    (isRelay : second = "relay=".toList) (value other : List Char) :
    first ++ value ≠ second ++ other := by
  intro same
  have addrHead : first = 'a' :: "ddr=".toList := isAddr.trans (by decide)
  have relayHead : second = 'r' :: "elay=".toList := isRelay.trans (by decide)
  rw [addrHead, relayHead, List.cons_append, List.cons_append, List.cons.injEq] at same
  exact absurd same.1 (by decide)

private theorem relaysNameNoUser_addr
    {key : List Char} (isKey : key = "addr=".toList) {value : List Char}
    (markClear : '#' ∉ key ++ value) (rest : List (List Char)) :
    library.RelaysNameNoUser ((key ++ value) :: rest) ↔ library.RelaysNameNoUser rest := by
  have noRelay : ∀ other, key ++ value ≠ "relay=".toList ++ other :=
    fun other => keys_differ isKey rfl value other
  rw [RelaysNameNoUser]
  constructor
  · rintro ⟨-, others⟩
    exact others.resolve_left markClear
  · intro others
    exact ⟨fun other url same => absurd same (noRelay other), Or.inr others⟩

private theorem filter_keyed
    {key : List Char} (named : key ≠ []) (value : List Char) (rest : List (List Char)) :
    ((key ++ value) :: rest).filter (fun part => !part.isEmpty) =
      (key ++ value) :: rest.filter fun part => !part.isEmpty := by
  simp [named]

private theorem hintsAgree_addr
    {key value : List Char} (isKey : key = "addr=".toList) {address : SocketAddr}
    (read : parseSocketAddr value = some address) (port : address.port ≠ 0)
    {rest : List (List Char)} {more : List library.TransportAddr}
    (agree : library.HintsAgree rest more) :
    library.HintsAgree ((key ++ value) :: rest) (.ip address :: more) := by
  obtain ⟨wellFormed, known⟩ := parseSocketAddr_accepts read
  have keyClear : '#' ∉ key := by
    rw [isKey]
    decide
  have named : key ≠ [] := by
    rw [isKey]
    decide
  have markClear : '#' ∉ key ++ value := by
    rw [List.mem_append, not_or]
    exact ⟨keyClear, fun inside => absurd (known _ inside) (by decide)⟩
  have writtenClear : '#' ∉ key ++ writeSocketAddr address := by
    rw [List.mem_append, not_or]
    exact ⟨keyClear, not_mem_writeSocketAddr wellFormed (by decide)⟩
  have written : (TransportAddr.ip address : library.TransportAddr).parameter =
      key ++ writeSocketAddr address := by
    rw [isKey]
    rfl
  have writtenValid :
      nativeIrohDirectAddrIsValid (trim (writeSocketAddr address)) = true := by
    have positive : 0 < address.port := Nat.pos_of_ne_zero port
    rw [trim_eq_self (tightEnds_ip wellFormed), nativeIrohDirectAddrIsValid,
      parseSocketAddr_write wellFormed]
    simpa using positive
  have readKey : ∀ value rest direct relay,
      nativeIrohParameters ((key ++ value) :: rest) direct relay =
        if nativeIrohDirectAddrIsValid (trim value) then nativeIrohParameters rest true relay
        else none := by
    rw [isKey]
    exact nativeIrohParameters_addr
  intro direct relay flags hinted
  rw [cutAtMark_clear markClear, readKey] at hinted
  rw [List.map_cons, written, cutAtMark_clear writtenClear, readKey, if_pos writtenValid,
    filter_keyed named, relaysNameNoUser_addr isKey markClear]
  by_cases valid : nativeIrohDirectAddrIsValid (trim value) = true
  · rw [if_pos valid] at hinted
    exact agree true relay flags hinted
  · rw [if_neg valid] at hinted
    exact absurd hinted (by simp)

private theorem relaysNameNoUser_relay
    {key : List Char} (isKey : key = "relay=".toList) {value : List Char}
    {url : library.RelayUrl} (read : library.parseRelayUrl value = .ok url)
    (rest : List (List Char)) :
    library.RelaysNameNoUser ((key ++ value) :: rest) ↔
      '@' ∉ relayAuthority (library.relayUrlText url) ∧
        ('#' ∈ key ++ value ∨ library.RelaysNameNoUser rest) := by
  rw [RelaysNameNoUser, ← isKey]
  constructor
  · rintro ⟨first, others⟩
    exact ⟨first value url rfl read, others⟩
  · rintro ⟨first, others⟩
    refine ⟨fun other otherUrl same otherRead => ?_, others⟩
    rw [← List.append_cancel_left same, read, Except.ok.injEq] at otherRead
    exact otherRead ▸ first

private theorem hintsAgree_relay
    (lawful : library.Lawful) {key value : List Char} (isKey : key = "relay=".toList)
    {url : library.RelayUrl} (read : library.parseRelayUrl value = .ok url)
    {rest : List (List Char)} {more : List library.TransportAddr}
    (agree : library.HintsAgree rest more) :
    library.HintsAgree ((key ++ value) :: rest) (.relay url :: more) := by
  have keyClear : '#' ∉ key := by
    rw [isKey]
    decide
  have named : key ≠ [] := by
    rw [isKey]
    decide
  have written : (TransportAddr.relay url).parameter = key ++ library.relayUrlText url := by
    rw [isKey]
    rfl
  have marked : '#' ∈ key ++ library.relayUrlText url ↔ '#' ∈ key ++ value := by
    rw [List.mem_append, List.mem_append, lawful.relayUrl_fragment value url read]
  have cutKey : ∀ text : List Char,
      (key ++ text).takeWhile (· != '#') = key ++ text.takeWhile (· != '#') := by
    intro text
    rw [List.takeWhile_append_of_pos]
    intro symbol inside
    have different : symbol ≠ '#' := fun same => keyClear (same ▸ inside)
    simpa using different
  have readKey : ∀ value rest direct relay,
      nativeIrohParameters ((key ++ value) :: rest) direct relay =
        if nativeIrohRelayUrlIsValid (trim value) then nativeIrohParameters rest direct true
        else none := by
    rw [isKey]
    exact nativeIrohParameters_relay
  intro direct relay flags hinted
  rw [List.map_cons, written, filter_keyed named, relaysNameNoUser_relay isKey read]
  by_cases fragment : '#' ∈ key ++ value
  · have writtenFragment := marked.2 fragment
    rw [cutAtMark_marked fragment, cutKey, readKey] at hinted
    rw [cutAtMark_marked writtenFragment, cutKey, readKey]
    by_cases valid : nativeIrohRelayUrlIsValid (trim (value.takeWhile (· != '#'))) = true
    · have user := relayUrlText_valid_iff lawful read valid
      rw [if_pos valid] at hinted
      constructor
      · rintro ⟨noUser, -⟩
        rw [if_pos (user.2 noUser)]
        exact hinted
      · intro accepted
        by_contra refused
        have noUser : ¬ '@' ∉ relayAuthority (library.relayUrlText url) :=
          fun absent => refused ⟨absent, Or.inl fragment⟩
        rw [if_neg fun passes => noUser (user.1 passes)] at accepted
        exact accepted rfl
    · rw [if_neg valid] at hinted
      exact absurd hinted (by simp)
  · have writtenClear : '#' ∉ key ++ library.relayUrlText url := fun inside =>
      fragment (marked.1 inside)
    have valueClear : '#' ∉ value := fun inside => fragment (List.mem_append_right _ inside)
    have textClear : '#' ∉ library.relayUrlText url := fun inside =>
      writtenClear (List.mem_append_right _ inside)
    rw [cutAtMark_clear fragment, readKey] at hinted
    rw [cutAtMark_clear writtenClear, readKey]
    by_cases valid : nativeIrohRelayUrlIsValid (trim value) = true
    · have user := relayUrlText_valid_iff lawful read (by rwa [takeWhile_clear valueClear])
      rw [takeWhile_clear textClear] at user
      rw [if_pos valid] at hinted
      obtain ⟨keeps, shows⟩ := agree direct true flags hinted
      constructor
      · rintro ⟨noUser, others⟩
        rw [if_pos (user.2 noUser)]
        exact keeps (others.resolve_left fragment)
      · intro accepted
        by_cases noUser : '@' ∉ relayAuthority (library.relayUrlText url)
        · rw [if_pos (user.2 noUser)] at accepted
          exact ⟨noUser, Or.inr (shows accepted)⟩
        · rw [if_neg fun passes => noUser (user.1 passes)] at accepted
          exact absurd rfl accepted
    · rw [if_neg valid] at hinted
      exact absurd hinted (by simp)

theorem hintsAgree_of_read
    (lawful : library.Lawful) {parts : List (List Char)} {addrs : List library.TransportAddr}
    (read : (parts.filter fun part => !part.isEmpty).mapM
      (library.parseNativeParameter .allAllowed) = .ok addrs) :
    library.HintsAgree parts addrs := by
  induction parts generalizing addrs with
  | nil =>
      cases read
      exact fun direct relay flags hinted => ⟨fun _ => hinted, fun _ => trivial⟩
  | cons part rest inductionHypothesis =>
      by_cases empty : part = []
      · intro direct relay flags hinted
        rw [empty, cutAtMark_clear (by simp), nativeIrohParameters_empty] at hinted
        exact absurd hinted (by simp)
      · have kept : (part :: rest).filter (fun part => !part.isEmpty) =
            part :: rest.filter (fun part => !part.isEmpty) := by simp [empty]
        rw [kept] at read
        obtain ⟨addr, more, readPart, readRest, rfl⟩ := mapM_cons_eq_ok_iff.1 read
        have agree := inductionHypothesis readRest
        rcases parseNativeParameter_forms readPart with ⟨value, rfl⟩ | ⟨value, rfl⟩
        · obtain ⟨address, parsed, port, rfl⟩ :=
            (parseNativeParameter_addr value addr).1 readPart
          exact hintsAgree_addr rfl parsed port agree
        · obtain ⟨url, parsed, rfl⟩ := (parseNativeParameter_relay value addr).1 readPart
          exact hintsAgree_relay lawful rfl parsed agree

/-! ## The two readers side by side -/

private def routeOfKinds : Option (Bool × Bool) → Option SupportedPeerEndpointHintRoute
  | none => none
  | some (hasDirectAddr, hasRelay) =>
      if hasRelay then some .nativeIrohRelay
      else if hasDirectAddr then some .nativeIrohDirect
      else none

private theorem supportedNative_eq
    {endpoint body : List Char} (strip : stripPrefix "iroh://".toList endpoint = some body) :
    supportedNativeIrohHintRoute endpoint =
      match splitOnce ['?'] body with
      | none =>
          if nativeIrohEndpointIdSyntaxIsValid body then some .nativeIrohDiscovery else none
      | some (endpointId, query) =>
          if nativeIrohEndpointIdSyntaxIsValid endpointId then
            routeOfKinds (nativeIrohParameters (cutAtMark '#' (query.splitOn '&')) false false)
          else
            none := by
  rw [supportedNativeIrohHintRoute, strip]
  simp only [Option.bind_eq_bind, Option.bind_some]
  cases found : splitOnce ['?'] body with
  | none => cases nativeIrohEndpointIdSyntaxIsValid body <;> rfl
  | some pair =>
      obtain ⟨endpointId, query⟩ := pair
      have different : '&' ≠ '#' := by decide
      simp only [splitOn_takeWhile different query]
      by_cases valid : nativeIrohEndpointIdSyntaxIsValid endpointId = true
      · simp only [valid, not_true_eq_false, if_false, if_true]
        cases nativeIrohParameters (cutAtMark '#' (query.splitOn '&')) false false <;> rfl
      · simp only [valid, not_false_eq_true, if_true, Bool.false_eq_true, if_false]

private theorem routeOfKinds_ne_directTcp (kinds : Option (Bool × Bool)) :
    routeOfKinds kinds ≠ some .directTcp := by
  cases kinds with
  | none => decide
  | some flags =>
      obtain ⟨hasDirectAddr, hasRelay⟩ := flags
      cases hasDirectAddr <;> cases hasRelay <;> decide

private theorem supportedNative_ne_directTcp
    {endpoint : List Char} {route : SupportedPeerEndpointHintRoute}
    (hinted : supportedNativeIrohHintRoute endpoint = some route) : route ≠ .directTcp := by
  cases strip : stripPrefix "iroh://".toList endpoint with
  | none =>
      rw [supportedNativeIrohHintRoute, strip] at hinted
      exact absurd hinted (by simp)
  | some body =>
      rw [supportedNative_eq strip] at hinted
      rintro rfl
      cases found : splitOnce ['?'] body with
      | none =>
          simp only [found] at hinted
          split at hinted <;> exact absurd hinted (by simp)
      | some pair =>
          simp only [found] at hinted
          split at hinted
          · exact routeOfKinds_ne_directTcp _ hinted
          · exact absurd hinted (by simp)

/-- A hint of the direct route has an address that the transport accepts. -/
private theorem directTcp_of_supported
    {address : List Char} {route : SupportedPeerEndpointHintRoute}
    (hinted : supportedDirectTcpHintRoute address = some route) :
    route = .directTcp ∧ directTcpRoute address = .ok (.directTcp (trim address)) ∧
      trim address ≠ [] := by
  rw [supportedDirectTcpHintRoute] at hinted
  by_cases valid : directTcpAddressIsValid address false = true
  · rw [if_pos valid, Option.some.injEq] at hinted
    have trimmedValid : directTcpAddressIsValid (trim address) false = true := by
      rw [directTcpAddressIsValid] at valid ⊢
      rwa [trim_trim]
    refine ⟨hinted.symm, by rw [directTcpRoute]; simp only [trimmedValid, if_true], ?_⟩
    intro empty
    rw [directTcpAddressIsValid] at valid
    simp [empty] at valid
  · rw [if_neg valid] at hinted
    exact absurd hinted (by simp)

/-- An endpoint with the native scheme has none of the others. -/
private theorem iroh_scheme (rest : List Char) :
    ("iroh://".toList ++ rest).isEmpty = false ∧
      stripPrefix "direct+tcp://".toList ("iroh://".toList ++ rest) = none ∧
      stripPrefix "tcp://".toList ("iroh://".toList ++ rest) = none ∧
      "iroh://".toList.isPrefixOf ("iroh://".toList ++ rest) = true ∧
      Text.contains "://".toList ("iroh://".toList ++ rest) = true ∧
      "iroh+relay://".toList.isPrefixOf ("iroh://".toList ++ rest) = false ∧
      "relay://".toList.isPrefixOf ("iroh://".toList ++ rest) = false ∧
      "iroh+discovery://".toList.isPrefixOf ("iroh://".toList ++ rest) = false ∧
      "discovery://".toList.isPrefixOf ("iroh://".toList ++ rest) = false := by
  have iroh : "iroh://".toList = ['i', 'r', 'o', 'h', ':', '/', '/'] := by decide
  have mark : "://".toList = [':', '/', '/'] := by decide
  have direct : "direct+tcp://".toList = 'd' :: "irect+tcp://".toList := by decide
  have tcp : "tcp://".toList = 't' :: "cp://".toList := by decide
  have irohRelay : "iroh+relay://".toList = 'i' :: 'r' :: 'o' :: 'h' :: '+' ::
      "relay://".toList := by decide
  have relay : "relay://".toList = 'r' :: "elay://".toList := by decide
  have irohDiscovery : "iroh+discovery://".toList = 'i' :: 'r' :: 'o' :: 'h' :: '+' ::
      "discovery://".toList := by decide
  have discovery : "discovery://".toList = 'd' :: "iscovery://".toList := by decide
  rw [iroh, mark, direct, tcp, irohRelay, irohDiscovery, relay, discovery]
  refine ⟨rfl, rfl, rfl, rfl, ?_, rfl, rfl, rfl, rfl⟩
  simp [Text.contains, splitOnce, stripPrefix]

/-- How the transport classifies what the check supports. -/
private theorem classify_of_supported
    {endpoint : String} {route : SupportedPeerEndpointHintRoute}
    (hinted : supportedPeerEndpointHintRoute endpoint = some route) :
    (route = .directTcp ∧ ∃ address,
        classifyEndpoint endpoint.toList = .ok (.directTcp (trim address)) ∧
        trim address ≠ []) ∨
      (route ≠ .directTcp ∧ supportedNativeIrohHintRoute (trim endpoint.toList) = some route ∧
        classifyEndpoint endpoint.toList = .ok (.nativeIroh (trim endpoint.toList))) := by
  rw [supportedPeerEndpointHintRoute] at hinted
  rw [classifyEndpoint]
  generalize trim endpoint.toList = text at hinted ⊢
  by_cases empty : text.isEmpty = true
  · simp only [empty, if_true] at hinted
    exact absurd hinted (by simp)
  · have nonempty : text.isEmpty = false := by simpa using empty
    simp only [nonempty, Bool.false_eq_true, if_false] at hinted ⊢
    cases direct : stripPrefix "direct+tcp://".toList text with
    | some address =>
        simp only [direct] at hinted ⊢
        obtain ⟨isDirect, routed, named⟩ := directTcp_of_supported hinted
        exact Or.inl ⟨isDirect, address, routed, named⟩
    | none =>
        simp only [direct] at hinted ⊢
        cases tcp : stripPrefix "tcp://".toList text with
        | some address =>
            simp only [tcp] at hinted ⊢
            obtain ⟨isDirect, routed, named⟩ := directTcp_of_supported hinted
            exact Or.inl ⟨isDirect, address, routed, named⟩
        | none =>
            simp only [tcp] at hinted ⊢
            by_cases native : "iroh://".toList.isPrefixOf text = true
            · rw [if_pos native] at hinted
              obtain ⟨rest, rfl⟩ := List.isPrefixOf_iff_prefix.1 native
              obtain ⟨-, -, -, -, scheme, irohRelay, relay, irohDiscovery, discovery⟩ :=
                iroh_scheme rest
              refine Or.inr ⟨supportedNative_ne_directTcp hinted, hinted, ?_⟩
              simp only [scheme, irohRelay, relay, irohDiscovery, discovery, native, if_true,
                Bool.or_self, Bool.false_eq_true, if_false]
            · rw [if_neg native] at hinted
              by_cases scheme : Text.contains "://".toList text = true
              · rw [if_pos scheme] at hinted
                exact absurd hinted (by simp)
              · rw [if_neg scheme] at hinted ⊢
                obtain ⟨isDirect, routed, named⟩ := directTcp_of_supported hinted
                exact Or.inl ⟨isDirect, text, routed, named⟩

/-- A peer whose hint is native resolves to what its endpoint is parsed to. -/
private theorem resolvePeer_native
    {peer : PeerAddress}
    (classified : classifyEndpoint peer.endpoint.toList =
      .ok (.nativeIroh (trim peer.endpoint.toList))) :
    library.resolvePeer .allAllowed peer =
      (library.parseNativeEndpoint .allAllowed peer.endpoint.toList).map fun nativePeer =>
        .nativeIroh nativePeer.endpoint := by
  have same : library.parseNativeEndpoint .allAllowed (trim peer.endpoint.toList) =
      library.parseNativeEndpoint .allAllowed peer.endpoint.toList := by
    rw [parseNativeEndpoint, parseNativeEndpoint, splitNativeEndpoint, splitNativeEndpoint,
      trim_trim]
  rw [resolvePeer, classified]
  simp only [same]

private theorem mem_results_of_mapM
    {α β ε : Type} {read : α → Except ε β} {items : List α} {results : List β}
    (allRead : items.mapM read = .ok results) :
    ∀ item ∈ items, ∃ result ∈ results, read item = .ok result := by
  induction items generalizing results with
  | nil => exact fun _ member => absurd member List.not_mem_nil
  | cons item rest inductionHypothesis =>
      obtain ⟨first, others, readFirst, readRest, rfl⟩ := mapM_cons_eq_ok_iff.1 allRead
      rw [List.forall_mem_cons]
      refine ⟨⟨first, List.mem_cons_self, readFirst⟩, ?_⟩
      intro other member
      obtain ⟨result, isResult, readOther⟩ := inductionHypothesis readRest other member
      exact ⟨result, List.mem_cons_of_mem _ isResult, readOther⟩

/-- What the check has read of a native endpoint it supports. -/
private theorem native_parts
    {endpoint : String} {route : SupportedPeerEndpointHintRoute}
    (hinted : supportedNativeIrohHintRoute (trim endpoint.toList) = some route) :
    splitNativeEndpoint endpoint.toList =
        some (nativeEndpointId endpoint, nativeEndpointQuery endpoint) ∧
      nativeEndpointId endpoint ≠ [] ∧
      ((nativeEndpointQuery endpoint = [] ∧ route = .nativeIrohDiscovery) ∨
        ∃ flags,
          nativeIrohParameters
              (cutAtMark '#' ((nativeEndpointQuery endpoint).splitOn '&')) false false =
            some flags ∧
          routeOfKinds (some flags) = some route) := by
  have emptyInvalid : nativeIrohEndpointIdSyntaxIsValid [] = false := by decide
  rw [nativeEndpointId, nativeEndpointQuery, splitNativeEndpoint]
  cases strip : stripPrefix "iroh://".toList (trim endpoint.toList) with
  | none =>
      rw [supportedNativeIrohHintRoute, strip] at hinted
      exact absurd hinted (by simp)
  | some body =>
      rw [supportedNative_eq strip] at hinted
      cases found : splitOnce ['?'] body with
      | none =>
          simp only [found] at hinted
          by_cases valid : nativeIrohEndpointIdSyntaxIsValid body = true
          · rw [if_pos valid, Option.some.injEq] at hinted
            simp only [Option.map_some, found, Option.getD_none, Option.getD_some]
            refine ⟨trivial, fun empty => ?_, Or.inl ⟨trivial, hinted.symm⟩⟩
            rw [empty, emptyInvalid] at valid
            exact Bool.false_ne_true valid
          · rw [if_neg valid] at hinted
            exact absurd hinted (by simp)
      | some pair =>
          obtain ⟨endpointId, query⟩ := pair
          simp only [found] at hinted
          by_cases valid : nativeIrohEndpointIdSyntaxIsValid endpointId = true
          · rw [if_pos valid] at hinted
            simp only [Option.map_some, found, Option.getD_some]
            refine ⟨trivial, fun empty => ?_, Or.inr ?_⟩
            · rw [empty, emptyInvalid] at valid
              exact Bool.false_ne_true valid
            · cases kinds : nativeIrohParameters (cutAtMark '#' (query.splitOn '&'))
                  false false with
              | none =>
                  rw [kinds] at hinted
                  exact absurd hinted (by simp [routeOfKinds])
              | some flags =>
                  rw [kinds] at hinted
                  exact ⟨flags, rfl, hinted⟩
          · rw [if_neg valid] at hinted
            exact absurd hinted (by simp)

private theorem supported_native
    {endpoint : String} (trimmed : trim endpoint.toList = endpoint.toList) {body : List Char}
    (strip : stripPrefix "iroh://".toList endpoint.toList = some body) :
    supportedPeerEndpointHintRoute endpoint = supportedNativeIrohHintRoute endpoint.toList := by
  rw [supportedPeerEndpointHintRoute, trimmed]
  have native : "iroh://".toList.isPrefixOf endpoint.toList = true := by
    by_contra other
    rw [stripPrefix, if_neg other] at strip
    exact absurd strip (by simp)
  generalize endpoint.toList = text at native
  obtain ⟨rest, rfl⟩ := List.isPrefixOf_iff_prefix.1 native
  obtain ⟨nonempty, noDirect, noTcp, -⟩ := iroh_scheme rest
  simp only [nonempty, Bool.false_eq_true, if_false, noDirect, noTcp, native, if_true]

/-- The route of a canonical endpoint. -/
private theorem supported_format
    (lawful : library.Lawful) (id : library.EndpointId) {addrs : List library.TransportAddr}
    (parsed : ∀ addr ∈ addrs, addr.Parsed) (clear : ∀ addr ∈ addrs, '&' ∉ addr.parameter) :
    supportedPeerEndpointHintRoute (library.formatNativeEndpointAddr id addrs) =
      if addrs = [] then some .nativeIrohDiscovery
      else
        routeOfKinds (nativeIrohParameters
          (cutAtMark '#' (addrs.map TransportAddr.parameter)) false false) := by
  have strip := stripPrefix_format id addrs
  rw [supported_native (trim_format lawful id parsed) strip, supportedNative_eq strip,
    splitOnce_format lawful]
  by_cases none : addrs = []
  · have body : library.endpointIdText id ++ writeNativeAddrs true addrs =
        library.endpointIdText id := by
      rw [none, writeNativeAddrs, List.append_nil]
    simp only [if_pos none, body, endpointIdText_syntax lawful, if_true]
  · have split : (writtenQuery addrs).splitOn '&' = addrs.map TransportAddr.parameter := by
      apply List.splitOn_intercalate
      · intro part member
        obtain ⟨addr, isAddr, rfl⟩ := List.mem_map.1 member
        exact clear addr isAddr
      · simpa using none
    simp only [if_neg none, endpointIdText_syntax lawful, if_true, split]

/-! ## The exact condition -/

private theorem writtenQuery_of_format
    {id : library.EndpointId} {addrs again : List library.TransportAddr}
    (same : library.formatNativeEndpointAddr id again =
      library.formatNativeEndpointAddr id addrs) : writtenQuery again = writtenQuery addrs := by
  have texts := congrArg String.toList same
  rw [toList_format, toList_format, List.append_cancel_left_eq,
    List.append_cancel_left_eq] at texts
  cases again with
  | nil =>
      cases addrs with
      | nil => rfl
      | cons addr rest =>
          rw [writeNativeAddrs_cons] at texts
          exact absurd texts (by simp [writeNativeAddrs])
  | cons other more =>
      cases addrs with
      | nil =>
          rw [writeNativeAddrs_cons] at texts
          exact absurd texts (by simp [writeNativeAddrs])
      | cons addr rest =>
          rw [writeNativeAddrs_cons, writeNativeAddrs_cons, List.cons.injEq] at texts
          exact texts.2

private theorem parsed_of_mem
    {query : List Char} {addrs : List library.TransportAddr}
    (read : (nativeEndpointParameters query).mapM (library.parseNativeParameter .allAllowed) =
      .ok addrs) : ∀ addr ∈ addrs, addr.Parsed := by
  intro addr member
  obtain ⟨part, isPart, readPart⟩ := exists_of_mem_mapM read addr member
  exact parsed_of_parseNativeParameter readPart
    (not_mem_of_mem_splitOn (List.mem_of_mem_filter isPart))

private theorem isDialedParameter_relay
    {key value : List Char} (isKey : key = "relay=".toList) {url : library.RelayUrl}
    (read : library.parseRelayUrl value = .ok url) :
    library.IsDialedParameter (key ++ value) ↔
      '&' ∉ (TransportAddr.relay url : library.TransportAddr).parameter := by
  have keyClear : '&' ∉ key := by
    rw [isKey]
    decide
  have written : (TransportAddr.relay url).parameter = key ++ library.relayUrlText url := by
    rw [isKey]
    rfl
  rw [written, List.mem_append, not_or, IsDialedParameter, ← isKey]
  constructor
  · rintro (⟨other, same, -⟩ | ⟨other, otherUrl, same, otherRead, clear⟩)
    · exact absurd same.symm (keys_differ rfl isKey other value)
    · rw [← List.append_cancel_left same, read, Except.ok.injEq] at otherRead
      exact ⟨keyClear, otherRead ▸ clear⟩
  · rintro ⟨-, clear⟩
    exact Or.inr ⟨value, url, rfl, read, clear⟩

/-- A parameter is dialed when it is read and its canonical form has no `&`. -/
private theorem isDialedParameter_iff
    {part : List Char} {addr : library.TransportAddr}
    (read : library.parseNativeParameter .allAllowed part = .ok addr) :
    library.IsDialedParameter part ↔ '&' ∉ addr.parameter := by
  rcases parseNativeParameter_forms read with ⟨value, rfl⟩ | ⟨value, rfl⟩
  · obtain ⟨address, parsed, port, rfl⟩ := (parseNativeParameter_addr value addr).1 read
    have valid : nativeIrohDirectAddrIsValid value = true := by
      have positive : 0 < address.port := Nat.pos_of_ne_zero port
      rw [nativeIrohDirectAddrIsValid, parsed]
      simpa using positive
    have clear : '&' ∉ "addr=".toList ++ writeSocketAddr address := by
      rw [List.mem_append, not_or]
      exact ⟨by decide, not_mem_writeSocketAddr (parseSocketAddr_accepts parsed).1 (by decide)⟩
    exact iff_of_true (Or.inl ⟨value, rfl, valid⟩) clear
  · obtain ⟨url, parsed, rfl⟩ := (parseNativeParameter_relay value addr).1 read
    exact isDialedParameter_relay rfl parsed

private theorem read_of_isDialedParameter
    {part : List Char} (dialed : library.IsDialedParameter part) :
    ∃ addr, library.parseNativeParameter .allAllowed part = .ok addr := by
  rcases dialed with ⟨value, rfl, valid⟩ | ⟨value, url, rfl, read, -⟩
  · rw [nativeIrohDirectAddrIsValid] at valid
    cases parsed : parseSocketAddr value with
    | none =>
        rw [parsed] at valid
        exact absurd valid (by simp)
    | some address =>
        rw [parsed] at valid
        have port : address.port ≠ 0 := by
          have positive : 0 < address.port := by simpa using valid
          omega
        exact ⟨.ip address, (parseNativeParameter_addr value _).2 ⟨address, parsed, port, rfl⟩⟩
  · exact ⟨.relay url, (parseNativeParameter_relay value _).2 ⟨url, read, rfl⟩⟩

private theorem classify_format
    (lawful : library.Lawful) (id : library.EndpointId) {addrs : List library.TransportAddr}
    (parsed : ∀ addr ∈ addrs, addr.Parsed) :
    classifyEndpoint (library.formatNativeEndpointAddr id addrs).toList =
      .ok (.nativeIroh (trim (library.formatNativeEndpointAddr id addrs).toList)) := by
  rw [classifyEndpoint, trim_format lawful id parsed, toList_format]
  generalize library.endpointIdText id ++ writeNativeAddrs true addrs = rest
  obtain ⟨nonempty, noDirect, noTcp, native, scheme, irohRelay, relay, irohDiscovery,
    discovery⟩ := iroh_scheme rest
  simp only [nonempty, noDirect, noTcp, scheme, irohRelay, relay, irohDiscovery, discovery,
    native, if_true, Bool.or_self, Bool.false_eq_true, if_false]

/-- The transport resolves a canonical endpoint to itself exactly when the `&`
stands between parameters only. -/
private theorem resolves_to_itself_iff
    (lawful : library.Lawful) (peerId : String) (id : library.EndpointId)
    {addrs : List library.TransportAddr} (parsed : ∀ addr ∈ addrs, addr.Parsed) :
    library.resolvePeer .allAllowed
        ⟨peerId, library.formatNativeEndpointAddr id addrs⟩ =
        .ok (.nativeIroh (library.formatNativeEndpointAddr id addrs)) ↔
      ∀ addr ∈ addrs, '&' ∉ addr.parameter := by
  have resolved := @resolvePeer_native library
    ⟨peerId, library.formatNativeEndpointAddr id addrs⟩ (classify_format lawful id parsed)
  rw [resolved, parseNativeEndpoint_format lawful id parsed]
  constructor
  · intro itself
    cases read : (nativeEndpointParameters (writtenQuery addrs)).mapM
        (library.parseNativeParameter .allAllowed) with
    | error error =>
        rw [read] at itself
        exact absurd itself (by simp [Except.map])
    | ok again =>
        rw [read] at itself
        simp only [Except.map, Except.ok.injEq, ResolvedPeer.nativeIroh.injEq] at itself
        exact clear_of_again lawful parsed read (writtenQuery_of_format itself)
  · intro clear
    rw [parameters_writtenQuery clear, read_parameters lawful parsed]
    rfl

/-- A query that the check accepts has a parameter. -/
private theorem addrs_ne_nil
    {query : List Char} {flags : Bool × Bool} {addrs : List library.TransportAddr}
    (hinted : nativeIrohParameters (cutAtMark '#' (query.splitOn '&')) false false = some flags)
    (read : (nativeEndpointParameters query).mapM (library.parseNativeParameter .allAllowed) =
      .ok addrs) : addrs ≠ [] := by
  rw [nativeEndpointParameters] at read
  cases split : query.splitOn '&' with
  | nil => exact absurd split (List.splitOn_ne_nil _ _)
  | cons part rest =>
      rw [split] at hinted read
      by_cases empty : part = []
      · rw [empty, cutAtMark_clear (by simp), nativeIrohParameters_empty] at hinted
        exact absurd hinted (by simp)
      · have kept : (part :: rest).filter (fun part => !part.isEmpty) =
            part :: rest.filter (fun part => !part.isEmpty) := by simp [empty]
        rw [kept] at read
        obtain ⟨addr, more, -, -, rfl⟩ := mapM_cons_eq_ok_iff.1 read
        exact List.cons_ne_nil addr more

/-- Once the transport has read a native endpoint, what is left is how the
parameters are spelled. -/
private theorem dialable_native_iff
    (lawful : library.Lawful) {peer : PeerAddress} {route : SupportedPeerEndpointHintRoute}
    (hinted : supportedNativeIrohHintRoute (trim peer.endpoint.toList) = some route)
    (resolved : library.resolvePeer .allAllowed peer =
      (library.parseNativeEndpoint .allAllowed peer.endpoint.toList).map fun nativePeer =>
        .nativeIroh nativePeer.endpoint)
    {id : library.EndpointId}
    (validId : library.parseEndpointId (nativeEndpointId peer.endpoint) = .ok id) :
    (∃ endpoint,
      library.resolvePeer .allAllowed peer = .ok (.nativeIroh endpoint) ∧
      supportedPeerEndpointHintRoute endpoint = some route ∧
      library.resolvePeer .allAllowed ⟨peer.peerId, endpoint⟩ = .ok (.nativeIroh endpoint)) ↔
      library.WrittenAsDialed peer.endpoint := by
  obtain ⟨split, named, kinds⟩ := native_parts hinted
  rw [resolved, parseNativeEndpoint_eq split named validId]
  constructor
  · rintro ⟨endpoint, itself, supported, again⟩
    cases read : (nativeEndpointParameters (nativeEndpointQuery peer.endpoint)).mapM
        (library.parseNativeParameter .allAllowed) with
    | error error =>
        rw [read] at itself
        exact absurd itself (by simp [Except.map])
    | ok addrs =>
        rw [read] at itself
        simp only [Except.map, Except.ok.injEq, ResolvedPeer.nativeIroh.injEq] at itself
        subst itself
        have parsed := parsed_of_mem read
        have clear := (resolves_to_itself_iff lawful peer.peerId id parsed).1 again
        refine ⟨fun part isPart => ?_, ?_⟩
        · obtain ⟨addr, isAddr, readPart⟩ := mem_results_of_mapM read part isPart
          exact (isDialedParameter_iff readPart).2 (clear addr isAddr)
        · rcases kinds with ⟨empty, -⟩ | ⟨flags, hintRead, -⟩
          · rw [empty]
            exact trivial
          · have agree := hintsAgree_of_read lawful read false false flags hintRead
            have several := addrs_ne_nil hintRead read
            rw [supported_format lawful id parsed clear, if_neg several] at supported
            apply agree.2
            intro refused
            rw [refused] at supported
            exact absurd supported (by simp [routeOfKinds])
  · intro written
    obtain ⟨addrs, read⟩ := exists_mapM_eq_ok_iff.2 fun part isPart =>
      read_of_isDialedParameter (written.parameters part isPart)
    have parsed := parsed_of_mem read
    have clear : ∀ addr ∈ addrs, '&' ∉ addr.parameter := by
      intro addr isAddr
      obtain ⟨part, isPart, readPart⟩ := exists_of_mem_mapM read addr isAddr
      exact (isDialedParameter_iff readPart).1 (written.parameters part isPart)
    refine ⟨library.formatNativeEndpointAddr id addrs, ?_, ?_,
      (resolves_to_itself_iff lawful peer.peerId id parsed).2 clear⟩
    · rw [read]
      rfl
    · rw [supported_format lawful id parsed clear]
      rcases kinds with ⟨empty, isDiscovery⟩ | ⟨flags, hintRead, isRoute⟩
      · rw [empty] at read
        have none : addrs = [] := by
          cases read
          rfl
        rw [if_pos none, isDiscovery]
      · have several := addrs_ne_nil hintRead read
        have agree := hintsAgree_of_read lawful read false false flags hintRead
        rw [if_neg several, agree.1 written.relays]
        exact isRoute

/-- A published hint can be dialed exactly when it names a TCP address, or its
native endpoint is written the way the transport reads it. -/
theorem hint_dialable_iff
    (library : IrohLibrary) (lawful : library.Lawful) (peer : PeerAddress)
    (route : SupportedPeerEndpointHintRoute)
    (hinted : supportedPeerEndpointHintRoute peer.endpoint = some route)
    (validId : route ≠ .directTcp →
      ∃ id, library.parseEndpointId (nativeEndpointId peer.endpoint) = .ok id) :
    library.DialableAs peer route ↔
      route = .directTcp ∨ library.WrittenAsDialed peer.endpoint := by
  rcases classify_of_supported hinted with ⟨isDirect, address, classified, named⟩ |
    ⟨isNative, hintedNative, classified⟩
  · apply iff_of_true _ (Or.inl isDirect)
    have nonempty : (trim address).isEmpty = false := by simpa using named
    rw [DialableAs, if_pos isDirect]
    refine ⟨⟨peer.peerId, String.ofList (trim address)⟩, ?_⟩
    rw [resolvePeer, classified]
    simp only [directTcpPeer, IrohTransportConfig.allAllowed, not_true_eq_false, if_false,
      trim_trim, nonempty, Bool.false_eq_true]
  · obtain ⟨id, valid⟩ := validId isNative
    rw [DialableAs, if_neg isNative, or_iff_right isNative]
    exact dialable_native_iff lawful hintedNative (resolvePeer_native classified) valid

/-! ## Two endpoints of one device -/

def isHexKey (text : List Char) : Bool :=
  text.length == 64 && text.all fun symbol =>
    symbol.isDigit || (decide ('a' ≤ symbol) && decide (symbol ≤ 'f'))

/-- Relay URLs in the form in which they are displayed. -/
def isPlainRelayText (text : List Char) : Bool :=
  match stripPrefix "https://".toList text with
  | none => false
  | some rest =>
      match splitOnce ['/'] rest with
      | none => false
      | some (authority, _) =>
          !authority.isEmpty && text.all fun symbol =>
            !isWhiteSpace symbol && symbol != '#' && symbol != '&'

/-- A library that reads what it displays, and nothing else. -/
def plainLibrary : IrohLibrary where
  EndpointId := { text : List Char // isHexKey text = true }
  parseEndpointId text :=
    if isKey : isHexKey text = true then .ok ⟨text, isKey⟩ else .error "invalid key"
  endpointIdText id := id.1
  RelayUrl := { text : List Char // isPlainRelayText text = true }
  parseRelayUrl text :=
    if isUrl : isPlainRelayText text = true then .ok ⟨text, isUrl⟩ else .error "invalid URL"
  relayUrlText url := url.1

private theorem plain_relay
    {text : List Char} (plain : isPlainRelayText text = true) :
    (∃ authority path, text = "https://".toList ++ (authority ++ '/' :: path) ∧
        authority ≠ [] ∧ '/' ∉ authority) ∧
      ∀ symbol ∈ text, isWhiteSpace symbol = false ∧ symbol ≠ '#' ∧ symbol ≠ '&' := by
  rw [isPlainRelayText] at plain
  cases strip : stripPrefix "https://".toList text with
  | none =>
      simp only [strip] at plain
      exact absurd plain (by simp)
  | some rest =>
      simp only [strip] at plain
      cases cut : splitOnce ['/'] rest with
      | none =>
          simp only [cut] at plain
          exact absurd plain (by simp)
      | some pair =>
          obtain ⟨authority, path⟩ := pair
          obtain ⟨whole, noSlash⟩ := splitOnce_eq_some cut
          simp only [cut, Bool.and_eq_true, Bool.not_eq_true', List.all_eq_true,
            bne_iff_ne] at plain
          refine ⟨⟨authority, path, ?_, ?_, noSlash⟩, ?_⟩
          · rw [← whole]
            exact stripPrefix_eq_some strip
          · intro empty
            rw [empty] at plain
            exact absurd plain.1 (by simp)
          · intro symbol inside
            obtain ⟨⟨solid, noMark⟩, noSeparator⟩ := plain.2 symbol inside
            exact ⟨solid, noMark, noSeparator⟩

private theorem plain_parseRelayUrl
    {text : List Char} {url : plainLibrary.RelayUrl}
    (read : plainLibrary.parseRelayUrl text = .ok url) :
    url.1 = text ∧ isPlainRelayText text = true := by
  have known : (if isUrl : isPlainRelayText text = true
      then (.ok ⟨text, isUrl⟩ : Except String { text : List Char // isPlainRelayText text = true })
      else .error "invalid URL") = .ok url := read
  by_cases isUrl : isPlainRelayText text = true
  · rw [dif_pos isUrl] at known
    exact ⟨congrArg Subtype.val (Except.ok.inj known).symm, isUrl⟩
  · rw [dif_neg isUrl] at known
    exact absurd known (by simp)

private theorem plain_relayUrl_again (url : plainLibrary.RelayUrl) :
    plainLibrary.parseRelayUrl url.1 = .ok url :=
  dif_pos url.2

private theorem plain_parseEndpointId {text : List Char} (isKey : isHexKey text = true) :
    plainLibrary.parseEndpointId text = .ok ⟨text, isKey⟩ :=
  dif_pos isKey

theorem plainLibrary_lawful : plainLibrary.Lawful where
  endpointIdText_length id := by
    have isKey : isHexKey id.1 = true := id.2
    simp only [isHexKey, Bool.and_eq_true, beq_iff_eq] at isKey
    exact isKey.1
  endpointIdText_hex id symbol inside := by
    have isKey : isHexKey id.1 = true := id.2
    simp only [isHexKey, Bool.and_eq_true, List.all_eq_true, Bool.or_eq_true,
      decide_eq_true_eq] at isKey
    exact isKey.2 symbol inside
  endpointId_again id := plain_parseEndpointId id.2
  relayUrl_again text url _ := plain_relayUrl_again url
  relayUrl_trimmed text url read := by
    obtain ⟨same, plain⟩ := plain_parseRelayUrl read
    have solid := (plain_relay plain).2
    have written : plainLibrary.relayUrlText url = text := same
    rw [written]
    exact trim_eq_self (tightEnds_of_all fun symbol inside => (solid symbol inside).1)
  relayUrl_fragment text url read := by
    obtain ⟨same, -⟩ := plain_parseRelayUrl read
    have written : plainLibrary.relayUrlText url = text := same
    rw [written]
  relayUrl_https text url read _ := by
    obtain ⟨same, plain⟩ := plain_parseRelayUrl read
    obtain ⟨⟨authority, path, whole, nonempty, noSlash⟩, solid⟩ := plain_relay plain
    have written : plainLibrary.relayUrlText url = text := same
    have noMark : '#' ∉ text := fun inside => (solid '#' inside).2.1 rfl
    refine ⟨authority, path, ?_, nonempty, noSlash, ?_⟩
    · rw [written, takeWhile_clear noMark, whole]
    · intro symbol inside
      exact (solid symbol (whole ▸ List.mem_append_right _ inside)).1
  relayUrl_decoded text url read _ before after whole _ := by
    obtain ⟨same, plain⟩ := plain_parseRelayUrl read
    have solid := (plain_relay plain).2
    have written : plainLibrary.relayUrlText url = text := same
    have inside : '&' ∈ text := by
      rw [← written, whole]
      simp
    exact absurd rfl (solid '&' inside).2.2

/-- The relay URLs that the check reads, without the white space around them. -/
def hintRelayValues (endpoint : String) : List (List Char) :=
  (((nativeEndpointQuery endpoint).takeWhile (· != '#')).splitOn '&').filterMap
    fun parameter =>
      match splitOnce ['='] parameter with
      | some (key, value) => if trim key = "relay".toList then some (trim value) else none
      | none => none

def deviceEndpointId : String :=
  "ae58ff8833241ac82d6ff7611046ed67b5072d142c588d0063e942d9a75502b6"

def directHome : PeerAddress where
  peerId := "home"
  endpoint := "iroh://" ++ deviceEndpointId ++ "?addr=127.0.0.1:7777"

private theorem plain_deviceKey
    {endpoint : String} (named : nativeEndpointId endpoint = deviceEndpointId.toList) :
    ∃ id, plainLibrary.parseEndpointId (nativeEndpointId endpoint) = .ok id := by
  have isKey : isHexKey deviceEndpointId.toList = true := by decide +kernel
  rw [named]
  exact ⟨_, plain_parseEndpointId isKey⟩

theorem hint_dialable_iff_directHome :
    plainLibrary.DialableAs directHome .nativeIrohDirect ↔
      SupportedPeerEndpointHintRoute.nativeIrohDirect = .directTcp ∨
        plainLibrary.WrittenAsDialed directHome.endpoint :=
  hint_dialable_iff plainLibrary plainLibrary_lawful directHome .nativeIrohDirect
    (by decide +kernel) fun _ => plain_deviceKey (by decide +kernel)

/-- The same endpoint with a fragment is published as it is, but not dialed. -/
def homeWithFragment : PeerAddress where
  peerId := "home"
  endpoint := "iroh://" ++ deviceEndpointId ++ "?addr=127.0.0.1:7777#home"

theorem not_hints_dialable :
    ¬ ∀ (library : IrohLibrary), library.Lawful →
      ∀ (peer : PeerAddress) (route : SupportedPeerEndpointHintRoute),
        supportedPeerEndpointHintRoute peer.endpoint = some route →
        (route ≠ .directTcp →
          ∃ id, library.parseEndpointId (nativeEndpointId peer.endpoint) = .ok id) →
        (∀ value ∈ hintRelayValues peer.endpoint,
          ∃ url, library.parseRelayUrl value = .ok url) →
        library.DialableAs peer route := by
  intro claimed
  have hinted :
      supportedPeerEndpointHintRoute homeWithFragment.endpoint = some .nativeIrohDirect := by
    decide +kernel
  have noRelays : hintRelayValues homeWithFragment.endpoint = [] := by decide +kernel
  have dialable := claimed plainLibrary plainLibrary_lawful homeWithFragment .nativeIrohDirect
    hinted (fun _ => plain_deviceKey (by decide +kernel))
    (by rw [noRelays]; exact fun _ member => absurd member List.not_mem_nil)
  have refused :
      (plainLibrary.resolvePeer .allAllowed homeWithFragment).toBool = false := by
    decide +kernel
  rw [DialableAs, if_neg (by decide)] at dialable
  obtain ⟨endpoint, resolved, -⟩ := dialable
  rw [resolved] at refused
  exact absurd refused (by simp [Except.toBool])

end IrohLibrary

end Chaft
