import XinghaiApi.Lib.HostPort

/-!
# Protection against server side request forgery

The fetch setting says which hosts, addresses and ports the server may fetch from. A host that is
an address has to pass the filter of addresses; any other host has to pass the filter of domains,
and, if the setting asks for it, the addresses that it resolves to have to pass the filter of
addresses as well.
-/

namespace XinghaiApi

open Ip Text

structure FetchSetting where
  enableSSRFProtection : Bool := true
  allowPrivateIp : Bool := false
  /-- `true` for a list of what is allowed, `false` for a list of what is not -/
  domainFilterMode : Bool := false
  ipFilterMode : Bool := false
  domainList : List String := []
  ipList : List String := []
  allowedPorts : List String := ["80", "443", "8080", "8443"]
  applyIPFilterForDomain : Bool := true

structure SSRFProtection where
  allowPrivateIp : Bool
  domainFilterMode : Bool
  domainList : List String
  ipFilterMode : Bool
  ipList : List String
  allowedPorts : List ℤ
  applyIPFilterForDomain : Bool

/-! ### Ports -/

/-- What the library says of a text that is no integer. -/
def atoiError (s : String) : String :=
  let digits := if s.toList.head? ∈ [some '+', some '-'] then s.toList.tail else s.toList
  let why := if (readNumber 10 digits).isSome then "value out of range" else "invalid syntax"
  "strconv.Atoi: parsing \"" ++ s ++ "\": " ++ why

/-- A port is between 1 and 65535. -/
def isPort (port : ℤ) : Bool := 1 ≤ port && port ≤ 65535

def parsePortRange (config : String) : Except String (List ℤ) :=
  match split '-' config with
  | [first, last] =>
    match atoi (trimSpace first) with
    | none => .error s!"invalid start port in range {config}: {atoiError (trimSpace first)}"
    | some startPort =>
      match atoi (trimSpace last) with
      | none => .error s!"invalid end port in range {config}: {atoiError (trimSpace last)}"
      | some endPort =>
        if endPort < startPort then
          .error s!"invalid port range {config}: start port cannot be greater than end port"
        else if !isPort startPort || !isPort endPort then
          .error s!"port range {config} contains invalid port numbers (must be 1-65535)"
        else
          .ok ((List.range (endPort - startPort + 1).toNat).map fun i => startPort + (i : ℕ))
  | _ => .error s!"invalid port range format: {config}"

def parsePortConfig (config : String) : Except String (List ℤ) :=
  if config = "" then .ok []
  else if contains config "-" then parsePortRange config
  else
    match atoi config with
    | none      => .error s!"invalid port number: {config}"
    | some port =>
      if isPort port then .ok [port]
      else .error s!"invalid port number {port} (must be 1-65535)"

def parsePortRanges (portConfigs : List String) : Except String (List ℤ) :=
  (portConfigs.mapM fun config => parsePortConfig (trimSpace config)).map List.flatten

def newSSRFProtectionFromFetchSetting (setting : FetchSetting) : Except String SSRFProtection :=
  match parsePortRanges setting.allowedPorts with
  | .error err          => .error s!"request reject - invalid port configuration: {err}"
  | .ok allowedPortInts => .ok {
    allowPrivateIp := setting.allowPrivateIp
    domainFilterMode := setting.domainFilterMode
    domainList := setting.domainList
    ipFilterMode := setting.ipFilterMode
    ipList := setting.ipList
    allowedPorts := allowedPortInts
    applyIPFilterForDomain := setting.applyIPFilterForDomain }

lemma applyIPFilterForDomain_of_new {setting : FetchSetting} {p : SSRFProtection}
    (h : newSSRFProtectionFromFetchSetting setting = .ok p) :
    p.applyIPFilterForDomain = setting.applyIPFilterForDomain := by
  rw [newSSRFProtectionFromFetchSetting] at h
  cases hports : parsePortRanges setting.allowedPorts with
  | error err => simp [hports] at h
  | ok ports =>
    obtain rfl := Except.ok.inj (by simpa only [hports] using h)
    rfl

/-! ### Private addresses -/

def privateIPv4Nets : List Network :=
  [v4Network 0 0 0 0 8, v4Network 10 0 0 0 8, v4Network 100 64 0 0 10, v4Network 127 0 0 0 8,
    v4Network 169 254 0 0 16, v4Network 172 16 0 0 12, v4Network 192 0 0 0 24,
    v4Network 192 0 2 0 24, v4Network 192 168 0 0 16, v4Network 198 18 0 0 15,
    v4Network 198 51 100 0 24, v4Network 203 0 113 0 24, v4Network 224 0 0 0 4,
    v4Network 240 0 0 0 4, v4Network 255 255 255 255 32]

def privateIPv6Nets : List Network :=
  ["::/128", "::1/128", "::ffff:0:0/96", "64:ff9b::/96", "100::/64", "2001::/23", "2001:db8::/32",
    "fc00::/7", "fe80::/10", "ff00::/8"].filterMap parseCIDR

def isPrivateIP (ip : IP) : Bool :=
  ip.isUnspecified || ip.isLoopback || ip.isLinkLocalUnicast || ip.isLinkLocalMulticast ||
    ip.isInterfaceLocalMulticast ||
    if ip.isV4 then privateIPv4Nets.any (·.contains ip)
    else privateIPv6Nets.any (·.contains ip) || ip.isPrivate

/-! ### Lists of domains and addresses -/

/-- An entry is a domain, or a domain with all its subdomains. -/
def domainMatches (domain item : String) : Bool :=
  item ≠ "" && (domain = item ||
    hasPrefix item "*." &&
      let suffix := String.ofList (item.toList.drop 2)
      hasSuffix domain ("." ++ suffix) || domain = suffix)

def isDomainListed (domain : String) (list : List String) : Bool :=
  list.any fun item => domainMatches (toLower domain) (toLower (trimSpace item))

/-- An entry is a network or one address. -/
def isIpInCIDRList (ip : IP) (cidrList : List String) : Bool :=
  cidrList.any fun cidr =>
    match parseCIDR cidr with
    | some network => network.contains ip
    | none         => parseIP cidr = some ip

namespace SSRFProtection

variable (p : SSRFProtection)

def isAllowedPort (port : ℤ) : Bool := p.allowedPorts = [] || port ∈ p.allowedPorts

def isDomainAllowed (domain : String) : Bool :=
  if p.domainFilterMode then isDomainListed domain p.domainList
  else !isDomainListed domain p.domainList

def isIPAccessAllowed (ip : IP) : Bool :=
  if isPrivateIP ip && !p.allowPrivateIp then false
  else if p.ipFilterMode then isIpInCIDRList ip p.ipList
  else !isIpInCIDRList ip p.ipList

def ipAccessError (host : String) (ip : IP) : String :=
  let target := if host ≠ "" then s!"{host} resolves to {ip.string}" else ip.string
  if isPrivateIP ip && !p.allowPrivateIp then s!"private IP address not allowed: {target}"
  else if p.ipFilterMode then s!"ip not in whitelist: {target}"
  else s!"ip in blacklist: {target}"

def validateNetworkTarget (host : String) (port : ℤ) : Except String Unit :=
  let host := trimSpace host
  if host = "" then .error "invalid host"
  else if !isPort port then .error s!"invalid port: {port}"
  else if !p.isAllowedPort port then .error s!"port {port} is not allowed"
  else
    match parseIP host with
    | some ip => if p.isIPAccessAllowed ip then .ok () else .error (p.ipAccessError "" ip)
    | none    =>
      if p.isDomainAllowed host then .ok ()
      else if p.domainFilterMode then .error s!"domain not in whitelist: {host}"
      else .error s!"domain in blacklist: {host}"

def validateResolvedIP (host : String) (ip : IP) : Except String Unit :=
  if p.isIPAccessAllowed ip then .ok () else .error (p.ipAccessError host ip)

end SSRFProtection

/-! ### What an accepted target has passed -/

variable {p : SSRFProtection} {host : String} {port : ℤ} {ip : IP}

/-- A host and a port that may be dialled. A host that is an address does not meet the filter of
domains. -/
structure TargetAllowed (p : SSRFProtection) (host : String) (port : ℤ) : Prop where
  port : isPort port = true ∧ p.isAllowedPort port = true
  host : (∃ ip, parseIP (trimSpace host) = some ip ∧ p.isIPAccessAllowed ip = true) ∨
    parseIP (trimSpace host) = none ∧ p.isDomainAllowed (trimSpace host) = true

lemma validateNetworkTarget_eq_ok (h : p.validateNetworkTarget host port = .ok ()) :
    TargetAllowed p host port := by
  cases hparse : parseIP (trimSpace host) with
  | some ip =>
    simp only [SSRFProtection.validateNetworkTarget, hparse] at h
    split_ifs at h with hhost hport hallowed hip
    exact ⟨⟨by simpa using hport, by simpa using hallowed⟩, Or.inl ⟨ip, hparse, hip⟩⟩
  | none =>
    simp only [SSRFProtection.validateNetworkTarget, hparse] at h
    split_ifs at h with hhost hport hallowed hdomain
    exact ⟨⟨by simpa using hport, by simpa using hallowed⟩, Or.inr ⟨hparse, hdomain⟩⟩

/-- The address that a host is has passed the filter of addresses. -/
lemma TargetAllowed.isIPAccessAllowed (h : TargetAllowed p host port)
    (hparse : parseIP host = some ip) : p.isIPAccessAllowed ip = true := by
  have htrim := h.host
  rw [trimSpace_of_parseIP hparse, hparse] at htrim
  rcases htrim with ⟨ip', heq, hallowed⟩ | ⟨hnone, -⟩
  · obtain rfl := Option.some.inj heq
    exact hallowed
  · cases hnone

lemma validateResolvedIP_eq_ok_iff :
    p.validateResolvedIP host ip = .ok () ↔ p.isIPAccessAllowed ip = true := by
  rw [SSRFProtection.validateResolvedIP]
  split_ifs with h <;> simp [h]

end XinghaiApi
