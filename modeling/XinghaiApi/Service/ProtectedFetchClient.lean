import XinghaiApi.Common.SsrfProtection
import XinghaiApi.Lib.Except
import XinghaiApi.Lib.Run

/-!
# The protected fetch client

The client checks the address of a request before it is sent, that of a redirect before it is
followed, and the target of a connection once more when it is dialled. Each of these looks up the
host for itself, and the answers may differ. Whatever they are, a connection is only dialled to an
address that the filter accepts.
-/

namespace XinghaiApi

open Ip Text List

/-! ### Addresses of requests -/

/-- What the client reads of an URL. -/
structure Url where
  scheme : String
  host : String

namespace Url

variable (u : Url)

/-- The host without the digits of a port, and the digits. -/
def splitPort : List Char × List Char :=
  let front := u.host.toList.rdropWhile (·.isDigit)
  if front.getLast? = some ':' then (front.dropLast, u.host.toList.rtakeWhile (·.isDigit))
  else (u.host.toList, [])

def hostname : String :=
  let host := u.splitPort.1
  if host.head? = some '[' ∧ host.getLast? = some ']' then String.ofList host.tail.dropLast
  else String.ofList host

def defaultPort : String :=
  if u.scheme = "http" then "80" else if u.scheme = "https" then "443" else ""

end Url

/-- The functions of the libraries for addresses: how an address is read and written, and the
ASCII form of a host, which is the host itself if it has none. -/
structure UrlPackage where
  parse : String → Except String Url
  string : Url → String
  idnaASCII : String → String

/-- The target of the connection for a request. -/
def UrlPackage.canonicalAddr (urls : UrlPackage) (u : Url) : String :=
  let port := String.ofList u.splitPort.2
  joinHostPort (urls.idnaASCII u.hostname) (if port = "" then u.defaultPort else port)

/-- The answer of a lookup; a resolver may give entries without an address. -/
abbrev Lookup := Except String (List (Option IP))

/-- The check of the addresses that a host resolves to stops at the first one that is refused. -/
def SSRFProtection.validateResolvedIPs (p : SSRFProtection) (host : String) :
    List IP → Except String Unit
  | []        => .ok ()
  | ip :: ips => do
    p.validateResolvedIP host ip
    p.validateResolvedIPs host ips

/-- The host and the port of an address; a host without a port has that of the protocol. -/
def Url.hostPort (u : Url) : String × String :=
  match splitHostPort u.host with
  | .ok hostPort => hostPort
  | .error _     => (u.hostname, if u.scheme = "https" then "443" else "80")

def SSRFProtection.validateURL (p : SSRFProtection) (urls : UrlPackage) (lookup : Lookup)
    (urlStr : String) : Except String Unit :=
  match urls.parse urlStr with
  | .error err => .error s!"invalid URL format: {err}"
  | .ok u =>
    if u.scheme ≠ "http" ∧ u.scheme ≠ "https" then
      .error s!"unsupported protocol: {u.scheme} (only http/https allowed)"
    else
      let (host, portStr) := u.hostPort
      match atoi portStr with
      | none => .error s!"invalid port: {portStr}"
      | some port => do
        p.validateNetworkTarget host port
        if (parseIP host).isSome ∨ p.applyIPFilterForDomain = false then return
        match lookup with
        | .error err => .error s!"DNS resolution failed for {host}: {err}"
        | .ok ips    => p.validateResolvedIPs host (ips.filterMap id)

/-- The protection that the setting asks for, nothing if it is turned off. -/
def currentFetchProtection (setting : FetchSetting) : Except String (Option SSRFProtection) :=
  if setting.enableSSRFProtection then (newSSRFProtectionFromFetchSetting setting).map some
  else .ok none

def validateSSRFProtectedFetchURL (setting : FetchSetting) (urls : UrlPackage) (lookup : Lookup)
    (urlStr : String) : Except String Unit := do
  match ← currentFetchProtection setting with
  | none   => return
  | some p => p.validateURL urls lookup urlStr

/-! ### Dialling -/

/-- What the network does with one call of the dialer: the answer of its lookup, and the error of
the `n`-th connection that it tries, if there is one. -/
structure DialEnv where
  resolved : Lookup
  connect : ℕ → Option String

/-- One call of the dialer: its target, the addresses that its lookup gave, those that it handed
to the underlying dialer, and the error it ended with. -/
structure Dial where
  addr : String
  resolved : List IP := []
  dialed : List String := []
  err : Option String := none
deriving DecidableEq

def networkAllowsIP (network : String) (ip : IP) : Bool :=
  if network = "tcp4" then ip.isV4 else if network = "tcp6" then !ip.isV4 else true

/-- The addresses that may be dialled; one that is refused refuses them all. -/
def SSRFProtection.candidateIPs (p : SSRFProtection) (host network : String) :
    List (Option IP) → Except String (List IP)
  | []              => .ok []
  | none :: rest    => p.candidateIPs host network rest
  | some ip :: rest =>
    if networkAllowsIP network ip then
      match p.validateResolvedIP host ip with
      | .error err => .error err
      | .ok ()     => (p.candidateIPs host network rest).map (ip :: ·)
    else p.candidateIPs host network rest

/-- The addresses are tried one after the other, up to the first that connects. -/
def dialInOrder (connect : ℕ → Option String) :
    ℕ → Option String → List String → List String × Option String
  | _, lastErr, []              => ([], lastErr)
  | n, _,       target :: rest =>
    match connect n with
    | none     => ([target], none)
    | some err =>
      let (dialed, result) := dialInOrder connect (n + 1) (some err) rest
      (target :: dialed, result)

/-- The targets are tried in order; without one the dialer ends with `noTarget`. -/
def DialEnv.dialAll (env : DialEnv) (addr : String) (resolved : List IP) (noTarget : String)
    (targets : List String) : Dial :=
  let (dialed, err) := dialInOrder env.connect 0 (some noTarget) targets
  { addr, resolved, dialed, err }

def SSRFProtection.dialProtected (p : SSRFProtection) (env : DialEnv) (network addr : String) :
    Dial :=
  let refuse (err : String) : Dial := { addr, err := some err }
  match splitHostPort addr with
  | .error err => refuse s!"invalid dial address {addr}: {err}"
  | .ok (host, portText) =>
    match atoi portText with
    | none => refuse s!"invalid port: {portText}"
    | some port =>
      match p.validateNetworkTarget host port with
      | .error err => refuse err
      | .ok ()     =>
        match parseIP host with
        | some ip => env.dialAll addr [] "" [joinHostPort ip.string portText]
        | none    =>
          if p.applyIPFilterForDomain = false then env.dialAll addr [] "" [addr]
          else
            match env.resolved with
            | .error err   => refuse s!"DNS resolution failed for {host}: {err}"
            | .ok resolved =>
              match p.candidateIPs host network resolved with
              | .error err        => { addr, resolved := resolved.filterMap id, err := some err }
              | .ok candidateIPs =>
                env.dialAll addr (resolved.filterMap id)
                  s!"DNS resolution for {host} returned no usable IP addresses"
                  (candidateIPs.map fun ip => joinHostPort ip.string portText)

/-- `DialContext`: the protection is read anew for every connection. -/
def dialContext (setting : FetchSetting) (env : DialEnv) (network addr : String) : Dial :=
  match currentFetchProtection setting with
  | .error err   => { addr, err := some err }
  | .ok none     => env.dialAll addr [] "" [addr]
  | .ok (some p) => p.dialProtected env network addr

/-! ### Requests and redirects -/

/-- One request of the client: the lookup of the check before it, the connections that the
transport dials for it, none if an idle one is used, and the address that the answer redirects to
with the lookup of the check before that is followed. -/
structure Round where
  lookup : Lookup
  dials : List DialEnv
  redirect : Option (Url × Lookup) := none

def checkProtectedFetchRedirect (setting : FetchSetting) (urls : UrlPackage) (lookup : Lookup)
    (u : Url) (via : ℕ) : Except String Unit :=
  match validateSSRFProtectedFetchURL setting urls lookup (urls.string u) with
  | .error err => .error s!"redirect to {urls.string u} blocked: {err}"
  | .ok ()     => if 10 ≤ via then .error "stopped after 10 redirects" else .ok ()

/-- A request that the client is about to send, with what it has dialled so far. -/
structure FetchState where
  url : Url
  via : ℕ := 0
  dials : List Dial := []
  result : Option (Except String Unit) := none

/-- `RoundTrip` without a proxy: the connections dialled for the request, and the last error if
none of them connects. -/
def roundTrip (setting : FetchSetting) (urls : UrlPackage) (u : Url) (r : Round) :
    List Dial × Except String Unit :=
  match validateSSRFProtectedFetchURL setting urls r.lookup (urls.string u) with
  | .error err => ([], .error err)
  | .ok ()     =>
    let dials := r.dials.map (dialContext setting · "tcp" (urls.canonicalAddr u))
    match dials.getLast? with
    | none      => (dials, .ok ())
    | some last => (dials, last.err.elim (.ok ()) .error)

/-- The client sends the request, and follows the redirect if it may. -/
def fetchStep (setting : FetchSetting) (urls : UrlPackage) (s : FetchState) (r : Round) :
    FetchState :=
  if s.result.isSome then s
  else
    let (dials, answer) := roundTrip setting urls s.url r
    let s := { s with dials := s.dials ++ dials }
    match answer with
    | .error err => { s with result := some (.error err) }
    | .ok ()     =>
      match r.redirect with
      | none             => { s with result := some (.ok ()) }
      | some (u, lookup) =>
        match checkProtectedFetchRedirect setting urls lookup u (s.via + 1) with
        | .error err => { s with result := some (.error err) }
        | .ok ()     => { s with url := u, via := s.via + 1 }

/-! ### What a dialled connection has passed -/

variable {p : SSRFProtection} {env : DialEnv} {addr host portText target noTarget : String}
  {targets : List String} {resolved : List IP}

/-- A text that the underlying dialer may be given: an address that the filter accepts, with an
allowed port. -/
def TargetAccepted (p : SSRFProtection) (target : String) : Prop :=
  ∃ text portText ip port, splitHostPort target = .ok (text, portText) ∧
    parseIP text = some ip ∧ p.isIPAccessAllowed ip = true ∧
    atoi portText = some port ∧ isPort port = true ∧ p.isAllowedPort port = true

/-- What holds of every call of the dialer. -/
structure DialAllowed (p : SSRFProtection) (d : Dial) : Prop where
  targets : ∀ target ∈ d.dialed, TargetAccepted p target
  /-- the host is an address itself, or the filter of domains accepts it -/
  host : d.dialed ≠ [] → ∃ host portText, splitHostPort d.addr = .ok (host, portText) ∧
    ((∃ ip, parseIP (trimSpace host) = some ip) ∨ p.isDomainAllowed (trimSpace host) = true)
  refused : (∃ ip ∈ d.resolved, p.isIPAccessAllowed ip = false) → d.dialed = []

lemma mem_dialInOrder {connect : ℕ → Option String} {n : ℕ} {lastErr : Option String}
    (h : target ∈ (dialInOrder connect n lastErr targets).1) : target ∈ targets := by
  induction targets generalizing n lastErr with
  | nil => simp [dialInOrder] at h
  | cons first rest ih =>
    rw [dialInOrder] at h
    cases hconnect : connect n with
    | none => simp_all
    | some err =>
      simp only [hconnect, mem_cons] at h
      rcases h with rfl | h
      · exact mem_cons_self
      · exact mem_cons_of_mem _ (ih h)

lemma targetAccepted_joinHostPort {ip : IP} {port : ℤ} (hip : p.isIPAccessAllowed ip = true)
    (hport : atoi portText = some port) (h : TargetAllowed p host port) :
    TargetAccepted p (joinHostPort ip.string portText) :=
  ⟨ip.string, portText, ip, port, splitHostPort_string hport, parseIP_string ip, hip, hport,
    h.port.1, h.port.2⟩

/-- If one address of the answer is refused there is no candidate, if none is they all are. -/
lemma candidateIPs_eq_ok {answer : List (Option IP)} {ips : List IP}
    (h : p.candidateIPs host "tcp" answer = .ok ips) :
    (∀ ip ∈ ips, p.isIPAccessAllowed ip = true) ∧
      ∀ ip ∈ answer.filterMap id, p.isIPAccessAllowed ip = true := by
  induction answer generalizing ips with
  | nil =>
    obtain rfl := Except.ok.inj h
    simp
  | cons entry rest ih =>
    cases entry with
    | none => simpa using ih h
    | some ip =>
      rw [SSRFProtection.candidateIPs, if_pos (by simp [networkAllowsIP])] at h
      cases hvalid : p.validateResolvedIP host ip with
      | error err => simp [hvalid] at h
      | ok u =>
        simp only [hvalid, Except.map_eq_ok] at h
        obtain ⟨others, hrest, rfl⟩ := h
        have hip := validateResolvedIP_eq_ok_iff.mp hvalid
        obtain ⟨hothers, hanswer⟩ := ih hrest
        simp only [mem_cons, forall_eq_or_imp, filterMap_cons, id_eq]
        exact ⟨⟨hip, hothers⟩, hip, hanswer⟩

lemma dialAllowed_of_nil {d : Dial} (h : d.dialed = []) : DialAllowed p d :=
  ⟨by simp [h], fun hne => absurd h hne, fun _ => h⟩

lemma dialAllowed_dialAll (htargets : ∀ target ∈ targets, TargetAccepted p target)
    (hhost : ∃ host portText, splitHostPort addr = .ok (host, portText) ∧
      ((∃ ip, parseIP (trimSpace host) = some ip) ∨ p.isDomainAllowed (trimSpace host) = true))
    (hresolved : ∀ ip ∈ resolved, p.isIPAccessAllowed ip = true) :
    DialAllowed p (env.dialAll addr resolved noTarget targets) := by
  refine ⟨fun target h => htargets target (mem_dialInOrder h), fun _ => hhost, ?_⟩
  rintro ⟨ip, hip, hrefused⟩
  simp [hresolved ip hip] at hrefused

/-- A call of the dialer that filters the addresses of domains. -/
lemma dialAllowed_dialProtected (happly : p.applyIPFilterForDomain = true) (env : DialEnv)
    (addr : String) : DialAllowed p (p.dialProtected env "tcp" addr) := by
  rw [SSRFProtection.dialProtected]
  cases hsplit : splitHostPort addr with
  | error err => exact dialAllowed_of_nil rfl
  | ok hostPort =>
    obtain ⟨host, portText⟩ := hostPort
    cases hport : atoi portText with
    | none => simpa only [hport] using dialAllowed_of_nil rfl
    | some port =>
      cases hvalid : p.validateNetworkTarget host port with
      | error err => simpa only [hport, hvalid] using dialAllowed_of_nil rfl
      | ok u =>
        have hallowed := validateNetworkTarget_eq_ok hvalid
        have hhost : ∃ host portText, splitHostPort addr = .ok (host, portText) ∧
            ((∃ ip, parseIP (trimSpace host) = some ip) ∨
              p.isDomainAllowed (trimSpace host) = true) :=
          ⟨host, portText, hsplit, hallowed.host.imp (fun ⟨ip, hip, _⟩ => ⟨ip, hip⟩) And.right⟩
        cases hparse : parseIP host with
        | some ip =>
          have hip := hallowed.isIPAccessAllowed hparse
          simp only [hport, hvalid, hparse]
          refine dialAllowed_dialAll ?_ hhost (by simp)
          simpa using targetAccepted_joinHostPort hip hport hallowed
        | none =>
          simp only [hport, hvalid, hparse, happly, Bool.true_eq_false, if_false]
          cases hanswer : env.resolved with
          | error err => exact dialAllowed_of_nil rfl
          | ok answer =>
            cases hips : p.candidateIPs host "tcp" answer with
            | error err => simpa only [hips] using dialAllowed_of_nil rfl
            | ok ips =>
              obtain ⟨hcandidates, hresolved⟩ := candidateIPs_eq_ok hips
              simp only [hips]
              refine dialAllowed_dialAll (fun target htarget => ?_) hhost hresolved
              obtain ⟨ip, hmem, rfl⟩ := mem_map.mp htarget
              exact targetAccepted_joinHostPort (hcandidates ip hmem) hport hallowed

/-! ### Runs of the client -/

variable {setting : FetchSetting} {urls : UrlPackage} {s : FetchState} {r : Round}

/-- Every call of the dialer has kept to the protection of the setting. -/
def DialsAllowed (setting : FetchSetting) (dials : List Dial) : Prop :=
  ∀ d ∈ dials, d.dialed = [] ∨ ∃ p, currentFetchProtection setting = .ok (some p) ∧ DialAllowed p d

section

variable (henabled : setting.enableSSRFProtection = true)
  (happly : setting.applyIPFilterForDomain = true)

include henabled happly

lemma dialAllowed_dialContext (env : DialEnv) (addr : String) :
    (dialContext setting env "tcp" addr).dialed = [] ∨
      ∃ p, currentFetchProtection setting = .ok (some p) ∧
        DialAllowed p (dialContext setting env "tcp" addr) := by
  cases hnew : newSSRFProtectionFromFetchSetting setting with
  | error err =>
    have hcurrent : currentFetchProtection setting = .error err := by
      simp [currentFetchProtection, henabled, hnew, Except.map]
    exact Or.inl (by simp [dialContext, hcurrent])
  | ok p =>
    have hcurrent : currentFetchProtection setting = .ok (some p) := by
      simp [currentFetchProtection, henabled, hnew, Except.map]
    have hdial : dialContext setting env "tcp" addr = p.dialProtected env "tcp" addr := by
      simp [dialContext, hcurrent]
    refine Or.inr ⟨p, hcurrent, hdial ▸ dialAllowed_dialProtected ?_ env addr⟩
    rw [← happly]
    exact applyIPFilterForDomain_of_new hnew

lemma dialsAllowed_roundTrip (u : Url) (r : Round) :
    DialsAllowed setting (roundTrip setting urls u r).1 := by
  have hdials : (roundTrip setting urls u r).1 = [] ∨ (roundTrip setting urls u r).1 =
      r.dials.map (dialContext setting · "tcp" (urls.canonicalAddr u)) := by
    simp only [roundTrip]
    split
    · exact Or.inl rfl
    · split <;> exact Or.inr rfl
  intro d hd
  rcases hdials with hnil | hmap
  · simp [hnil] at hd
  · obtain ⟨env, -, rfl⟩ := mem_map.mp (hmap ▸ hd)
    exact dialAllowed_dialContext henabled happly env _

end

/-- The calls of one step are added to those before. -/
lemma fetchStep_dials (s : FetchState) (r : Round) :
    (fetchStep setting urls s r).dials = s.dials ∨
      (fetchStep setting urls s r).dials = s.dials ++ (roundTrip setting urls s.url r).1 := by
  rw [fetchStep]
  split_ifs
  · exact Or.inl rfl
  · rcases roundTrip setting urls s.url r with ⟨dials, err | _⟩
    · exact Or.inr rfl
    · rcases r.redirect with _ | ⟨u, lookup⟩
      · exact Or.inr rfl
      · dsimp only
        rcases checkProtectedFetchRedirect setting urls lookup u (s.via + 1) with err | _
        · exact Or.inr rfl
        · exact Or.inr rfl

lemma DialsAllowed.fetchStep (henabled : setting.enableSSRFProtection = true)
    (happly : setting.applyIPFilterForDomain = true) (h : DialsAllowed setting s.dials) :
    DialsAllowed setting (fetchStep setting urls s r).dials := by
  intro d hd
  rcases fetchStep_dials s r with hsame | hadded
  · exact h d (hsame ▸ hd)
  · rcases mem_append.mp (hadded ▸ hd) with hold | hnew
    · exact h d hold
    · exact dialsAllowed_roundTrip henabled happly s.url r d hnew

/-- Whatever the lookups answer and wherever the redirects lead, the client only dials addresses
that the filter accepts, on allowed ports, for hosts that are addresses or that the filter of
domains accepts, and it dials none of the addresses of a lookup if one of them is refused. -/
theorem dialsAllowed_fetch (henabled : setting.enableSSRFProtection = true)
    (happly : setting.applyIPFilterForDomain = true) (urls : UrlPackage) (u : Url)
    (rounds : List Round) :
    DialsAllowed setting (Machine.run (fetchStep setting urls) { url := u } rounds).dials :=
  Machine.run_invariant (I := fun s : FetchState => DialsAllowed setting s.dials)
    (fun _ _ h => h.fetchStep henabled happly) (by simp [DialsAllowed]) rounds

/-! ### Two requests -/

/-- Addresses as they are written for a request to the root of a host. -/
def plainUrls : UrlPackage where
  parse s :=
    match split '/' s with
    | ["http:", "", host, ""] => .ok { scheme := "http", host }
    | _ => .error "not plain"
  string u := u.scheme ++ "://" ++ u.host ++ "/"
  idnaASCII := id

def publicAnswer : Lookup := .ok [some (ipv4 93 184 216 34), some (ipv4 93 184 216 35)]

def localAnswer : Lookup := .ok [some (ipv4 93 184 216 34), some (ipv4 127 0 0 1)]

/-- A host whose second answer has a public address, and whose answer after the redirect has one
that is not. -/
def rebindingRounds : List Round :=
  [{ lookup := publicAnswer, dials := [{ resolved := publicAnswer, connect := fun _ => none }],
     redirect := some ({ scheme := "http", host := "example.com" }, publicAnswer) },
   { lookup := publicAnswer, dials := [{ resolved := localAnswer, connect := fun _ => none }] }]

theorem dialsAllowed_fetch_rebinding :
    let s := Machine.run (fetchStep {} plainUrls)
      { url := { scheme := "http", host := "example.com" } } rebindingRounds
    s.dials.map Dial.dialed = [["93.184.216.34:80"], []] ∧ DialsAllowed {} s.dials :=
  ⟨by decide +kernel, dialsAllowed_fetch rfl rfl plainUrls _ _⟩

def exampleOnly : FetchSetting := { domainFilterMode := true, domainList := ["example.com"] }

def exampleOnlyProtection : SSRFProtection where
  allowPrivateIp := false
  domainFilterMode := true
  domainList := ["example.com"]
  ipFilterMode := false
  ipList := []
  allowedPorts := [80, 443, 8080, 8443]
  applyIPFilterForDomain := true

/-- The host of a request may be an address, and the filter of domains does not see it. -/
theorem fetch_dials_refused_host :
    currentFetchProtection exampleOnly = .ok (some exampleOnlyProtection) ∧
      exampleOnlyProtection.applyIPFilterForDomain = true ∧
      ∃ rounds, ∃ d ∈ (Machine.run (fetchStep exampleOnly plainUrls)
          { url := { scheme := "http", host := "8.8.8.8" } } rounds).dials,
        d.dialed = ["8.8.8.8:80"] ∧ splitHostPort d.addr = .ok ("8.8.8.8", "80") ∧
          exampleOnlyProtection.isDomainAllowed "8.8.8.8" = false := by
  refine ⟨by rfl, rfl, [{ lookup := .ok [], dials := [⟨.ok [], fun _ => none⟩] }],
    { addr := "8.8.8.8:80", dialed := ["8.8.8.8:80"] }, by decide +kernel, rfl, by rfl,
    by decide +kernel⟩

end XinghaiApi
