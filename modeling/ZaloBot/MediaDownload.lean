import ZaloBot.MediaAddresses
import ZaloBot.ProviderSend

/-!
# Downloading media

The downloader follows redirects by itself: every hop validates the URL, looks
its host up, filters the addresses, and makes one request that is pinned to
them.  The URL parser is outside the repository; it and the parser of literal
addresses are parameters.  What the clock, the resolver and the remote servers
do at each hop is decided by the environment, so a download is determined by
its start URL and the sequence of its hops.
-/

namespace ZaloBot

namespace Media

open ProviderSend
open Redaction (redactValue)

/-- A parsed URL. -/
structure Url where
  scheme : String
  username : String
  password : Option String
  host : Option String
  port : Option Nat
  path : String
deriving DecidableEq, Repr

/-- `port_or_known_default`. -/
def Url.portOrKnownDefault (url : Url) : Option Nat :=
  match url.port with
  | some port => some port
  | none =>
      if url.scheme = "http" ∨ url.scheme = "ws" then some 80
      else if url.scheme = "https" ∨ url.scheme = "wss" then some 443
      else if url.scheme = "ftp" then some 21
      else none

/-- `Url::parse`, `Url::join` and `str::parse::<IpAddr>`. -/
structure UrlLibrary where
  parse : String → Option Url
  join : Url → String → Option Url
  parseIp : String → Option IpAddr

/-- The policy of a download without its timeout. -/
structure MediaDownloadPolicy where
  hostSuffixes : List String
  maxBytes : Nat
  maxRedirects : Nat
  requireHttps : Bool
  permitPrivateResolvedAddresses : Bool
  allowedExplicitPort : Option Nat
deriving DecidableEq, Repr

/-- `production_default`. -/
def MediaDownloadPolicy.productionDefault : MediaDownloadPolicy where
  hostSuffixes :=
    ["zaloplatforms.com", "zaloapp.com", "zdn.vn", "zadn.vn", "zapps.me"]
  maxBytes := 10 * 1024 * 1024
  maxRedirects := 3
  requireHttps := true
  permitPrivateResolvedAddresses := false
  allowedExplicitPort := none

structure MediaDownloadResult where
  bytes : List UInt8
  contentType : Option String
deriving DecidableEq, Repr

/-- What `timeout_at` makes of an operation. -/
inductive Awaited (Value : Type) where
  | elapsed
  | done (value : Value)
deriving DecidableEq, Repr

/-- One call of `response.chunk()` before the end of the body. -/
abbrev ChunkRead := Awaited (Except TransportError (List UInt8))

/-- A response; headers are given as texts where they are texts. -/
structure MediaResponse where
  status : Nat
  location : Option String
  contentLength : Option Nat
  contentLengthHeader : Option String
  contentTypeHeader : Option String
  chunks : List ChunkRead
deriving DecidableEq, Repr

/-- What the environment decides at one hop. -/
structure Hop where
  beginsInTime : Bool
  resolved : Awaited (Except ZaloProviderError (List IpAddr))
  resolvedInTime : Bool
  clientBuilt : Bool
  response : Awaited (Except TransportError MediaResponse)
deriving DecidableEq, Repr

/-- A request of a client that is pinned to addresses. -/
structure MediaRequest where
  url : Url
  socketAddrs : List (IpAddr × Nat)
deriving DecidableEq, Repr

/-- The requests of a download, in order, and its result. -/
structure Download where
  requests : List MediaRequest
  result : Except ZaloProviderError MediaDownloadResult
deriving DecidableEq, Repr

section Texts

/-- `attach_media_context`. -/
def attachMediaContext (error : ZaloProviderError) (url : String) :
    ZaloProviderError :=
  { error with needles := { error.needles with url := url } }

/-- `validation(message).attach_media_context(url)`. -/
def invalid (url message : String) : ZaloProviderError :=
  attachMediaContext (.new .validation message) url

/-- `timeout_error().attach_media_context(url)`. -/
def timedOut (url : String) : ZaloProviderError :=
  attachMediaContext (.new .timeout "media download timed out") url

/-- `map_transport_error`. -/
def mapMediaTransportError (url : String) (error : TransportError) :
    ZaloProviderError :=
  if error.isTimeout then
    timedOut url
  else
    attachMediaContext (.new .providerError
      ("media download failed: " ++ redactValue error.cause "" "" "" url)) url

/-- `classify_http_status`. -/
def classifyMediaStatus (status : Nat) (url : String) : ZaloProviderError :=
  let errorClass : ErrorClass :=
    if status = 429 then .rateLimited
    else if 500 ≤ status ∧ status ≤ 599 then .providerError
    else .validation
  attachMediaContext (.new errorClass
    ("media download returned HTTP " ++ toString status)) url

/-- `str::parse::<u64>`. -/
def parseU64 (text : String) : Option Nat :=
  let digits :=
    match text.toList with
    | '+' :: rest => rest
    | all => all
  if digits.isEmpty || !digits.all Char.isDigit then
    none
  else
    let value := digits.foldl (fun total digit =>
      total * 10 + (digit.toNat - '0'.toNat)) 0
    if value < 2 ^ 64 then some value else none

end Texts

section Checks

variable (library : UrlLibrary) (policy : MediaDownloadPolicy)

/-- `port_allowed`. -/
def portAllowed (url : Url) : Bool :=
  match url.port with
  | none => true
  | some port =>
      (port = 443 && url.scheme = "https") ||
        policy.allowedExplicitPort = some port

/-- `host.ends_with(&format!(".{suffix}"))`. -/
def isSubdomain (host suffix : String) : Bool :=
  ("." ++ suffix).toList.isSuffixOf host.toList

/-- `host_allowed`. -/
def hostAllowed (host : String) (suffixes : List String) : Bool :=
  suffixes.any fun suffix =>
    let host := RustText.toAsciiLowercase host
    let suffix := RustText.toAsciiLowercase suffix
    host = suffix || isSubdomain host suffix

/-- `validate_media_url`; the result is the host. -/
def validateMediaUrl (url : Url) (original : String) :
    Except ZaloProviderError String :=
  if url.username ≠ "" ∨ url.password.isSome then
    .error (invalid original "media url must not contain userinfo")
  else if policy.requireHttps ∧ url.scheme ≠ "https" then
    .error (invalid original "media url must use https")
  else if ¬ policy.requireHttps ∧ url.scheme ≠ "http" ∧
      url.scheme ≠ "https" then
    .error (invalid original "media url must use http or https")
  else if !portAllowed policy url then
    .error (invalid original "media url port is not allowed")
  else
    match url.host with
    | none => .error (invalid original "media url host is required")
    | some host =>
        if (library.parseIp host).any isForbiddenIp then
          .error (invalid original "media url host is forbidden")
        else if !hostAllowed host policy.hostSuffixes then
          .error (invalid original "media url host is not allowlisted")
        else
          .ok host

/-- `pin_resolved_addrs`. -/
def pinResolvedAddrs (host : String) (resolved : List IpAddr)
    (original : String) : Except ZaloProviderError (List IpAddr) :=
  if resolved.isEmpty then
    .error (invalid original "dns resolution returned no addresses")
  else if resolved.any isForbiddenIp &&
      (!policy.permitPrivateResolvedAddresses ||
        (library.parseIp host).isSome) then
    .error (invalid original "media url resolves to forbidden addresses")
  else
    .ok resolved

/-- One hop up to its request. -/
def prepareRequest (hop : Hop) (current : Url) (original : String) :
    Except ZaloProviderError MediaRequest :=
  if !hop.beginsInTime then
    .error (timedOut original)
  else do
    let host ← validateMediaUrl library policy current original
    match hop.resolved with
    | .elapsed => .error (timedOut original)
    | .done resolved => do
        let pinned ← pinResolvedAddrs library policy host (← resolved) original
        if !hop.resolvedInTime then
          .error (timedOut original)
        else if !hop.clientBuilt then
          .error (.new .dependency "build media HTTP client failed")
        else
          .ok ⟨current, pinned.map fun addr =>
            (addr, current.portOrKnownDefault.getD 443)⟩

/-- The response to a request. -/
def awaitResponse (hop : Hop) (original : String) :
    Except ZaloProviderError MediaResponse :=
  match hop.response with
  | .elapsed => .error (timedOut original)
  | .done (.error error) => .error (mapMediaTransportError original error)
  | .done (.ok response) => .ok response

/-- `StatusCode::is_redirection`. -/
def isRedirection (status : Nat) : Bool :=
  300 ≤ status && status < 400

/-- The URL that a redirect leads to. -/
def redirectTarget (current : Url) (response : MediaResponse)
    (original : String) : Except ZaloProviderError Url :=
  match (response.location.map RustText.trim).filter (!·.isEmpty) with
  | none => .error (invalid original "media redirect missing location")
  | some location =>
      match library.join current location with
      | none => .error (invalid original "media redirect location is invalid")
      | some next => .ok next

/-- The content type of a result, with at most 256 characters. -/
def resultContentType (response : MediaResponse) : Option String :=
  ((response.contentTypeHeader.map RustText.trim).filter
    (!·.isEmpty)).map fun value =>
      if 256 < RustText.charCount value then
        String.ofList (value.toList.take 256)
      else
        value

/-- `usize_max_bytes` where `usize` has 64 bits. -/
def usizeMaxBytes (maxBytes : Nat) : Nat :=
  min maxBytes (2 ^ 64 - 1)

/-- The loop that reads the body. -/
def readBody (maxBytes : Nat) (original : String) :
    List ChunkRead → List UInt8 → Except ZaloProviderError (List UInt8)
  | [], body => .ok body
  | .elapsed :: _, _ => .error (timedOut original)
  | .done (.error error) :: _, _ =>
      .error (mapMediaTransportError original error)
  | .done (.ok chunk) :: rest, body =>
      if 2 ^ 64 ≤ body.length + chunk.length ∨
          maxBytes < body.length + chunk.length then
        .error (invalid original "media body exceeds size limit")
      else
        readBody maxBytes original rest (body ++ chunk)

/-- What is made of a response that is no redirect. -/
def receive (response : MediaResponse) (original : String) :
    Except ZaloProviderError MediaDownloadResult :=
  if !isSuccess response.status then
    .error (classifyMediaStatus response.status original)
  else if response.contentLength.any (policy.maxBytes < ·) then
    .error (invalid original "media content length exceeds limit")
  else if (response.contentLengthHeader.bind parseU64).any
      (policy.maxBytes < ·) then
    .error (invalid original "media content length exceeds limit")
  else do
    let body ← readBody (usizeMaxBytes policy.maxBytes) original
      response.chunks []
    pure ⟨body, resultContentType response⟩

/-- The loop over the hops; `remaining` redirects may still be followed. -/
def followRedirects (original : String) (remaining : Nat) (hops : Nat → Hop)
    (current : Url) : Download :=
  match prepareRequest library policy (hops 0) current original with
  | .error error => ⟨[], .error error⟩
  | .ok request =>
      match awaitResponse (hops 0) original with
      | .error error => ⟨[request], .error error⟩
      | .ok response =>
          if isRedirection response.status then
            match remaining with
            | 0 => ⟨[request],
                .error (invalid original "media redirect limit exceeded")⟩
            | remaining + 1 =>
                match redirectTarget library current response original with
                | .error error => ⟨[request], .error error⟩
                | .ok next =>
                    let rest := followRedirects original remaining
                      (fun index => hops (index + 1)) next
                    ⟨request :: rest.requests, rest.result⟩
          else
            ⟨[request], receive policy response original⟩

/-- `download_media`. -/
def downloadMedia (hops : Nat → Hop) (url : String) : Download :=
  if RustText.isBlank url ∨ 2048 < RustText.charCount url then
    ⟨[], .error (invalid url "media url is invalid")⟩
  else
    match library.parse url with
    | none => ⟨[], .error (invalid url "media url is invalid")⟩
    | some current =>
        followRedirects library policy url policy.maxRedirects hops current

end Checks

section Confinement

variable {library : UrlLibrary} {policy : MediaDownloadPolicy}
variable {original : String} {current : Url} {hop : Hop}

/-- A host that is an allowlisted suffix or a subdomain of one. -/
def IsAllowlisted (policy : MediaDownloadPolicy) (host : String) : Prop :=
  ∃ suffix ∈ policy.hostSuffixes,
    RustText.toAsciiLowercase host = RustText.toAsciiLowercase suffix ∨
    ∃ labels, (RustText.toAsciiLowercase host).toList =
      labels ++ '.' :: (RustText.toAsciiLowercase suffix).toList

/-- The policy of the claimed confinement: HTTPS only, no explicit port and no
private addresses. -/
structure MediaDownloadPolicy.IsStrict (policy : MediaDownloadPolicy) :
    Prop where
  https : policy.requireHttps = true
  noPort : policy.allowedExplicitPort = none
  noPrivate : policy.permitPrivateResolvedAddresses = false

/-- A request for an allowlisted host over HTTPS, without user information. -/
structure MediaRequest.IsConfined (policy : MediaDownloadPolicy)
    (request : MediaRequest) : Prop where
  scheme : request.url.scheme = "https"
  username : request.url.username = ""
  password : request.url.password = none
  port : request.url.portOrKnownDefault = some 443
  host : ∃ host, request.url.host = some host ∧ IsAllowlisted policy host

/-- The addresses of a DNS answer. -/
def Hop.answer (hop : Hop) : List IpAddr :=
  match hop.resolved with
  | .done (.ok resolved) => resolved
  | _ => []

theorem isAllowlisted_of_hostAllowed {host : String}
    (allowed : hostAllowed host policy.hostSuffixes = true) :
    IsAllowlisted policy host := by
  simp only [hostAllowed, List.any_eq_true, Bool.or_eq_true,
    decide_eq_true_eq] at allowed
  obtain ⟨suffix, member, same | subdomain⟩ := allowed
  · exact ⟨suffix, member, Or.inl same⟩
  · rw [isSubdomain, List.isSuffixOf_iff_suffix] at subdomain
    obtain ⟨labels, split⟩ := subdomain
    exact ⟨suffix, member, Or.inr ⟨labels, by simpa using split.symm⟩⟩

/-- What a valid URL looks like under a strict policy. -/
theorem isConfined_of_validateMediaUrl {host : String}
    {socketAddrs : List (IpAddr × Nat)} (strict : policy.IsStrict)
    (valid : validateMediaUrl library policy current original = .ok host) :
    MediaRequest.IsConfined policy ⟨current, socketAddrs⟩ := by
  have https := strict.https
  have noPort := strict.noPort
  unfold validateMediaUrl at valid
  split at valid
  · contradiction
  rename_i noUserinfo
  split at valid
  · contradiction
  rename_i isHttps
  split at valid
  · contradiction
  split at valid
  · contradiction
  rename_i portIsAllowed
  split at valid
  · contradiction
  rename_i name named
  split at valid
  · contradiction
  split at valid
  · contradiction
  rename_i isAllowed
  have scheme : current.scheme = "https" := by simpa [https] using isHttps
  have userinfo : current.username = "" ∧ current.password = none := by
    simpa using noUserinfo
  have port : current.portOrKnownDefault = some 443 := by
    simp only [portAllowed, noPort] at portIsAllowed
    unfold Url.portOrKnownDefault
    cases explicit : current.port with
    | none => simp [scheme]
    | some port =>
        rw [explicit] at portIsAllowed
        have standard : port = 443 := by simpa [scheme] using portIsAllowed
        rw [standard]
  exact ⟨scheme, userinfo.1, userinfo.2, port, name, named,
    isAllowlisted_of_hostAllowed (by simpa using isAllowed)⟩

/-- What one hop adds to the requests of a download. -/
structure Hop.Sends (hop : Hop) (policy : MediaDownloadPolicy)
    (request : MediaRequest) : Prop where
  confined : request.IsConfined policy
  addresses : request.socketAddrs = hop.answer.map fun addr => (addr, 443)
  passes : ∀ addr ∈ hop.answer, isForbiddenIp addr = false

theorem sends_of_prepareRequest {request : MediaRequest}
    (strict : policy.IsStrict)
    (prepared : prepareRequest library policy hop current original =
      .ok request) : hop.Sends policy request := by
  unfold prepareRequest at prepared
  split at prepared
  · contradiction
  cases valid : validateMediaUrl library policy current original with
  | error error =>
      rw [valid] at prepared
      contradiction
  | ok host =>
      rw [valid] at prepared
      simp only [bind, Except.bind] at prepared
      split at prepared
      · contradiction
      rename_i resolved answered
      cases resolved with
      | error error => contradiction
      | ok addresses =>
          have isAnswer : hop.answer = addresses := by
            simp [Hop.answer, answered]
          simp only [pinResolvedAddrs, strict.noPrivate] at prepared
          split at prepared
          · contradiction
          rename_i pinned isPinned
          split at isPinned
          · contradiction
          split at isPinned
          · contradiction
          rename_i passes
          cases isPinned
          split at prepared
          · contradiction
          split at prepared
          · contradiction
          cases prepared
          have confined : MediaRequest.IsConfined policy
              ⟨current, addresses.map fun addr =>
                (addr, current.portOrKnownDefault.getD 443)⟩ :=
            isConfined_of_validateMediaUrl strict valid
          refine ⟨confined, ?_, ?_⟩
          · rw [isAnswer, confined.port]
            rfl
          · rw [isAnswer]
            simpa using passes

/-- What a download may do from one hop on. -/
inductive Followed (policy : MediaDownloadPolicy) (original : String) :
    Nat → (Nat → Hop) → Download → Prop where
  | refused {remaining : Nat} {hops : Nat → Hop}
      (error : ZaloProviderError) :
      Followed policy original remaining hops ⟨[], .error error⟩
  | failed {remaining : Nat} {hops : Nat → Hop} {request : MediaRequest}
      (sends : (hops 0).Sends policy request) (error : ZaloProviderError) :
      Followed policy original remaining hops ⟨[request], .error error⟩
  | received {remaining : Nat} {hops : Nat → Hop} {request : MediaRequest}
      (sends : (hops 0).Sends policy request) (response : MediaResponse) :
      Followed policy original remaining hops
        ⟨[request], receive policy response original⟩
  | redirected {remaining : Nat} {hops : Nat → Hop} {request : MediaRequest}
      {rest : Download} (sends : (hops 0).Sends policy request)
      (follows : Followed policy original remaining
        (fun index => hops (index + 1)) rest) :
      Followed policy original (remaining + 1) hops
        ⟨request :: rest.requests, rest.result⟩

theorem followed_followRedirects (strict : policy.IsStrict)
    (remaining : Nat) (hops : Nat → Hop) (current : Url) :
    Followed policy original remaining hops
      (followRedirects library policy original remaining hops current) := by
  induction remaining generalizing hops current with
  | zero =>
      unfold followRedirects
      split
      · exact .refused _
      rename_i request prepared
      have sends := sends_of_prepareRequest strict prepared
      split
      · exact .failed sends _
      rename_i response awaited
      split
      · exact .failed sends _
      · exact .received sends response
  | succ remaining ih =>
      unfold followRedirects
      split
      · exact .refused _
      rename_i request prepared
      have sends := sends_of_prepareRequest strict prepared
      split
      · exact .failed sends _
      rename_i response awaited
      split
      · dsimp only
        split
        · exact .failed sends _
        · exact .redirected sends (ih _ _)
      · exact .received sends response

variable {remaining : Nat} {hops : Nat → Hop} {download : Download}

/-- Every request of a download is sent by the hop of its turn. -/
theorem Followed.sends
    (follows : Followed policy original remaining hops download)
    {index : Nat} {request : MediaRequest}
    (made : download.requests[index]? = some request) :
    (hops index).Sends policy request := by
  induction follows generalizing index with
  | refused error => simp at made
  | failed sends error =>
      cases index with
      | zero =>
          cases made
          exact sends
      | succ index => simp at made
  | received sends response =>
      cases index with
      | zero =>
          cases made
          exact sends
      | succ index => simp at made
  | redirected sends follows ih =>
      cases index with
      | zero =>
          cases made
          exact sends
      | succ index => exact ih made

theorem Followed.requests_length
    (follows : Followed policy original remaining hops download) :
    download.requests.length ≤ remaining + 1 := by
  induction follows with
  | refused error => simp
  | failed sends error => simp
  | received sends response => simp
  | redirected sends follows ih => simpa using ih

theorem readBody_length {maxBytes : Nat} {chunks : List ChunkRead}
    {body bytes : List UInt8}
    (read : readBody maxBytes original chunks body = .ok bytes)
    (within : body.length ≤ maxBytes) : bytes.length ≤ maxBytes := by
  fun_induction readBody maxBytes original chunks body with
  | case1 body =>
      cases read
      exact within
  | case2 => contradiction
  | case3 => contradiction
  | case4 => contradiction
  | case5 body chunk rest fits ih =>
      refine ih read ?_
      simp only [List.length_append]
      omega

theorem receive_length {response : MediaResponse}
    {result : MediaDownloadResult}
    (received : receive policy response original = .ok result) :
    result.bytes.length ≤ policy.maxBytes := by
  unfold receive at received
  split at received
  · contradiction
  split at received
  · contradiction
  split at received
  · contradiction
  cases read : readBody (usizeMaxBytes policy.maxBytes) original
      response.chunks [] with
  | error error =>
      rw [read] at received
      contradiction
  | ok body =>
      rw [read] at received
      cases received
      exact (readBody_length read (Nat.zero_le _)).trans (min_le_left _ _)

theorem Followed.bytes_length
    (follows : Followed policy original remaining hops download)
    {result : MediaDownloadResult} (ended : download.result = .ok result) :
    result.bytes.length ≤ policy.maxBytes := by
  induction follows with
  | refused error => contradiction
  | failed sends error => contradiction
  | received sends response => exact receive_length ended
  | redirected sends follows ih => exact ih ended

/-- What is promised of a download. -/
structure Download.IsConfined (policy : MediaDownloadPolicy)
    (download : Download) : Prop where
  requests : ∀ request ∈ download.requests, request.IsConfined policy
  sockets : ∀ request ∈ download.requests, ∀ socket ∈ request.socketAddrs,
    socket.2 = 443 ∧ ¬ socket.1.IsInternal
  count : download.requests.length ≤ policy.maxRedirects + 1
  body : ∀ result, download.result = .ok result →
    result.bytes.length ≤ policy.maxBytes

theorem followed_downloadMedia (strict : policy.IsStrict) (hops : Nat → Hop)
    (url : String) : Followed policy url policy.maxRedirects hops
      (downloadMedia library policy hops url) := by
  unfold downloadMedia
  split
  · exact .refused _
  · split
    · exact .refused _
    · exact followed_followRedirects strict _ _ _

/-- A download under a strict policy is confined exactly when no DNS answer
for a request contains a `6to4` address that embeds an IPv4 address that is set
aside: this is the one kind of internal address that passes the filter. -/
theorem downloads_are_confined (library : UrlLibrary)
    (policy : MediaDownloadPolicy) (strict : policy.IsStrict)
    (hops : Nat → Hop) (url : String) :
    (downloadMedia library policy hops url).IsConfined policy ↔
      ∀ index < (downloadMedia library policy hops url).requests.length,
        ∀ addr, IpAddr.v6 addr ∈ (hops index).answer →
          ¬ Ipv4Embedding.sixToFour.Embeds addr := by
  have follows : Followed policy url policy.maxRedirects hops
      (downloadMedia library policy hops url) :=
    followed_downloadMedia strict hops url
  constructor
  · intro confined index inRange addr member embeds
    have sends := follows.sends (List.getElem?_eq_getElem inRange)
    refine (confined.sockets _ (List.getElem_mem inRange) (.v6 addr, 443)
      ?_).2 (Or.inr ⟨_, embeds⟩)
    rw [sends.addresses]
    exact List.mem_map_of_mem member
  · intro noEmbedding
    refine ⟨fun request member => ?_, fun request member socket isSocket => ?_,
      follows.requests_length, fun result => follows.bytes_length⟩
    · obtain ⟨index, made⟩ := List.getElem?_of_mem member
      exact (follows.sends made).confined
    · obtain ⟨index, made⟩ := List.getElem?_of_mem member
      have sends := follows.sends made
      rw [sends.addresses, List.mem_map] at isSocket
      obtain ⟨addr, answered, rfl⟩ := isSocket
      refine ⟨rfl, fun internal => ?_⟩
      have forbidden := isForbiddenIp_covers_iff.mpr (fun inner same => by
        subst same
        exact noEmbedding index (List.getElem?_eq_some_iff.mp made).1 inner
          answered) internal
      rw [sends.passes addr answered] at forbidden
      contradiction

end Confinement

section Photos

/-- The URLs of two photos, where a relative location stays on its host. -/
def photoUrl (path : String) : Url :=
  ⟨"https", "", none, some "photo.zdn.vn", none, path⟩

/-- The URL parser on the URLs of the photos; no host is a literal address. -/
def photoLibrary : UrlLibrary where
  parse text :=
    if text = "https://photo.zdn.vn/a.jpg" then some (photoUrl "/a.jpg")
    else none
  join _ location :=
    if location = "/b.jpg" then some (photoUrl "/b.jpg") else none
  parseIp _ := none

/-- A hop on which the host has one address. -/
def photoHop (addr : IpAddr) (response : MediaResponse) : Hop :=
  ⟨true, .done (.ok [addr]), true, true, .done (.ok response)⟩

/-- A response that carries a photo of two bytes. -/
def photoResponse : MediaResponse :=
  ⟨200, none, some 2, some "2", some "image/jpeg",
    [.done (.ok [255]), .done (.ok [216])]⟩

/-- A redirect to the other photo, and then the photo, from a public
address. -/
def redirectedHops : Nat → Hop
  | 0 => photoHop (.v4 (.new 8 8 8 8)) ⟨302, some "/b.jpg", none, none, none, []⟩
  | _ => photoHop (.v4 (.new 8 8 4 4)) photoResponse

theorem downloads_are_confined_redirected :
    MediaDownloadPolicy.productionDefault.IsStrict ∧
    (downloadMedia photoLibrary .productionDefault redirectedHops
      "https://photo.zdn.vn/a.jpg").requests.length = 2 ∧
    (downloadMedia photoLibrary .productionDefault redirectedHops
      "https://photo.zdn.vn/a.jpg").result =
        .ok ⟨[255, 216], some "image/jpeg"⟩ ∧
    (downloadMedia photoLibrary .productionDefault redirectedHops
      "https://photo.zdn.vn/a.jpg").IsConfined .productionDefault := by
  have strict : MediaDownloadPolicy.productionDefault.IsStrict :=
    ⟨rfl, rfl, rfl⟩
  refine ⟨strict, by decide, by decide,
    (downloads_are_confined photoLibrary .productionDefault strict
      redirectedHops "https://photo.zdn.vn/a.jpg").mpr ?_⟩
  intro index _ addr member
  cases index with
  | zero => simp [redirectedHops, photoHop, Hop.answer] at member
  | succ index => simp [redirectedHops, photoHop, Hop.answer] at member

/-- The host of a photo has a `6to4` address that embeds 127.0.0.1: the request
is pinned to it. -/
theorem downloads_reach_embedded_loopback :
    MediaDownloadPolicy.productionDefault.IsStrict ∧
    (downloadMedia photoLibrary .productionDefault
      (fun _ => photoHop (.v6 (.new 0x2002 0x7f00 1 0 0 0 0 0)) photoResponse)
      "https://photo.zdn.vn/a.jpg").requests =
        [⟨photoUrl "/a.jpg",
          [(.v6 (.new 0x2002 0x7f00 1 0 0 0 0 0), 443)]⟩] ∧
    (IpAddr.v6 (.new 0x2002 0x7f00 1 0 0 0 0 0)).IsInternal ∧
    ¬ (downloadMedia photoLibrary .productionDefault
      (fun _ => photoHop (.v6 (.new 0x2002 0x7f00 1 0 0 0 0 0)) photoResponse)
      "https://photo.zdn.vn/a.jpg").IsConfined .productionDefault := by
  have made : (downloadMedia photoLibrary .productionDefault
      (fun _ => photoHop (.v6 (.new 0x2002 0x7f00 1 0 0 0 0 0)) photoResponse)
      "https://photo.zdn.vn/a.jpg").requests =
        [⟨photoUrl "/a.jpg",
          [(.v6 (.new 0x2002 0x7f00 1 0 0 0 0 0), 443)]⟩] := by decide
  have internal :
      (IpAddr.v6 (.new 0x2002 0x7f00 1 0 0 0 0 0)).IsInternal :=
    Or.inr ⟨.sixToFour, by decide, .loopback, _, List.mem_singleton_self _,
      by decide⟩
  refine ⟨⟨rfl, rfl, rfl⟩, made, internal, fun confined => ?_⟩
  refine (confined.sockets ⟨photoUrl "/a.jpg", _⟩ ?_
    (.v6 (.new 0x2002 0x7f00 1 0 0 0 0 0), 443)
    (List.mem_singleton_self _)).2 internal
  rw [made]
  exact List.mem_singleton_self _

end Photos

end Media

end ZaloBot
