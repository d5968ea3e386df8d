import PowerMaxCsi.Proxy.ReverseProxy

/-!
# Which array a forwarded request is authorized for

`ServeReverseProxy` forwards the path of a request as it is, but the array whose authorization is
checked is the one in the `symid` header, if there is one (`getSymID`).
-/

namespace PowerMaxCsi.Proxy

open ReverseProxy List Option

/-- What `isAuthorized` looks up; both are empty if the request has no credentials. -/
def HttpRequest.credentials (req : HttpRequest) : String × String := req.basicAuth.getD ("", "")

def ReverseProxy.Authorizes (p : ReverseProxy) (credentials : String × String) (symID : String) :
    Prop :=
  p.config.isUserAuthorized credentials.1 credentials.2 symID = .ok true

def ReverseProxy.Reaches (p : ReverseProxy) (symID : String) : Prop :=
  ∃ proxy, p.getProxyBySymmID symID = .ok proxy ∧
    (proxy.url.scheme = "http" ∨ proxy.url.scheme = "https")

def ReverseProxy.AdmitsToken (p : ReverseProxy) (req : HttpRequest) : Prop :=
  p.authToken = "" ∨ req.getHeader "X-Proxy-Auth-Token" = p.authToken

def HttpRequest.PathNames (req : HttpRequest) (symID : String) : Prop :=
  ∃ r vars, matchRoute (loggingMiddleware req).path req.query = some (r, vars) ∧
    vars.lookup "symid" = some symID

def HttpRequest.Routed (req : HttpRequest) : Prop :=
  isClean (loggingMiddleware req).path = true ∧
    ∃ r vars, matchRoute (loggingMiddleware req).path req.query = some (r, vars) ∧
      r.handler = .serveReverseProxy

def HttpRequest.checkedSymID (req : HttpRequest) (symID : String) : String :=
  if req.getHeader "symid" ≠ "" then req.getHeader "symid" else symID

/-- A request that is forwarded carries credentials that are authorized for the array in its
path. -/
def PathAuthorized (p : ReverseProxy) (req : HttpRequest) : Prop :=
  ∀ locked reply, p.serveHTTP req locked = .reply reply → reply.forwarded.isSome →
    ∀ symID, req.PathNames symID →
      ∃ credentials, req.basicAuth = some credentials ∧ p.Authorizes credentials symID

section

variable {p : ReverseProxy} {req : HttpRequest} {vars : Vars} {locked : Bool}

theorem isUserAuthorized_ok {pc : ProxyConfig} {username password symID : String} {accepted : Bool}
    (ha : pc.isUserAuthorized username password symID = .ok accepted) : accepted = true := by
  unfold ProxyConfig.isUserAuthorized at ha
  split at ha
  · split at ha
    · split at ha
      · cases ha
        rfl
      · cases ha
    · cases ha
  · cases ha

theorem isAuthorized_iff (hm : p.useSecret = false) {symID : String} :
    (p.isAuthorized req symID).2 = true ↔ p.Authorizes req.credentials symID := by
  simp only [isAuthorized, hm, Authorizes, HttpRequest.credentials]
  cases ha : p.config.isUserAuthorized (req.basicAuth.getD ("", "")).1
      (req.basicAuth.getD ("", "")).2 symID with
  | error err => simp
  | ok accepted => simp [isUserAuthorized_ok ha]

/-- **`ServeReverseProxy`.**  What it takes for a request to be forwarded. -/
theorem serveReverseProxy_forwards_iff (hm : p.useSecret = false) :
    (p.serveReverseProxy req vars locked).forwarded.isSome ↔
      ∃ symID, getSymID vars = some symID ∧ p.Authorizes req.credentials symID ∧
        p.Reaches symID ∧ locked = true := by
  unfold serveReverseProxy
  cases hsy : getSymID vars with
  | none => simp [Reply.error]
  | some symID =>
    have hau : (p.isAuthorized req symID).2 = true ↔ p.Authorizes req.credentials symID :=
      isAuthorized_iff hm
    rcases hv : p.isAuthorized req symID with ⟨written, _ | _⟩
    · have hr : ¬ p.Authorizes req.credentials symID := by simpa [hv] using hau
      simp [hv, hr]
    · have ha : p.Authorizes req.credentials symID := by simpa [hv] using hau
      cases hp : p.getProxyBySymmID symID with
      | error err => simp [hv, Reaches, hp]
      | ok proxy =>
        cases locked with
        | false => simp [hv, hp]
        | true =>
          by_cases hs : proxy.url.scheme = "http" ∨ proxy.url.scheme = "https"
          · have hno : ¬ (proxy.url.scheme ≠ "http" ∧ proxy.url.scheme ≠ "https") := by
              tauto
            simp [hv, Reaches, hp, hs, ha, hno]
          · have hno : proxy.url.scheme ≠ "http" ∧ proxy.url.scheme ≠ "https" := by
              tauto
            simp [hv, Reaches, hp, hno]

end

def varNames (template : List Segment) : List String :=
  template.filterMap fun segment =>
    match segment with
    | .lit _ => none
    | .var name => some name

variable {vars : Vars} {r : Route}

theorem matchSegments_names {template : List Segment} {parts rest : List String}
    (h : matchSegments template parts = some (vars, rest)) :
    vars.map (·.1) = varNames template := by
  induction template, parts using matchSegments.induct generalizing vars with
  | case1 parts =>
    cases h
    rfl
  | case2 text template parts ih =>
    rw [matchSegments, if_pos rfl] at h
    exact ih h
  | case3 text template part parts hne =>
    rw [matchSegments, if_neg hne] at h
    cases h
  | case4 name template part parts hne ih =>
    rw [matchSegments, if_pos hne] at h
    obtain ⟨⟨vars', rest'⟩, hr, heq⟩ := map_eq_some_iff.mp h
    cases heq
    simp only [map_cons, varNames, filterMap_cons, cons.injEq, true_and]
    exact ih hr
  | case5 name template part parts he =>
    rw [matchSegments, if_neg he] at h
    cases h
  | case6 segment template =>
    cases segment <;> cases h

theorem Route.vars_names {parts : List String} {query : List (String × String)}
    (h : r.vars parts query = some vars) : vars.map (·.1) = varNames r.template := by
  unfold Route.vars at h
  split at h
  · cases h
  case h_2 vars' rest hm =>
    split at h
    · cases h
      exact matchSegments_names hm
    · cases h

theorem matchRoute_spec {path : String} {query : List (String × String)}
    (h : matchRoute path query = some (r, vars)) :
    r ∈ routes ∧ vars.map (·.1) = varNames r.template := by
  obtain ⟨r', hmem, hr'⟩ := exists_of_findSome?_eq_some h
  obtain ⟨vars', hv, heq⟩ := map_eq_some_iff.mp hr'
  cases heq
  exact ⟨hmem, Route.vars_names hv⟩

theorem clientSymID_notMem (hr : r ∈ routes) : clientSymID ∉ varNames r.template := by
  revert r
  decide

theorem handler_of_symid (hr : r ∈ routes) (hs : "symid" ∈ varNames r.template) :
    r.handler ∈ [.serveReverseProxy, .serveVolume, .getVolumes, .getPortGroups] := by
  revert r
  decide

theorem lookup_eq_none_of_notMem {name : String} (h : name ∉ vars.map (·.1)) :
    vars.lookup name = none := by
  rw [lookup_eq_none_iff]
  intro e he
  rw [bne_iff_ne]
  rintro rfl
  exact h (mem_map_of_mem he)

theorem getSymID_symIDMiddleware {req : HttpRequest}
    (hv : vars.lookup clientSymID = none) {symID : String} (hs : vars.lookup "symid" = some symID) :
    getSymID (symIDMiddleware req vars) = some (req.checkedSymID symID) := by
  unfold symIDMiddleware HttpRequest.checkedSymID
  split
  · simp [getSymID]
  · simp [getSymID, hv, hs]

section

variable {p : ReverseProxy} {req : HttpRequest} {symID : String} {locked : Bool}

theorem serveHTTP_of_admitsToken (ht : p.AdmitsToken req) :
    p.serveHTTP req locked = p.route (loggingMiddleware req) locked := by
  unfold serveHTTP
  rcases ht with hn | hs
  · simp [hn]
  · by_cases hn : p.authToken = ""
    · simp [hn]
    · simp [hs]

theorem admitsToken_of_forwarded {reply : Reply} (hs : p.serveHTTP req locked = .reply reply)
    (hf : reply.forwarded.isSome) : p.AdmitsToken req := by
  by_contra ht
  simp only [AdmitsToken, not_or] at ht
  unfold serveHTTP at hs
  by_cases hp : req.getHeader "X-Proxy-Auth-Token" = ""
  · rw [if_pos ⟨ht.1, hp⟩] at hs
    cases hs
    cases hf
  · rw [if_neg fun h => hp h.2, if_pos ht] at hs
    cases hs
    cases hf

/-- What it takes for a request whose path names an array to be forwarded. -/
theorem forwarded_iff (hmo : p.useSecret = false) (hn : req.PathNames symID) :
    (∃ reply, p.serveHTTP req locked = .reply reply ∧ reply.forwarded.isSome) ↔
      p.AdmitsToken req ∧ req.Routed ∧
        p.Authorizes req.credentials (req.checkedSymID symID) ∧
        p.Reaches (req.checkedSymID symID) ∧ locked = true := by
  obtain ⟨r, vars, hm, hsy⟩ := hn
  obtain ⟨hr, hn⟩ := matchRoute_spec hm
  have hm' : matchRoute (loggingMiddleware req).path (loggingMiddleware req).query =
      some (r, vars) := hm
  have hcl : vars.lookup clientSymID = none :=
    lookup_eq_none_of_notMem (hn ▸ clientSymID_notMem hr)
  have hch : getSymID (symIDMiddleware (loggingMiddleware req) vars) =
      some (req.checkedSymID symID) := getSymID_symIDMiddleware hcl hsy
  have hfo : (p.serveReverseProxy (loggingMiddleware req)
      (symIDMiddleware (loggingMiddleware req) vars) locked).forwarded.isSome ↔
      p.Authorizes req.credentials (req.checkedSymID symID) ∧
        p.Reaches (req.checkedSymID symID) ∧ locked = true := by
    rw [serveReverseProxy_forwards_iff hmo]
    simp only [hch, some.injEq, exists_eq_left']
    rfl
  constructor
  · rintro ⟨reply, hs, hf⟩
    have ht := admitsToken_of_forwarded hs hf
    rw [serveHTTP_of_admitsToken ht] at hs
    unfold ReverseProxy.route at hs
    split at hs
    · cases hs
    case isFalse hc =>
    have hmem : "symid" ∈ varNames r.template := by
      by_contra hno
      rw [lookup_eq_none_of_notMem (hn ▸ hno)] at hsy
      cases hsy
    have hha := handler_of_symid hr hmem
    simp only [mem_cons, not_mem_nil, or_false] at hha
    rcases hha with hh | hh | hh | hh
    · simp only [hm', hh, Served.reply.injEq] at hs
      rw [← hs] at hf
      exact ⟨ht, ⟨by simpa using hc, r, vars, hm, hh⟩, hfo.mp hf⟩
    all_goals
      simp only [hm', hh] at hs
      cases hs
  · rintro ⟨ht, ⟨hc, r', vars', hm₂, hh⟩, hre⟩
    rw [hm] at hm₂
    cases hm₂
    refine ⟨_, ?_, hfo.mpr hre⟩
    rw [serveHTTP_of_admitsToken ht]
    unfold ReverseProxy.route
    simp only [hm', hh]
    rw [if_neg (by simp [hc])]

/-- **The array in the path.**  In ConfigMap mode a request is forwarded only with credentials for
the array in its path if and only if its `symid` header names the same array, or its credentials are
authorized anyway, or it is not forwarded. -/
theorem pathAuthorized_iff (p : ReverseProxy) (req : HttpRequest) (hm : p.useSecret = false) :
    PathAuthorized p req ↔
      ∀ symID, req.PathNames symID →
        (req.basicAuth.isSome ∧ (req.getHeader "symid" = "" ∨ req.getHeader "symid" = symID)) ∨
        (∃ credentials, req.basicAuth = some credentials ∧ p.Authorizes credentials symID) ∨
        (¬ p.AdmitsToken req ∨ ¬ req.Routed ∨ ¬ p.Reaches (req.checkedSymID symID) ∨
          ¬ p.Authorizes req.credentials (req.checkedSymID symID)) := by
  constructor
  · intro ha symID hn
    by_cases hfo : p.AdmitsToken req ∧ req.Routed ∧
        p.Authorizes req.credentials (req.checkedSymID symID) ∧ p.Reaches (req.checkedSymID symID)
    · obtain ⟨ht, hro, hau, hr⟩ := hfo
      obtain ⟨reply, hs, hf⟩ :=
        (forwarded_iff hm hn).mpr ⟨ht, hro, hau, hr, rfl⟩
      exact .inr (.inl (ha true reply hs hf symID hn))
    · tauto
  · intro hco locked reply hs hf symID hn
    obtain ⟨ht, hro, hau, hr, -⟩ :=
      (forwarded_iff hm hn).mp ⟨reply, hs, hf⟩
    rcases hco symID hn with ⟨hcr, hh⟩ | hal | hst
    · obtain ⟨credentials, hc⟩ := isSome_iff_exists.mp hcr
      have hch : req.checkedSymID symID = symID := by
        unfold HttpRequest.checkedSymID
        split
        case isTrue hne => exact hh.resolve_left hne
        case isFalse => rfl
      refine ⟨credentials, hc, ?_⟩
      rwa [hch, HttpRequest.credentials, hc] at hau
    · exact hal
    · tauto

end

namespace SharedUnisphere

def endpoint : URL := ⟨"https", "primary-1.unisphe.re:8443", ""⟩

def server : ManagementServer where
  endpoint := endpoint
  storageArrayIdentifiers := ["000120000548", "000120000549"]
  credentials := ⟨"smc", "smc"⟩
  credentialSecret := "u4p-secret"
  skipCertificateValidation := true
  certFile := ""
  certSecret := ""
  limits := ⟨0, 0, 0, 0⟩
  username := ""
  password := ""

def array (storageArrayID secretName : String) (credentials : Credentials) : StorageArray :=
  ⟨storageArrayID, endpoint, .zero, AList.singleton secretName ⟨credentials, secretName⟩⟩

def proxy : ReverseProxy where
  useSecret := false
  config :=
    { port := "2222"
      managedArrays :=
        (AList.singleton "000120000548" (array "000120000548" "secret-a" ⟨"alice", "a"⟩)).insert
          "000120000549" (array "000120000549" "secret-b" ⟨"bob", "b"⟩)
      managementServers := AList.singleton endpoint server
      proxyCredentials :=
        (AList.singleton "alice" ⟨["000120000548"], ⟨"alice", "a"⟩⟩).insert
          "bob" ⟨["000120000549"], ⟨"bob", "b"⟩⟩ }
  envoyMap :=
    (AList.singleton "000120000548" ⟨newReverseProxy server, none, false⟩).insert
      "000120000549" ⟨newReverseProxy server, none, false⟩
  authToken := ""

def request : HttpRequest where
  method := "DELETE"
  path := "/univmax/restapi/100/sloprovisioning/symmetrix/000120000548/volume/00123"
  query := []
  header := [("Symid", "000120000549")]
  basicAuth := some ("bob", "b")

theorem request_forwarded : proxy.serveHTTP request true =
    .reply ⟨[], some ⟨endpoint, request.path, some ⟨"smc", "smc"⟩⟩⟩ := by
  decide +kernel

theorem request_pathNames : request.PathNames "000120000548" :=
  ⟨symmetrixRoute restapi "sloprovisioning", [("version", "100"), ("symid", "000120000548")],
    by decide +kernel⟩

/-- The request is forwarded to the array of the other user. -/
theorem header_bypasses : proxy.useSecret = false ∧ ¬ PathAuthorized proxy request := by
  refine ⟨rfl, fun ha => ?_⟩
  obtain ⟨credentials, hc, hau⟩ :=
    ha true _ request_forwarded rfl _ request_pathNames
  cases hc
  revert hau
  unfold Authorizes
  decide +kernel

/-- The user of an array who names no other array in a header. -/
theorem own_array_authorized :
    proxy.useSecret = false ∧
      PathAuthorized proxy { request with header := [], basicAuth := some ("alice", "a") } := by
  refine ⟨rfl, (pathAuthorized_iff proxy _ rfl).mpr fun symID _ => ?_⟩
  exact .inl ⟨rfl, .inl rfl⟩

end SharedUnisphere

end PowerMaxCsi.Proxy
