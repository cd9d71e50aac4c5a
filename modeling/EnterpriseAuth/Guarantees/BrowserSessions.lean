import EnterpriseAuth.Api.CookieBrowsing
import EnterpriseAuth.Guarantees.CurrentTokens

/-!
# Sessions of browsers

The browsers with cookies are browsers that present what they were handed.  A browser gets a new pair of
tokens whenever it uses the refresh token that it keeps, so it always keeps the newest one of its
session, and no two browsers share a session.  As long as the requests are served one after another, a
refresh that a browser sends is therefore never taken for a replay of an active session.
-/

namespace EnterpriseAuth

open Effects

variable {ι T : Type}

/-! ## What a browser keeps -/

/-- One of the cookies is the token. -/
def Jar.Keeps (jar : Jar T) (claims : Claims) : Prop :=
  ∃ cookie ∈ jar.rows, cookie.value = .signed claims

section
variable [Add T] [NatCast T] {env : Environment T} {cookies : CookieSettings}
  {jar later : Jar T} {pair : TokenPair} {csrf : String} {received : T}

variable (env cookies) in
/-- All cookies of the browser were set by the answer that brought the pair. -/
structure Jar.FilledBy (jar : Jar T) (pair : TokenPair) (csrf : String) (received : T) :
    Prop where
  stems : ∀ cookie ∈ jar.rows, ∃ setCookie ∈ cookies.setAuthCookies env pair csrf,
    setCookie.maxAge ≠ 0 ∧ cookie = CookieJar.stored received setCookie
  /-- a browser stores insecure cookies of no other kind -/
  lasting : cookies.cookieSameSite = .none → cookies.cookieSecure = true

namespace Jar.FilledBy

theorem mono (filled : jar.FilledBy env cookies pair csrf received)
    (subset : ∀ cookie ∈ later.rows, cookie ∈ jar.rows) :
    later.FilledBy env cookies pair csrf received :=
  ⟨fun cookie member => filled.stems cookie (subset cookie member), filled.lasting⟩

theorem attributes (filled : jar.FilledBy env cookies pair csrf received)
    {cookie : Cookie Token T} (member : cookie ∈ jar.rows) :
    cookie.secure = cookies.cookieSecure ∧ cookie.sameSite = cookies.cookieSameSite ∧
      cookie.key ∈ cookies.keys := by
  obtain ⟨setCookie, isSet, -, rfl⟩ := filled.stems cookie member
  rcases CookieSettings.mem_setAuthCookies.mp isSet with rfl | rfl | rfl <;>
    simp [CookieJar.stored, CookieSettings.authCookie, Cookie.key, CookieSettings.keys]

theorem keeps (filled : jar.FilledBy env cookies pair csrf received) {claims : Claims}
    (keeps : jar.Keeps claims) : claims ∈ pair.tokens := by
  obtain ⟨cookie, member, value⟩ := keeps
  obtain ⟨setCookie, isSet, -, rfl⟩ := filled.stems cookie member
  rcases CookieSettings.mem_setAuthCookies.mp isSet with rfl | rfl | rfl
  · cases value
    simp [TokenPair.tokens]
  · cases value
    simp [TokenPair.tokens]
  · cases value

/-- The cookie of a refresh token, which was set for a while. -/
theorem refresh_cookie (filled : jar.FilledBy env cookies pair csrf received)
    (access : pair.access.type = .access) {claims : Claims} (isRefresh : claims.type = .refresh)
    {cookie : Cookie Token T} (member : cookie ∈ jar.rows)
    (value : cookie.value = .signed claims) :
    cookie.path = cookies.refreshPath ∧
      TokenService.refreshTtlDays env claims.rememberMe * 86400 ≠ 0 := by
  obtain ⟨setCookie, isSet, lasts, rfl⟩ := filled.stems cookie member
  rcases CookieSettings.mem_setAuthCookies.mp isSet with rfl | rfl | rfl
  · cases value
    rw [access] at isRefresh
    cases isRefresh
  · cases value
    exact ⟨rfl, lasts⟩
  · cases value

variable {fetch : Fetch}

/-- A request that takes a cookie along is one whose answer may set cookies. -/
theorem storable [LinearOrder T] (filled : jar.FilledBy env cookies pair csrf received)
    {cookie : Cookie Token T} (member : cookie ∈ jar.rows) {now : T}
    (travels : cookie.travels now fetch = true) : cookies.Storable fetch := by
  obtain ⟨secure, sameSite, -⟩ := filled.attributes member
  simp only [Cookie.travels, secure, sameSite, Bool.and_eq_true, Bool.or_eq_true,
    Bool.not_eq_true'] at travels
  obtain ⟨⟨-, overHttps⟩, site⟩ := travels
  refine ⟨filled.lasting, fun isSecure => ?_, ?_⟩
  · simpa [isSecure] using overHttps
  · cases kind : cookies.cookieSameSite with
    | none => exact .inl rfl
    | strict =>
      simp only [kind] at site
      exact .inr (.inl site)
    | lax =>
      simp only [kind, Bool.or_eq_true, Bool.and_eq_true] at site
      exact .inr (site.imp_right And.left)

theorem writable (filled : jar.FilledBy env cookies pair csrf received)
    (storable : cookies.Storable fetch) : jar.Writable fetch := by
  cases secure : cookies.cookieSecure with
  | true => exact .inl (storable.2.1 secure)
  | false => exact .inr fun cookie member => (filled.attributes member).1.trans secure

end Jar.FilledBy

variable (env cookies) in
/-- What the cookies of a browser stem from: from nothing, or from one answer, whose pair belongs to
one session. -/
inductive Jar.Stems (handed : Claims → Prop) (jar : Jar T) : Prop
  | nothing (empty : jar.rows = [])
  | answer {pair : TokenPair} {csrf : String} {received : T} {since upTo : ℕ} {userId sid : Uuid}
    (filled : jar.FilledBy env cookies pair csrf received)
    (minted : pair.Minted since upTo userId (some sid))
    (handedOut : ∀ claims ∈ pair.tokens, handed claims)

namespace Jar.Stems

variable {handed : Claims → Prop}

theorem mono (stems : jar.Stems env cookies handed) {more : Claims → Prop}
    (grows : ∀ claims, handed claims → more claims)
    (subset : ∀ cookie ∈ later.rows, cookie ∈ jar.rows) :
    later.Stems env cookies more := by
  cases stems with
  | nothing empty =>
    refine .nothing (List.eq_nil_iff_forall_not_mem.mpr fun cookie member => ?_)
    have earlier := subset cookie member
    rw [empty] at earlier
    cases earlier
  | answer filled minted handedOut =>
    exact .answer (filled.mono subset) minted fun claims member => grows _ (handedOut claims member)

/-- A token that a browser keeps is one that was handed out, for a session. -/
theorem kept (stems : jar.Stems env cookies handed) {claims : Claims}
    (keeps : jar.Keeps claims) :
    handed claims ∧ claims.type ≠ .preAuth ∧ ∃ sid, claims.sid = some sid := by
  cases stems with
  | nothing empty =>
    obtain ⟨cookie, member, -⟩ := keeps
    rw [empty] at member
    cases member
  | answer filled minted handedOut =>
    have member := filled.keeps keeps
    exact ⟨handedOut claims member, minted.notPreAuth member, _, (minted.subject claims member).2⟩

theorem refresh_cookie (stems : jar.Stems env cookies handed) {claims : Claims}
    (isRefresh : claims.type = .refresh) {cookie : Cookie Token T}
    (member : cookie ∈ jar.rows) (value : cookie.value = .signed claims) :
    cookie.path = cookies.refreshPath ∧
      TokenService.refreshTtlDays env claims.rememberMe * 86400 ≠ 0 := by
  cases stems with
  | nothing empty =>
    rw [empty] at member
    cases member
  | answer filled minted => exact filled.refresh_cookie minted.access isRefresh member value

theorem attributes (stems : jar.Stems env cookies handed) {cookie : Cookie Token T}
    (member : cookie ∈ jar.rows) :
    cookie.secure = cookies.cookieSecure ∧ cookie.sameSite = cookies.cookieSameSite ∧
      cookie.key ∈ cookies.keys := by
  cases stems with
  | nothing empty =>
    rw [empty] at member
    cases member
  | answer filled => exact filled.attributes member

variable {fetch : Fetch}

theorem storable [LinearOrder T] (stems : jar.Stems env cookies handed)
    {cookie : Cookie Token T} (member : cookie ∈ jar.rows) {now : T}
    (travels : cookie.travels now fetch = true) : cookies.Storable fetch := by
  cases stems with
  | nothing empty =>
    rw [empty] at member
    cases member
  | answer filled => exact filled.storable member travels

theorem writable (stems : jar.Stems env cookies handed) (storable : cookies.Storable fetch) :
    jar.Writable fetch := by
  cases stems with
  | nothing empty =>
    refine .inr fun cookie member => ?_
    rw [empty] at member
    cases member
  | answer filled => exact filled.writable storable

end Jar.Stems

end

/-! ## Sending -/

section
variable [LinearOrder T] {cookies : CookieSettings} {jar : Jar T} {now : T}
  {request : BrowserRequest}

/-- A refresh token that arrives was taken along in a cookie. -/
theorem Jar.sent_refresh {token : Token}
    (sent : (request.arrival cookies jar now).http.refreshToken = some token) :
    ∃ cookie ∈ jar.rows, cookie.travels now (request.fetch cookies) = true ∧
      cookie.value = token := by
  obtain ⟨cookie, member, travels, -, value⟩ := CookieJar.mem_of_read sent
  exact ⟨cookie, member, travels, value⟩

theorem Jar.sent_access {token : Token}
    (sent : (request.arrival cookies jar now).http.accessToken = some token) :
    ∃ cookie ∈ jar.rows, cookie.travels now (request.fetch cookies) = true ∧
      cookie.value = token := by
  obtain ⟨cookie, member, travels, -, value⟩ := CookieJar.mem_of_read sent
  exact ⟨cookie, member, travels, value⟩

/-- What arrives was taken along in a cookie, or is a pre-auth token that the page adds. -/
theorem Jar.presented {token : Token}
    (presented : token ∈ (request.arrival cookies jar now).presented) :
    (∃ cookie ∈ jar.rows, cookie.travels now (request.fetch cookies) = true ∧
      cookie.value = token) ∨ request.route.preAuthToken = some token := by
  simp only [Arrival.presented, List.mem_append, Option.mem_toList] at presented
  rcases presented with (access | refresh) | preAuth
  · exact .inl (Jar.sent_access access)
  · exact .inl (Jar.sent_refresh refresh)
  · exact .inr preAuth

end

/-! ## Receiving -/

section
variable [CommRing T] [LinearOrder T] {env : Environment T} {cookies : CookieSettings}
  {jar : Jar T} {handed : Claims → Prop} {now : T} {request : BrowserRequest}

variable (env cookies) in
/-- What an answer does to the cookies of a browser: it leaves some of them, or fills the jar with
those of the pair that it hands out. -/
inductive Jar.Received (jar later : Jar T) (fetch : Fetch) (now : T) : List Claims → Prop
  | kept {issued : List Claims} (subset : ∀ cookie ∈ later.rows, cookie ∈ jar.rows)
    (unstored : ∀ pair : TokenPair, issued = pair.tokens → ¬ cookies.Storable fetch) :
    Jar.Received jar later fetch now issued
  | filled {pair : TokenPair} {csrf : String} (filled : later.FilledBy env cookies pair csrf now) :
    Jar.Received jar later fetch now pair.tokens

/-- A jar that stores a pair holds nothing else afterwards. -/
theorem Jar.Stems.mem_received (stems : jar.Stems env cookies handed) {fetch : Fetch}
    (storable : cookies.Storable fetch) {pair : TokenPair} {csrf : String} {cookie : Cookie Token T} :
    cookie ∈ (jar.receiveAll now fetch (cookies.setAuthCookies env pair csrf)).rows ↔
      ∃ setCookie ∈ cookies.setAuthCookies env pair csrf,
        setCookie.maxAge ≠ 0 ∧ cookie = CookieJar.stored now setCookie := by
  have accepted : ∀ setCookie ∈ cookies.setAuthCookies env pair csrf,
      setCookie.accepted fetch = true :=
    fun _ member => (CookieSettings.accepted_setAuthCookies member).mpr storable
  rw [CookieJar.mem_receiveAll_accepted (stems.writable storable) accepted cookies.nodup_keys]
  refine ⟨fun member => ?_, .inr⟩
  rcases member with ⟨before, other⟩ | received
  · exact absurd (stems.attributes before).2.2 other
  · exact received

theorem Jar.Stems.received_pair (stems : jar.Stems env cookies handed) (fetch : Fetch)
    (pair : TokenPair) (csrf : String) :
    Jar.Received env cookies jar (jar.receiveAll now fetch (cookies.setAuthCookies env pair csrf))
      fetch now pair.tokens := by
  by_cases storable : cookies.Storable fetch
  · exact .filled ⟨fun cookie member => (stems.mem_received storable).mp member, storable.1⟩
  · have refused : ∀ setCookie ∈ cookies.setAuthCookies env pair csrf,
        setCookie.accepted fetch = false := fun setCookie member => by
      rw [Bool.eq_false_iff]
      exact fun accepted => storable ((CookieSettings.accepted_setAuthCookies member).mp accepted)
    rw [CookieJar.receiveAll_refused refused]
    exact .kept (fun _ => id) fun _ _ => storable

variable (now request) in
theorem Jar.Stems.received (stems : jar.Stems env cookies handed) (exchange : Exchange T) :
    Jar.Received env cookies jar (request.received cookies env jar now exchange.reply)
      (request.fetch cookies) now exchange.issued := by
  have unchanged {tokens : List Claims} (few : tokens.length ≠ 2) (pair : TokenPair)
      (same : tokens = pair.tokens) : ¬ cookies.Storable (request.fetch cookies) :=
    absurd (congrArg List.length same) few
  unfold Exchange.issued
  cases exchange.reply with
  | error => exact .kept (fun _ => id) (unchanged (by simp))
  | ok reply =>
    cases reply with
    | refreshed csrf pair => exact stems.received_pair _ pair csrf
    | login reply =>
      cases reply with
      | auth user csrf pair => exact stems.received_pair _ pair csrf
      | challenge => exact .kept (fun _ => id) (unchanged (by simp [Reply.issued, LoginReply.issued]))
      | message => exact .kept (fun _ => id) (unchanged (by simp [Reply.issued, LoginReply.issued]))
    | page =>
      refine .kept (fun cookie member => ?_) (unchanged (by simp [Reply.issued]))
      rcases CookieJar.mem_receiveAll member with before | ⟨setCookie, isSet, -, lasts, -⟩
      · exact before
      · -- an answer without tokens only deletes cookies
        simp only [Reply.setCookies] at isSet
        split at isSet
        · exact absurd (CookieSettings.mem_clearAuthCookies isSet).1 lasts
        · cases isSet

end

/-! ## The invariant -/

variable [DecidableEq ι] [CommRing T] [LinearOrder T] [FloorRing T] {env : Environment T}
  {cookies : CookieSettings}

namespace CookieBrowsing

variable (env cookies) in
/-- Every browser keeps the newest refresh token of a session of its own. -/
structure Settled (state : CookieBrowsing ι T) : Prop where
  stems : ∀ owner, (state.jar owner).Stems env cookies fun claims => state.holds owner (.signed claims)
  newest : ∀ owner claims sid row, (state.jar owner).Keeps claims → claims.type = .refresh →
    claims.sid = some sid → state.world.db.sessions.find sid = some row → row.isActive = true →
      row.refreshTokenId = claims.jti
  apart : ∀ first second claims other, (state.jar first).Keeps claims →
    (state.jar second).Keeps other → claims.sid = other.sid → first = second

variable {state : CookieBrowsing ι T} {sender : ι} {request : BrowserRequest}

omit [DecidableEq ι] [FloorRing T] in
/-- A browser presents what was handed to it. -/
theorem Settled.owned (settled : state.Settled env cookies) (known : state.Knows sender request) :
    ∀ token ∈ (state.arrival cookies sender request).presented, state.holds sender token := by
  intro token presented
  cases token with
  | unsigned text => trivial
  | signed claims =>
    rcases Jar.presented presented with ⟨cookie, member, -, value⟩ | preAuth
    · exact ((settled.stems sender).kept ⟨cookie, member, value⟩).1
    · exact known _ preAuth

section
variable (settled : state.Settled env cookies)
  (reachable : (browsers env ι).Reachable state.toBrowsing) (known : state.Knows sender request)

include settled reachable

omit [DecidableEq ι] in
/-- A token that a browser keeps has been issued for a session. -/
theorem issued_of_keeps {owner : ι} {claims : Claims} (keeps : (state.jar owner).Keeps claims) :
    claims ∈ state.world.issued ∧ claims.type ≠ .preAuth := by
  obtain ⟨held, notPreAuth, -⟩ := (settled.stems owner).kept keeps
  exact ⟨(browsers_service reachable).2.2 owner _ held, notPreAuth⟩

/-- The session of a token that a browser keeps moves on only when this browser uses the token. -/
theorem follows_afterRequest {owner : ι} {claims : Claims} {sid : Uuid} {later : Session T}
    (keeps : (state.jar owner).Keeps claims) (isRefresh : claims.type = .refresh)
    (session : claims.sid = some sid)
    (found : (state.afterRequest env cookies sender request).world.db.sessions.find sid = some later)
    (active : later.isActive = true) :
    later.refreshTokenId = claims.jti ∨
      owner = sender ∧ cookies.Storable (request.fetch cookies) ∧ ∃ pair : TokenPair,
        (state.world.exchange env (state.arrival cookies sender request)).issued = pair.tokens := by
  have served := (browsers_service reachable).1
  obtain ⟨issued, notPreAuth⟩ := issued_of_keeps settled reachable keeps
  have bound := (wellIssued_of_reachable served).bound claims issued notPreAuth
  have numbered := numbered_of_reachable served
  have continues := (EnterpriseAuth.served env state.world
    (state.arrival cookies sender request)).continues
  cases rowSource found with
  | @kept row foundRow same =>
    obtain ⟨last, foundLast, later'⟩ := continues sid row foundRow
    obtain rfl : later = last := Option.some.inj (found.symm.trans foundLast)
    have stillActive : row.isActive = true := by
      by_contra inactive
      simp [later'.staysInactive (by simpa using inactive)] at active
    exact .inl (same.refreshTokenId.trans
      (settled.newest owner claims sid row keeps isRefresh session foundRow stillActive))
  | opened _ fresh =>
    obtain ⟨row, named, foundRow, -⟩ := bound
    obtain rfl : sid = row.sessionUuid := Option.some.inj (session.symm.trans named)
    exact absurd (numbered _ row foundRow).1 (not_lt.mpr fresh)
  | @rebound presented pair rotates named issuedPair =>
    obtain ⟨cookie, member, travels, value⟩ := Jar.sent_refresh rotates.presented
    have same : owner = sender :=
      settled.apart owner sender claims presented keeps ⟨cookie, member, value⟩
        (session.trans named.symm)
    exact .inr ⟨same, (settled.stems sender).storable member travels, pair, issuedPair⟩

include known

omit [DecidableEq ι] in
/-- The request hands out a pair, a pre-auth token or nothing. -/
theorem mints_afterRequest :
    Mints state.world (state.world.exchange env (state.arrival cookies sender request)).after
      (state.world.exchange env (state.arrival cookies sender request)).issued := by
  obtain ⟨served, -, covered⟩ := browsers_service reachable
  exact exchange_mints env (wellIssued_of_reachable served) fun token presented =>
    covered sender token (settled.owned known token presented)

/-- The tokens that a browser is handed belong to a session of no other browser. -/
theorem handedOut_apart {owner : ι} {pair : TokenPair} {kept claims : Claims}
    (handsOut : (state.world.exchange env (state.arrival cookies sender request)).issued =
      pair.tokens) (member : claims ∈ pair.tokens) (keeps : (state.jar owner).Keeps kept)
    (same : kept.sid = claims.sid) : owner = sender := by
  have served := (browsers_service reachable).1
  have numbered := numbered_of_reachable served
  have mints := mints_afterRequest settled reachable known
  rw [handsOut] at mints
  obtain ⟨issued, notPreAuth⟩ := issued_of_keeps settled reachable keeps
  obtain ⟨sid, row, found, points, minted⟩ : ∃ sid row,
      (state.afterRequest env cookies sender request).world.db.sessions.find sid = some row ∧
      state.world.draws ≤ row.refreshTokenId ∧ claims.sid = some sid := by
    generalize tokens : pair.tokens = handed at mints member
    cases mints with
    | nothing => cases member
    | challenge => cases tokens
    | pair found _ points minted =>
      refine ⟨_, _, found, ?_, (minted.subject claims member).2⟩
      rw [points]
      exact (minted.numbered _ (by simp [TokenPair.tokens])).1
  -- the session of the answer is an old one, a new one, or that of the cookie that came with the
  -- refresh
  cases rowSource found with
  | @kept earlier foundEarlier binding =>
    have old := (numbered sid earlier foundEarlier).2
    rw [← binding.refreshTokenId] at old
    exact absurd old (not_lt.mpr points)
  | opened _ fresh =>
    obtain ⟨earlier, named, foundEarlier, -⟩ :=
      (wellIssued_of_reachable served).bound kept issued notPreAuth
    obtain rfl : sid = earlier.sessionUuid :=
      Option.some.inj (minted.symm.trans (same.symm.trans named))
    exact absurd (numbered _ earlier foundEarlier).1 (not_lt.mpr fresh)
  | @rebound presented next rotates named =>
    obtain ⟨cookie, member, -, value⟩ := Jar.sent_refresh rotates.presented
    exact settled.apart owner sender kept presented keeps ⟨cookie, member, value⟩
      (same.trans (minted.trans named.symm))

omit reachable known in
/-- Where a token that a browser keeps after a request comes from. -/
theorem keeps_afterRequest {owner : ι} {claims : Claims}
    (keeps : ((state.afterRequest env cookies sender request).jar owner).Keeps claims) :
    ((state.jar owner).Keeps claims ∧ (owner = sender → ∀ pair : TokenPair,
      (state.world.exchange env (state.arrival cookies sender request)).issued = pair.tokens →
        ¬ cookies.Storable (request.fetch cookies))) ∨
      owner = sender ∧ ∃ pair : TokenPair,
        (state.world.exchange env (state.arrival cookies sender request)).issued = pair.tokens ∧
          claims ∈ pair.tokens := by
  by_cases same : owner = sender
  · subst same
    have received := (settled.stems owner).received state.world.clock request
      (state.world.exchange env (state.arrival cookies owner request))
    simp only [CookieBrowsing.afterRequest, Function.update_self] at keeps
    generalize (state.world.exchange env (state.arrival cookies owner request)).issued = tokens
      at received
    cases received with
    | kept subset unstored =>
      obtain ⟨cookie, member, value⟩ := keeps
      exact .inl ⟨⟨cookie, subset cookie member, value⟩, fun _ => unstored⟩
    | filled filled => exact .inr ⟨rfl, _, rfl, filled.keeps keeps⟩
  · simp only [CookieBrowsing.afterRequest, Function.update_of_ne same] at keeps
    exact .inl ⟨keeps, fun equal => absurd equal same⟩

theorem stems_afterRequest (owner : ι) :
    ((state.afterRequest env cookies sender request).jar owner).Stems env cookies fun claims =>
      (state.afterRequest env cookies sender request).holds owner (.signed claims) := by
  have grows (claims : Claims) (held : state.holds owner (.signed claims)) :
      (state.afterRequest env cookies sender request).holds owner (.signed claims) :=
    Browsing.holds_afterRequest held
  -- only the sender receives the answer
  by_cases same : owner = sender
  · subst same
    have received := (settled.stems owner).received state.world.clock request
      (state.world.exchange env (state.arrival cookies owner request))
    have mints := mints_afterRequest settled reachable known
    have handedOut (claims : Claims) (member : claims ∈
        (state.world.exchange env (state.arrival cookies owner request)).issued) :
        (state.afterRequest env cookies owner request).holds owner (.signed claims) :=
      ⟨_, List.mem_cons_self, rfl, member⟩
    simp only [CookieBrowsing.afterRequest, Function.update_self]
    generalize (state.world.exchange env (state.arrival cookies owner request)).issued = tokens
      at received mints handedOut
    cases received with
    | kept subset => exact (settled.stems owner).mono grows subset
    | @filled pair csrf filled =>
      generalize listed : pair.tokens = tokens at mints
      cases mints with
      | nothing => cases listed
      | challenge => cases listed
      | @pair minted _ _ _ _ _ facts =>
        obtain rfl : pair = minted := by
          obtain ⟨access, refresh⟩ := pair
          cases listed
          rfl
        exact .answer filled facts handedOut
  · simp only [CookieBrowsing.afterRequest, Function.update_of_ne same]
    exact (settled.stems owner).mono grows fun _ => id

theorem settled_afterRequest :
    (state.afterRequest env cookies sender request).Settled env cookies := by
  have mints := mints_afterRequest settled reachable known
  refine ⟨stems_afterRequest settled reachable known, ?_, ?_⟩
  · intro owner claims sid later keeps isRefresh session found active
    rcases keeps_afterRequest settled keeps with
      ⟨before, unstored⟩ | ⟨-, pair, handsOut, member⟩
    · rcases follows_afterRequest settled reachable before isRefresh session found active with
        points | ⟨same, storable, pair, handsOut⟩
      · exact points
      · exact absurd storable (unstored same pair handsOut)
    · -- the session of the new pair points at its refresh token
      obtain ⟨other, row, named, foundRow, points⟩ :=
        mints.current (handsOut ▸ member) isRefresh
      obtain rfl : sid = other := Option.some.inj (session.symm.trans named)
      obtain rfl : later = row := Option.some.inj (found.symm.trans foundRow)
      exact points
  · intro first second claims other keepsFirst keepsSecond same
    rcases keeps_afterRequest settled keepsFirst with
      ⟨beforeFirst, -⟩ | ⟨isFirst, pair, handsOut, member⟩ <;>
      rcases keeps_afterRequest settled keepsSecond with
        ⟨beforeSecond, -⟩ | ⟨isSecond, next, handsOutNext, memberNext⟩
    · exact settled.apart first second claims other beforeFirst beforeSecond same
    · exact (handedOut_apart settled reachable known handsOutNext memberNext beforeFirst same).trans
        isSecond.symm
    · exact isFirst.trans
        (handedOut_apart settled reachable known handsOut member beforeSecond same.symm).symm
    · exact isFirst.trans isSecond.symm

end

/-! ## Runs -/

omit [LinearOrder T] [FloorRing T] in
/-- Dropping cookies keeps the invariant. -/
theorem Settled.drop (settled : state.Settled env cookies) (owner : ι)
    (dropped : Cookie Token T → Bool) : (state.drop owner dropped).Settled env cookies := by
  have subset (other : ι) : ∀ cookie ∈ ((state.drop owner dropped).jar other).rows,
      cookie ∈ (state.jar other).rows := by
    intro cookie member
    simp only [CookieBrowsing.drop] at member
    by_cases same : other = owner
    · subst same
      rw [Function.update_self] at member
      exact (List.mem_filter.mp member).1
    · rwa [Function.update_of_ne same] at member
  have keeps {other : ι} {claims : Claims} (kept : ((state.drop owner dropped).jar other).Keeps claims) :
      (state.jar other).Keeps claims := by
    obtain ⟨cookie, member, value⟩ := kept
    exact ⟨cookie, subset other cookie member, value⟩
  exact {
    stems := fun other => (settled.stems other).mono (fun _ => id) (subset other)
    newest := fun other claims sid row kept => settled.newest other claims sid row (keeps kept)
    apart := fun first second claims other keptFirst keptSecond =>
      settled.apart first second claims other (keeps keptFirst) (keeps keptSecond) }

/-- The browsers with cookies are browsers, whose runs they follow, and they are settled. -/
theorem settled_of_reachable (reachable : (cookieBrowsers ι env cookies).Reachable state) :
    (browsers env ι).Reachable state.toBrowsing ∧ state.Settled env cookies := by
  refine System.Reachable.invariant
    (fun state => (browsers env ι).Reachable state.toBrowsing ∧ state.Settled env cookies) reachable
    ?_ ?_
  · intro first starts
    have nothing {owner : ι} {claims : Claims} (keeps : (first.jar owner).Keeps claims) : False := by
      obtain ⟨cookie, member, -⟩ := keeps
      rw [starts.noCookies] at member
      cases member
    refine ⟨.start ⟨starts.world, starts.noVisits⟩, fun owner => .nothing ?_, ?_, ?_⟩
    · rw [starts.noCookies]
      rfl
    · exact fun owner claims sid row keeps => (nothing keeps).elim
    · exact fun owner other claims _ keeps => (nothing keeps).elim
  · rintro before label after - ⟨reachable, settled⟩ step
    cases step with
    | tick later => exact ⟨reachable.step (.tick later), settled.stems, settled.newest, settled.apart⟩
    | setUserActive userId active =>
      exact ⟨reachable.step (.setUserActive userId active), settled.stems, settled.newest,
        settled.apart⟩
    | request known =>
      exact ⟨reachable.step (.request (settled.owned known)),
        settled_afterRequest settled reachable known⟩
    | drop owner dropped => exact ⟨reachable, settled.drop owner dropped⟩

/-- In every run the service is in a state that it can reach on its own. -/
theorem service_of_reachable (reachable : (cookieBrowsers ι env cookies).Reachable state) :
    (service env).Reachable state.world :=
  (browsers_service (settled_of_reachable reachable).1).1

end CookieBrowsing

end EnterpriseAuth
