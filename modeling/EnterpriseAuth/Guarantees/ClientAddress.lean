import EnterpriseAuth.Api.System
import EnterpriseAuth.Guarantees.Scenario

/-!
# The address a client is counted under

`docker/nginx/nginx.conf` appends the address of the TCP peer to whatever `X-Forwarded-For` the
client has sent, and `client_ip` takes the first element of the list.  Two requests from one peer
are counted alike exactly when the first elements agree, which the client decides.
-/

namespace EnterpriseAuth

/-! ## The shipped proxy -/

/-- `proxy_set_header` -/
def Headers.set (headers : Headers) (name value : String) : Headers :=
  (name, value) :: headers.filter fun header => header.1 ≠ name

/-- The `X-Forwarded-For` of the client, several fields of that name being one list. -/
def Headers.forwardedFor (headers : Headers) : Option String :=
  match headers.filter fun header => header.1 = "x-forwarded-for" with
  | [] => none
  | fields => some (", ".intercalate (fields.map Prod.snd))

/-- `$remote_addr`, the text of an address. -/
structure PeerAddress where
  text : String
  given : text ≠ ""
  plain : ∀ character ∈ text.toList, character ≠ ',' ∧ Text.isSpace character = false

/-- `$proxy_add_x_forwarded_for` -/
def proxyAddXForwardedFor (peer : PeerAddress) (headers : Headers) : String :=
  match headers.forwardedFor with
  | some forwarded => forwarded ++ ", " ++ peer.text
  | none => peer.text

/-- The request that the app receives for one that the peer has sent to nginx. -/
def throughNginx (peer : PeerAddress) (nginxHost : String) (sent : HttpRequest) : HttpRequest :=
  { sent with
    headers := ((sent.headers.set "x-real-ip" peer.text).set "x-forwarded-proto" "http").set
      "x-forwarded-for" (proxyAddXForwardedFor peer sent.headers)
    clientHost := some nginxHost }

/-! ## The first element -/

/-- The text of an element up to the first comma, without the blanks around it. -/
def firstElement (forwarded : String) : String :=
  Text.strip (String.ofList (forwarded.toList.takeWhile (· ≠ ',')))

theorem split_headD (text : String) :
    (Text.split text ',').headD "" = String.ofList (text.toList.takeWhile (· ≠ ',')) := by
  rw [List.headD_eq_head?_getD, Text.split_head]
  rfl

theorem firstElement_append (forwarded rest : String) :
    firstElement (forwarded ++ ", " ++ rest) = firstElement forwarded := by
  have cut (characters : List Char) :
      (characters ++ ',' :: ' ' :: rest.toList).takeWhile (· ≠ ',') =
        characters.takeWhile (· ≠ ',') := by
    induction characters with
    | nil => simp
    | cons character characters inductionHypothesis =>
      simp only [List.cons_append, List.takeWhile_cons, inductionHypothesis]
  unfold firstElement
  rw [String.toList_append, String.toList_append, List.append_assoc]
  exact congrArg (fun characters => Text.strip (String.ofList characters)) (cut _)

theorem firstElement_plain (peer : PeerAddress) : firstElement peer.text = peer.text := by
  have whole : peer.text.toList.takeWhile (· ≠ ',') = peer.text.toList :=
    List.takeWhile_eq_self_iff.mpr fun character member => by
      simpa using (peer.plain character member).1
  have unspaced (characters : List Char) (member : ∀ character ∈ characters,
      character ∈ peer.text.toList) : characters.dropWhile Text.isSpace = characters := by
    cases characters with
    | nil => rfl
    | cons character rest =>
      rw [List.dropWhile_cons_of_neg]
      simp [(peer.plain character (member character List.mem_cons_self)).2]
  unfold firstElement Text.strip Text.stripChars
  rw [whole, String.toList_ofList, unspaced _ fun _ => id,
    unspaced _ fun _ => List.mem_reverse.mp, List.reverse_reverse, String.ofList_toList]

theorem throughNginx_get (peer : PeerAddress) (nginxHost : String) (sent : HttpRequest) :
    (throughNginx peer nginxHost sent).headers.get "x-forwarded-for" =
      some (proxyAddXForwardedFor peer sent.headers) := by
  simp [throughNginx, Headers.set, Headers.get]

/-- The address that the app counts a request under. -/
theorem clientIp_throughNginx (peer : PeerAddress) (nginxHost : String) (sent : HttpRequest) :
    clientIp (throughNginx peer nginxHost sent) =
      match sent.headers.forwardedFor with
      | some forwarded => firstElement forwarded
      | none => peer.text := by
  unfold clientIp
  rw [throughNginx_get]
  unfold proxyAddXForwardedFor
  cases sent.headers.forwardedFor with
  | none =>
    have given : nonEmpty (some peer.text) = some peer.text := by
      simp [nonEmpty, peer.given]
    simp only [given, split_headD]
    exact firstElement_plain peer
  | some forwarded =>
    have given : nonEmpty (some (forwarded ++ ", " ++ peer.text)) =
        some (forwarded ++ ", " ++ peer.text) := by
      simp [nonEmpty]
    simp only [given, split_headD]
    exact firstElement_append forwarded peer.text

/-! ## Identities -/

/-- The counters of the limits that go by address. -/
def limiterKeys (request : HttpRequest) : List Key :=
  [.rateLimit s!"global:{clientIp request}", .rateLimit s!"auth:{clientIp request}",
    .rateLimit s!"email:{clientIp request}", .rateLimit s!"2fa-ip:{clientIp request}"]

/-- Both requests are counted and locked out alike. -/
structure SameIdentity {T : Type} (env : Environment T) (first second : HttpRequest) : Prop where
  clientIp : clientIp first = clientIp second
  limiterKeys : limiterKeys first = limiterKeys second
  lockoutKey : ∀ email, RateLimiter.lockoutKey env email (some (EnterpriseAuth.clientIp first)) =
    RateLimiter.lockoutKey env email (some (EnterpriseAuth.clientIp second))

/-- The lists that two clients of one peer have sent begin with the same element; a client that has
sent none is as good as one that names the peer. -/
def SameFirst (peer : PeerAddress) : Option String → Option String → Prop
  | none, none => True
  | some forwarded, none => firstElement forwarded = peer.text
  | none, some forwarded => firstElement forwarded = peer.text
  | some first, some second => firstElement first = firstElement second

/-- Two requests from one peer have one identity exactly when the clients name the same first
element. -/
theorem sameIdentity_iff {T : Type} (env : Environment T) (peer : PeerAddress) (nginxHost : String)
    (first second : HttpRequest) :
    SameIdentity env (throughNginx peer nginxHost first) (throughNginx peer nginxHost second) ↔
      SameFirst peer first.headers.forwardedFor second.headers.forwardedFor := by
  have byAddress : SameIdentity env (throughNginx peer nginxHost first)
      (throughNginx peer nginxHost second) ↔
        clientIp (throughNginx peer nginxHost first) =
          clientIp (throughNginx peer nginxHost second) := by
    refine ⟨SameIdentity.clientIp, fun same => ⟨same, ?_, fun email => by rw [same]⟩⟩
    simp only [limiterKeys, same]
  rw [byAddress, clientIp_throughNginx, clientIp_throughNginx]
  cases first.headers.forwardedFor with
  | none =>
    cases second.headers.forwardedFor with
    | none => exact iff_of_true rfl trivial
    | some forwarded => exact eq_comm
  | some forwarded => cases second.headers.forwardedFor <;> exact Iff.rfl

/-- The peer of the requests below. -/
def officePeer : PeerAddress where
  text := "203.0.113.7"
  given := by decide
  plain := by simp [Text.isSpace]

/-- A client picks two identities by sending two headers. -/
theorem client_chooses_identity :
    ¬ SameIdentity demo
      (throughNginx officePeer "172.18.0.5" { headers := [("x-forwarded-for", "198.51.100.1")] })
      (throughNginx officePeer "172.18.0.5" { headers := [("x-forwarded-for", "198.51.100.2")] }) := by
  intro same
  exact absurd same.clientIp (by decide +kernel)

end EnterpriseAuth
