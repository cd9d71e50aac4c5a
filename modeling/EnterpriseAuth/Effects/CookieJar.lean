import EnterpriseAuth.Effects.Table
import Mathlib.Algebra.Ring.Defs
import Mathlib.Data.List.Sort

/-!
# The cookies that a browser keeps for a site

A server sets a cookie under a name and a path.  The browser stores it until it lapses, and sends it
along with the requests whose path lies below that of the cookie.  `CookieJar.receive` and
`CookieJar.header` follow RFC 6265bis for the cookies of one host: the `Secure`, `SameSite`,
`Max-Age` and `Path` attributes decide which cookies are stored and which are sent.
-/

namespace EnterpriseAuth.Effects

inductive SameSite where
  | lax | strict | none
  deriving DecidableEq, Repr

/-- A `Set-Cookie` header.  An age of no seconds deletes the cookie. -/
structure SetCookie (Value : Type) where
  name : String
  value : Value
  maxAge : ℕ
  path : String
  httpOnly : Bool
  secure : Bool
  sameSite : SameSite

structure Cookie (Value Time : Type) where
  name : String
  path : String
  value : Value
  expires : Time
  /-- hidden from the scripts of the page -/
  httpOnly : Bool
  secure : Bool
  sameSite : SameSite

/-- What a browser knows of a request that it sends. -/
structure Fetch where
  path : String
  https : Bool
  /-- a page of the site itself has caused the request -/
  fromSite : Bool
  /-- the answer replaces the page that is shown -/
  navigates : Bool
  /-- the method is one that changes nothing -/
  safe : Bool

/-- The path lies below the scope. -/
def pathMatches (scope path : String) : Bool :=
  scope.toList.isPrefixOf path.toList &&
    (scope.toList.getLast? = some '/' || (path.toList.drop scope.toList.length).head? = some '/' ||
      path.toList.length = scope.toList.length)

variable {Value Time : Type}

/-- The attributes let a browser store the cookie. -/
def SetCookie.accepted (setCookie : SetCookie Value) (fetch : Fetch) : Bool :=
  (setCookie.sameSite ≠ .none || setCookie.secure) && (!setCookie.secure || fetch.https) &&
    (setCookie.sameSite = .none || fetch.fromSite || fetch.navigates)

def Cookie.key (cookie : Cookie Value Time) : String × String := (cookie.name, cookie.path)

def SetCookie.key (setCookie : SetCookie Value) : String × String := (setCookie.name, setCookie.path)

/-- The cookies under their names and paths. -/
abbrev CookieJar (Value Time : Type) := Table fun cookie : Cookie Value Time => cookie.key

section
variable [LinearOrder Time]

/-- The request takes the cookie along. -/
def Cookie.travels (cookie : Cookie Value Time) (now : Time) (fetch : Fetch) : Bool :=
  now < cookie.expires && pathMatches cookie.path fetch.path && (!cookie.secure || fetch.https) &&
    match cookie.sameSite with
    | .strict => fetch.fromSite
    | .lax => fetch.fromSite || (fetch.navigates && fetch.safe)
    | .none => true

namespace CookieJar

/-- The `Cookie` header, in which the cookies of longer paths come first. -/
def header (jar : CookieJar Value Time) (now : Time) (fetch : Fetch) : List (Cookie Value Time) :=
  (jar.rows.filter (·.travels now fetch)).insertionSort fun first second =>
    second.path.length ≤ first.path.length

/-- What the server finds under a name: of several cookies the last in the header. -/
def read (jar : CookieJar Value Time) (now : Time) (fetch : Fetch) (name : String) : Option Value :=
  ((jar.header now fetch).reverse.find? (·.name = name)).map (·.value)

/-- The browser ignores the header. -/
def refuses (jar : CookieJar Value Time) (now : Time) (fetch : Fetch)
    (setCookie : SetCookie Value) : Bool :=
  !setCookie.accepted fetch ||
    -- a cookie of a secure page is not overwritten by an insecure one
    (!setCookie.secure && !fetch.https && jar.rows.any fun cookie =>
      now < cookie.expires && cookie.secure && cookie.name = setCookie.name &&
        pathMatches cookie.path setCookie.path)

variable [Add Time] [NatCast Time]

def stored (now : Time) (setCookie : SetCookie Value) : Cookie Value Time where
  name := setCookie.name
  path := setCookie.path
  value := setCookie.value
  expires := now + setCookie.maxAge
  httpOnly := setCookie.httpOnly
  secure := setCookie.secure
  sameSite := setCookie.sameSite

/-- The jar after one `Set-Cookie` header of the answer. -/
def receive (jar : CookieJar Value Time) (now : Time) (fetch : Fetch) (setCookie : SetCookie Value) :
    CookieJar Value Time :=
  if jar.refuses now fetch setCookie then jar
  else if setCookie.maxAge = 0 then jar.removeWhere (·.key = setCookie.key)
  else jar.put (stored now setCookie)

/-- The jar after all `Set-Cookie` headers of the answer. -/
def receiveAll (jar : CookieJar Value Time) (now : Time) (fetch : Fetch)
    (setCookies : List (SetCookie Value)) : CookieJar Value Time :=
  setCookies.foldl (fun jar setCookie => jar.receive now fetch setCookie) jar

end CookieJar

end

/-! ## Reading -/

section
variable [LinearOrder Time] {jar : CookieJar Value Time} {now : Time} {fetch : Fetch}
  {name path : String}

/-- Where a cookie goes, one of the same scope goes too, as long as it lasts. -/
theorem Cookie.travels_like {cookie other : Cookie Value Time} (travels : cookie.travels now fetch = true)
    (path : other.path = cookie.path) (secure : other.secure = cookie.secure)
    (sameSite : other.sameSite = cookie.sameSite) (lasts : now < other.expires) :
    other.travels now fetch = true := by
  simp only [Cookie.travels, Bool.and_eq_true, decide_eq_true_eq] at travels ⊢
  rw [path, secure, sameSite]
  exact ⟨⟨⟨lasts, travels.1.1.2⟩, travels.1.2⟩, travels.2⟩

theorem CookieJar.mem_header {cookie : Cookie Value Time} :
    cookie ∈ jar.header now fetch ↔ cookie ∈ jar.rows ∧ cookie.travels now fetch = true := by
  simp [CookieJar.header, List.mem_insertionSort]

theorem CookieJar.mem_of_first {cookie : Cookie Value Time}
    (first : (jar.header now fetch).reverse.find? (·.name = name) = some cookie) :
    cookie ∈ jar.rows ∧ cookie.travels now fetch = true ∧ cookie.name = name := by
  obtain ⟨member, travels⟩ :=
    CookieJar.mem_header.mp (List.mem_reverse.mp (List.mem_of_find?_eq_some first))
  exact ⟨member, travels, by simpa using List.find?_some first⟩

theorem CookieJar.mem_of_read {value : Value} (found : jar.read now fetch name = some value) :
    ∃ cookie ∈ jar.rows, cookie.travels now fetch = true ∧ cookie.name = name ∧
      cookie.value = value := by
  obtain ⟨cookie, first, rfl⟩ := Option.map_eq_some_iff.mp found
  obtain ⟨member, travels, named⟩ := CookieJar.mem_of_first first
  exact ⟨cookie, member, travels, named, rfl⟩

/-- A name that is used with one path only is read from the cookie under this path. -/
theorem CookieJar.read_eq_find (once : ∀ cookie ∈ jar.rows, cookie.name = name → cookie.path = path) :
    jar.read now fetch name =
      ((jar.find (name, path)).filter (·.travels now fetch)).map (·.value) := by
  unfold CookieJar.read
  congr 1
  cases first : (jar.header now fetch).reverse.find? (·.name = name) with
  | some cookie =>
    obtain ⟨member, travels, named⟩ := CookieJar.mem_of_first first
    have key : cookie.key = (name, path) := by
      simp only [Cookie.key, named, once cookie member named]
    have stored : jar.find (name, path) = some cookie := key ▸ Table.find_of_mem member
    rw [stored, Option.filter_some, if_pos travels]
  | none =>
    cases stored : jar.find (name, path) with
    | none => rfl
    | some cookie =>
      have named : cookie.name = name := congrArg Prod.fst (Table.find_key stored)
      have absent : cookie.travels now fetch = false := by
        by_contra travels
        have member : cookie ∈ (jar.header now fetch).reverse := List.mem_reverse.mpr
          (CookieJar.mem_header.mpr ⟨Table.find_mem stored, by simpa using travels⟩)
        have missing := List.find?_eq_none.mp first cookie member
        simp [named] at missing
      simp [Option.filter_some, absent]

end

/-! ## Receiving -/

namespace CookieJar

variable [LinearOrder Time] [Add Time] [NatCast Time] {jar : CookieJar Value Time} {now : Time}
  {fetch : Fetch} {setCookie : SetCookie Value} {setCookies : List (SetCookie Value)}
  {cookie : Cookie Value Time}

/-- The answer to the request may overwrite the cookies of the jar. -/
def Writable (jar : CookieJar Value Time) (fetch : Fetch) : Prop :=
  fetch.https = true ∨ ∀ cookie ∈ jar.rows, cookie.secure = false

omit [Add Time] [NatCast Time] in
theorem Writable.refuses (writable : jar.Writable fetch) :
    jar.refuses now fetch setCookie = !setCookie.accepted fetch := by
  rcases writable with https | insecure
  · simp [CookieJar.refuses, https]
  · have untouched : (jar.rows.any fun cookie => now < cookie.expires && cookie.secure &&
        cookie.name = setCookie.name && pathMatches cookie.path setCookie.path) = false := by
      rw [List.any_eq_false]
      intro cookie member
      simp [insecure cookie member]
    simp [CookieJar.refuses, untouched]

theorem receive_refused (refused : setCookie.accepted fetch = false) :
    jar.receive now fetch setCookie = jar := by
  simp [receive, CookieJar.refuses, refused]

theorem mem_receive_accepted (writable : jar.Writable fetch)
    (accepted : setCookie.accepted fetch = true) :
    cookie ∈ (jar.receive now fetch setCookie).rows ↔
      cookie ∈ jar.rows ∧ cookie.key ≠ setCookie.key ∨
        setCookie.maxAge ≠ 0 ∧ cookie = stored now setCookie := by
  rw [receive, writable.refuses, accepted]
  by_cases deletes : setCookie.maxAge = 0
  · simp [deletes, Table.removeWhere]
  · simp only [Bool.not_true, Bool.false_eq_true, if_false, deletes, Table.mem_put, ne_eq,
      not_false_eq_true, true_and]
    rfl

/-- What the jar holds afterwards it held before, or has just received. -/
theorem mem_receive (member : cookie ∈ (jar.receive now fetch setCookie).rows) :
    cookie ∈ jar.rows ∨ setCookie.accepted fetch = true ∧ setCookie.maxAge ≠ 0 ∧
      cookie = stored now setCookie := by
  unfold receive at member
  split at member
  · exact .inl member
  next unrefused =>
    have accepted : setCookie.accepted fetch = true := by
      by_contra refused
      simp [CookieJar.refuses, refused] at unrefused
    split at member
    · exact .inl (List.mem_filter.mp member).1
    next lasts =>
      rcases Table.mem_put.mp member with ⟨kept, -⟩ | same
      · exact .inl kept
      · exact .inr ⟨accepted, lasts, same⟩

/-- An insecure request stores no secure cookie. -/
theorem Writable.receive (writable : jar.Writable fetch) :
    (jar.receive now fetch setCookie).Writable fetch := by
  rcases writable with https | insecure
  · exact .inl https
  · by_cases https : fetch.https = true
    · exact .inl https
    · refine .inr fun cookie member => ?_
      rcases mem_receive member with kept | ⟨accepted, -, rfl⟩
      · exact insecure cookie kept
      · simp only [SetCookie.accepted, https, Bool.or_false, Bool.and_eq_true,
          Bool.not_eq_true'] at accepted
        exact accepted.1.2

theorem mem_receiveAll (member : cookie ∈ (jar.receiveAll now fetch setCookies).rows) :
    cookie ∈ jar.rows ∨ ∃ setCookie ∈ setCookies, setCookie.accepted fetch = true ∧
      setCookie.maxAge ≠ 0 ∧ cookie = stored now setCookie := by
  induction setCookies generalizing jar with
  | nil => exact .inl member
  | cons setCookie others inductionHypothesis =>
    rcases inductionHypothesis member with received | ⟨other, isOther, facts⟩
    · rcases mem_receive received with kept | facts
      · exact .inl kept
      · exact .inr ⟨setCookie, List.mem_cons_self, facts⟩
    · exact .inr ⟨other, List.mem_cons_of_mem _ isOther, facts⟩

theorem receiveAll_refused (refused : ∀ setCookie ∈ setCookies, setCookie.accepted fetch = false) :
    jar.receiveAll now fetch setCookies = jar := by
  induction setCookies with
  | nil => rfl
  | cons setCookie others inductionHypothesis =>
    unfold receiveAll at *
    rw [List.foldl_cons, receive_refused (refused setCookie List.mem_cons_self)]
    exact inductionHypothesis fun other member => refused other (List.mem_cons_of_mem _ member)

/-- Accepted cookies are stored or deleted, and take the place of those under their keys. -/
theorem mem_receiveAll_accepted (writable : jar.Writable fetch)
    (accepted : ∀ setCookie ∈ setCookies, setCookie.accepted fetch = true)
    (distinct : (setCookies.map SetCookie.key).Nodup) :
    cookie ∈ (jar.receiveAll now fetch setCookies).rows ↔
      cookie ∈ jar.rows ∧ cookie.key ∉ setCookies.map SetCookie.key ∨
        ∃ setCookie ∈ setCookies, setCookie.maxAge ≠ 0 ∧ cookie = stored now setCookie := by
  induction setCookies generalizing jar with
  | nil => simp [receiveAll]
  | cons setCookie others inductionHypothesis =>
    rw [List.map_cons, List.nodup_cons] at distinct
    have writableAfter : (jar.receive now fetch setCookie).Writable fetch := writable.receive
    have rest := inductionHypothesis writableAfter
      (fun other member => accepted other (List.mem_cons_of_mem _ member)) distinct.2
    have first : cookie ∈ (jar.receive now fetch setCookie).rows ↔ _ :=
      mem_receive_accepted writable (accepted setCookie List.mem_cons_self)
    have unfolded : jar.receiveAll now fetch (setCookie :: others) =
        (jar.receive now fetch setCookie).receiveAll now fetch others := rfl
    have apart : cookie = stored now setCookie → cookie.key ∉ others.map SetCookie.key := by
      rintro rfl
      exact distinct.1
    rw [unfolded, rest, first, List.map_cons, List.mem_cons, List.exists_mem_cons_iff, not_or]
    constructor
    · rintro (⟨⟨kept, other⟩ | received, spared⟩ | later)
      · exact .inl ⟨kept, other, spared⟩
      · exact .inr (.inl received)
      · exact .inr (.inr later)
    · rintro (⟨kept, other, spared⟩ | received | later)
      · exact .inl ⟨.inl ⟨kept, other⟩, spared⟩
      · exact .inl ⟨.inr received, apart received.2⟩
      · exact .inr later

end CookieJar

end EnterpriseAuth.Effects
