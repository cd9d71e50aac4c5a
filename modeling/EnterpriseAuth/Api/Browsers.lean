import EnterpriseAuth.Api.System

/-!
# The service with its browsers

Several browsers use the service.  A browser presents the tokens that were handed to it, so the record
of the visits says which browser sent each request.
-/

namespace EnterpriseAuth

open Effects

variable {ι T : Type}

/-- A request that was served, with the browser that sent it. -/
structure Visit (ι T : Type) where
  browser : ι
  exchange : Exchange T

structure Browsing (ι T : Type) where
  world : World T
  /-- the requests so far, the latest first -/
  visits : List (Visit ι T)

inductive BrowserEvent (ι T : Type) where
  | tick (instant : T)
  | request (browser : ι) (arrival : Arrival)
  | setUserActive (userId : Uuid) (active : Bool)

/-- A browser presents the tokens that were handed to it. -/
def Browsing.holds (browsing : Browsing ι T) (browser : ι) : Token → Prop
  | .signed claims => ∃ visit ∈ browsing.visits, visit.browser = browser ∧
      claims ∈ visit.exchange.issued
  | .unsigned _ => True

variable [CommRing T] [LinearOrder T] [FloorRing T] (env : Environment T)

namespace Browsing

def afterRequest (browsing : Browsing ι T) (browser : ι) (arrival : Arrival) : Browsing ι T where
  world := browsing.world.afterRequest env arrival
  visits := { browser, exchange := browsing.world.exchange env arrival } :: browsing.visits

inductive Step : Browsing ι T → BrowserEvent ι T → Browsing ι T → Prop
  | tick {browsing : Browsing ι T} {instant : T} (later : browsing.world.clock ≤ instant) :
    Step browsing (.tick instant)
      { browsing with world := { browsing.world with clock := instant } }
  | request {browsing : Browsing ι T} {browser : ι} {arrival : Arrival}
    (owned : ∀ token ∈ arrival.presented, browsing.holds browser token) :
    Step browsing (.request browser arrival) (browsing.afterRequest env browser arrival)
  | setUserActive {browsing : Browsing ι T} (userId : Uuid) (active : Bool) :
    Step browsing (.setUserActive userId active)
      { browsing with world := { browsing.world with db := { browsing.world.db with
        users := browsing.world.db.users.modify userId
          (fun user => { user with isActive := active }) fun _ => rfl } } }

end Browsing

/-- The service with its browsers. -/
def browsers (ι : Type) : System (Browsing ι T) (BrowserEvent ι T) where
  start browsing := browsing.world.Starts ∧ browsing.visits = []
  step := Browsing.Step env

/-! ## The service on its own -/

variable {env} {browsing : Browsing ι T} {browser : ι} {arrival : Arrival}

/-- What was handed to a browser stays with it. -/
theorem Browsing.holds_afterRequest {other : ι} {token : Token} (holds : browsing.holds other token) :
    (browsing.afterRequest env browser arrival).holds other token := by
  cases token with
  | unsigned => trivial
  | signed claims =>
    obtain ⟨visit, member, facts⟩ := holds
    exact ⟨visit, List.mem_cons_of_mem _ member, facts⟩

/-- The browsers use the service as it is. -/
theorem browsers_service (reachable : (browsers env ι).Reachable browsing) :
    (service env).Reachable browsing.world ∧
      browsing.visits.map (·.exchange) = browsing.world.history ∧
      ∀ browser token, browsing.holds browser token → browsing.world.holds token := by
  -- the tokens of a browser come from its own visits, which are part of the history
  have owned {browsing : Browsing ι T}
      (recorded : browsing.visits.map (·.exchange) = browsing.world.history) (browser : ι)
      (token : Token) (holds : browsing.holds browser token) : browsing.world.holds token := by
    cases token with
    | unsigned => trivial
    | signed claims =>
      obtain ⟨visit, member, -, issued⟩ := holds
      refine List.mem_flatMap.mpr ⟨visit.exchange, ?_, issued⟩
      rw [← recorded]
      exact List.mem_map_of_mem member
  refine System.Reachable.invariant (fun browsing =>
    (service env).Reachable browsing.world ∧
      browsing.visits.map (·.exchange) = browsing.world.history ∧
      ∀ browser token, browsing.holds browser token → browsing.world.holds token) reachable ?_ ?_
  · rintro first ⟨starts, noVisits⟩
    have recorded : first.visits.map (·.exchange) = first.world.history := by
      rw [noVisits, starts.noHistory]
      rfl
    exact ⟨.start starts, recorded, owned recorded⟩
  · rintro before event after - ⟨reached, recorded, covered⟩ step
    cases step with
    | tick later => exact ⟨reached.step (.tick later), recorded, covered⟩
    | setUserActive userId active =>
      exact ⟨reached.step (.setUserActive userId active), recorded, covered⟩
    | @request browser arrival shown =>
      have recordedAfter : (before.afterRequest env browser arrival).visits.map (·.exchange) =
          (before.afterRequest env browser arrival).world.history := by
        simp [Browsing.afterRequest, World.afterRequest, recorded]
      refine ⟨reached.step (.request fun token presented => ?_), recordedAfter, owned recordedAfter⟩
      exact covered browser token (shown token presented)

theorem browsers_step_anonymous (nothing : arrival.presented = []) :
    (browsers env ι).step browsing (.request browser arrival)
      (browsing.afterRequest env browser arrival) :=
  .request fun token presented => by simp [nothing] at presented

end EnterpriseAuth
