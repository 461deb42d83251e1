import Screens.Proofs.Resolver.Transparency
import Screens.Proofs.Service.Routes

/-! A request that is turned down leaves no trace.

A request for a screen is turned down with status 400 if a part of it is not understood or if
it names no screen (`Request.Faulty`), and no other is (`status_eq_iff`). Every one of these
faults is found before the resolver looks at what it remembers, so that the answer is the same
whatever the store holds and whatever is remembered, and nothing is remembered or asked for
(`respond_of_faulty`).

In a run of requests those that are turned down can thus be left out: all others are answered
as they were, and the same is remembered in the end (`rejected_leave_no_trace`). -/
namespace Screens

/-! ### What is wrong with a request -/

namespace Request

/-- What a request asks for that is looked at as one for a screen: the segment that names it,
and whether the body counts. -/
def wanted? (request : Request) : Option (String × Bool) :=
  match Endpoint.ofPath? request.path with
  | none => none
  | some endpoint =>
    if !endpoint.accepts request.method then none
    else match endpoint with
      | .health | .ready => none
      | .screen segment => some (segment, false)
      | .render segment =>
        if bodyLimit < request.body.length then none else some (segment, true)

/-- A fault for which a request for a screen is turned down. -/
inductive Faulty (request : Request) (segment : String) (taking : Bool) : Prop where
  | path (h : Percent.segment? segment = none)
  | query {reason : BadRequest} (h : Query.ofForm request.query = .error reason)
  | body {fault : Json.Fault} (ht : taking = true) (h : bindingsOf request.body = .error fault)
  | date {q : Query} {bad : BadServiceDate} (hq : Query.ofForm request.query = .ok q)
      (h : q.context = .error bad)
  /-- The screen is named by blanks. -/
  | blank {screenId : String} (hp : Percent.segment? segment = some screenId)
      (h : (trimmed screenId).isEmpty = true)

/-- Nothing that a screen could be looked up for. -/
def Unserved : Except BadRequest ScreenRequest → Prop
  | .error _ => True
  | .ok asked => (trimmed asked.screenId).isEmpty = true

theorem faulty_of_unserved {request : Request} {segment : String} {taking : Bool}
    (h : Unserved (request.screen segment taking)) : request.Faulty segment taking := by
  rw [screen_eq] at h
  cases hp : Percent.segment? segment with
  | none => exact .path hp
  | some screenId =>
    cases hq : Query.ofForm request.query with
    | error reason => exact .query hq
    | ok q =>
      have hblank (bindings : Environment) (context : Context)
          (hb : Unserved (.ok ⟨screenId, context, bindings⟩)) : request.Faulty segment taking :=
        .blank hp hb
      cases hd : q.context with
      | error bad => exact .date hq hd
      | ok context =>
        simp only [hp, hq, hd] at h
        cases taking with
        | false => exact hblank .empty context h
        | true =>
          cases hb : bindingsOf request.body with
          | error fault => exact .body rfl hb
          | ok bindings =>
            rw [hb] at h
            exact hblank bindings context h

theorem unserved_of_faulty {request : Request} {segment : String} {taking : Bool}
    (h : request.Faulty segment taking) : Unserved (request.screen segment taking) := by
  rw [screen_eq]
  -- A fault of another part may come first, and that will do as well.
  split
  · trivial
  · rename_i screenId hp
    split
    · trivial
    · rename_i q hq
      split
      · trivial
      · rename_i bindings hb
        split
        · trivial
        · rename_i context hd
          cases h with
          | path h => cases h.symm.trans hp
          | query h => cases h.symm.trans hq
          | body ht h =>
            rw [ht, if_pos rfl, h] at hb
            cases hb
          | date hq' h =>
            cases hq'.symm.trans hq
            cases h.symm.trans hd
          | blank hp' h =>
            cases hp'.symm.trans hp
            exact h

end Request

/-! ### What is answered with 400 -/

theorem ServiceError.status_resolve (e : ResolveError) :
    (ServiceError.resolve e).status = 400 ↔ e = .invalidScreenId := by
  cases e <;> simp [status]

namespace Resolver

/-- What is wrong with the store or a template is not the fault of who asks. -/
theorem lookup_ne_invalid (r : Resolver) (store : Store) (key : TemplateKey) :
    (r.lookup store key).1 ≠ .error .invalidScreenId := by
  unfold lookup
  split
  · nofun
  · split
    · nofun
    · dsimp only
      split
      · rename_i e _
        cases e <;> nofun
      · nofun
      · nofun

theorem firstOf_ne_invalid (r : Resolver) (store : Store) (keys : List TemplateKey) :
    (r.firstOf store keys).1 ≠ .error .invalidScreenId := by
  induction keys generalizing r with
  | nil => nofun
  | cons key rest ih =>
    rw [firstOf]
    split
    · exact ih _
    · exact lookup_ne_invalid r store key

theorem resolve_ne_invalid {screenId : String} (h : (trimmed screenId).isEmpty = false)
    (r : Resolver) (store : Store) (context : Context) :
    (r.resolve store screenId context).1 ≠ .error .invalidScreenId := by
  have hne := firstOf_ne_invalid r store (candidates (trimmed screenId) context)
  rw [resolve_eq h]
  dsimp only
  unfold settled
  split
  · nofun
  · nofun
  · rename_i e he
    rw [he] at hne
    exact fun heq => hne (congrArg _ (Except.error.inj heq))

end Resolver

/-- An answer as it is sent: to some requests without its content. -/
def Request.sent (request : Request) (answered : Response × Resolver) : Response × Resolver :=
  (if request.method = "HEAD" then answered.1.withoutContent else answered.1, answered.2)

theorem sent_status (request : Request) (answered : Response × Resolver) :
    (request.sent answered).1.status = answered.1.status := by
  unfold Request.sent
  split <;> rfl

section Answers

variable [Wording] {asked : Except BadRequest ScreenRequest} {request : Request} {segment : String}
  {taking : Bool}

/-- The answer is settled before anything is looked up. -/
theorem answerScreen_of_unserved (h : Request.Unserved asked) :
    ∃ response : Response, response.status = 400 ∧
      ∀ store r answer, answerScreen store r asked answer = (response, r) := by
  cases asked with
  | error reason => exact ⟨.ofError (.badRequest reason), rfl, fun _ _ _ => rfl⟩
  | ok request =>
    refine ⟨.ofError (.resolve .invalidScreenId), rfl, fun store r answer => ?_⟩
    rw [answerScreen, Resolver.resolve_of_blank h]

theorem answerScreen_status (h : ¬ Request.Unserved asked) (store : Store) (r : Resolver)
    (answer : ScreenRequest → Document → Json) :
    (answerScreen store r asked answer).1.status ≠ 400 := by
  cases asked with
  | error reason => exact absurd trivial h
  | ok request =>
    have hne := Resolver.resolve_ne_invalid (Bool.eq_false_iff.2 h) r store request.context
    rw [answerScreen]
    split
    · simp [Response.ofJson]
    · rename_i e _ he
      rw [he] at hne
      show (ServiceError.resolve e).status ≠ 400
      rw [Ne, ServiceError.status_resolve]
      exact fun heq => hne (congrArg _ heq)

/-- What is looked at as a request for a screen is answered as one. -/
theorem respond_of_wanted (h : request.wanted? = some (segment, taking)) (limit : Nat) :
    ∃ answer, ∀ store r, respond store limit r request =
      request.sent (answerScreen store r (request.screen segment taking) answer) := by
  unfold Request.wanted? at h
  split at h
  · cases h
  · rename_i endpoint hpath
    split at h
    · cases h
    · rename_i haccepts
      have hrespond (store : Store) (r : Resolver) : respond store limit r request =
          request.sent (endpoint.answer store limit r request) := by
        rw [respond, hpath]
        dsimp only
        rw [if_neg haccepts]
        rfl
      cases endpoint with
      | health | ready => cases h
      | screen named =>
        cases h
        exact ⟨fun _ d => d.encode, hrespond⟩
      | render named =>
        dsimp only at h
        split at h
        · cases h
        · rename_i hroom
          cases h
          refine ⟨fun asked d => (drawn limit asked d).encode, fun store r => ?_⟩
          rw [hrespond, Endpoint.answer, if_neg hroom]

theorem status_of_not_wanted (h : request.wanted? = none) (store : Store) (limit : Nat)
    (r : Resolver) : (respond store limit r request).1.status ≠ 400 := by
  unfold Request.wanted? at h
  rw [respond]
  cases hpath : Endpoint.ofPath? request.path with
  | none => simp [Response.notFound, Response.ofStatus]
  | some endpoint =>
    rw [hpath] at h
    dsimp only at h ⊢
    split
    · simp [Response.wrongMethod, Response.ofStatus]
    · rename_i haccepts
      rw [if_neg haccepts] at h
      refine (sent_status request (endpoint.answer store limit r request)).trans_ne ?_
      cases endpoint with
      | health => simp [Endpoint.answer, healthy, Response.ofJson]
      | ready =>
        rw [Endpoint.answer, readiness]
        cases store.ping <;> simp [Response.ofJson]
      | screen named => cases h
      | render named =>
        dsimp only at h
        split at h
        · rename_i hroom
          rw [Endpoint.answer, if_pos hroom]
          simp [Response.bodyTooLarge, Response.ofText]
        · cases h

/-- A faulty request is answered without the store, and leaves what is remembered. -/
theorem respond_of_faulty (hw : request.wanted? = some (segment, taking))
    (h : request.Faulty segment taking) :
    ∃ response : Response, response.status = 400 ∧
      ∀ store limit r, respond store limit r request = (response, r) := by
  obtain ⟨response, hstatus, hanswer⟩ :=
    answerScreen_of_unserved (Request.unserved_of_faulty h)
  refine ⟨(request.sent (response, .empty)).1, (sent_status _ _).trans hstatus, ?_⟩
  intro store limit r
  obtain ⟨answer, hrespond⟩ := respond_of_wanted hw limit
  rw [hrespond, hanswer]
  rfl

/-- Which requests are turned down is a matter of the requests alone. -/
theorem status_eq_iff {store : Store} {limit : Nat} {r : Resolver} :
    (respond store limit r request).1.status = 400 ↔
      ∃ segment taking, request.wanted? = some (segment, taking) ∧
        request.Faulty segment taking := by
  constructor
  · intro h
    cases hw : request.wanted? with
    | none => exact absurd h (status_of_not_wanted hw store limit r)
    | some wanted =>
      obtain ⟨segment, taking⟩ := wanted
      refine ⟨segment, taking, rfl, Request.faulty_of_unserved ?_⟩
      by_contra hserved
      obtain ⟨answer, hrespond⟩ := respond_of_wanted hw limit
      rw [hrespond, sent_status] at h
      exact answerScreen_status hserved store r answer h
  · rintro ⟨segment, taking, hw, hfaulty⟩
    obtain ⟨response, hstatus, hrespond⟩ := respond_of_faulty hw hfaulty
    rw [hrespond]
    exact hstatus

end Answers

/-! ### Runs -/

section Runs

variable [Wording]

/-- The answers to requests that come one after another, each with the store as it is then,
and what is remembered in the end. -/
def respondAll (limit : Nat) : Resolver → List (Store × Request) → List Response × Resolver
  | r, [] => ([], r)
  | r, (store, request) :: rest =>
    let answered := respond store limit r request
    let later := respondAll limit answered.2 rest
    (answered.1 :: later.1, later.2)

/-- The requests of a run that are not turned down. -/
def understood (limit : Nat) (r : Resolver) (arrivals : List (Store × Request)) :
    List (Store × Request) :=
  ((arrivals.zip (respondAll limit r arrivals).1).filter (·.2.status != 400)).map (·.1)

theorem respond_of_status {store : Store} {limit : Nat} {r : Resolver} {request : Request}
    (h : (respond store limit r request).1.status = 400) (other : Store) (memory : Resolver) :
    respond other limit memory request = ((respond store limit r request).1, memory) := by
  obtain ⟨segment, taking, hw, hfaulty⟩ := status_eq_iff.1 h
  obtain ⟨response, _, hrespond⟩ := respond_of_faulty hw hfaulty
  rw [hrespond, hrespond]

theorem respondAll_understood (limit : Nat) (r : Resolver) (arrivals : List (Store × Request)) :
    respondAll limit r (understood limit r arrivals) =
      ((respondAll limit r arrivals).1.filter (·.status != 400),
        (respondAll limit r arrivals).2) := by
  induction arrivals generalizing r with
  | nil => rfl
  | cons arrival rest ih =>
    obtain ⟨store, request⟩ := arrival
    have hrest := ih (respond store limit r request).2
    rw [understood, respondAll, List.zip_cons_cons]
    by_cases h : (respond store limit r request).1.status = 400
    · have hsame : (respond store limit r request).2 = r :=
        congrArg Prod.snd (respond_of_status h store r)
      rw [hsame] at hrest ⊢
      rw [List.filter_cons_of_neg (by simpa using h), List.filter_cons_of_neg (by simpa using h)]
      exact hrest
    · rw [List.filter_cons_of_pos (by simpa using h), List.filter_cons_of_pos (by simpa using h)]
      show (_ :: (respondAll limit _ (understood limit _ rest)).1,
        (respondAll limit _ (understood limit _ rest)).2) = _
      rw [hrest]

/-- A request that is answered with 400 is answered so at any time, whatever the store would
say and whatever is remembered, and what is remembered, with the calls that were made to the
store, stays as it is. All that come after it are answered as if it had not come. -/
theorem rejected_leave_no_trace (limit : Nat) (r : Resolver) :
    (∀ store request, (respond store limit r request).1.status = 400 →
      ∀ (other : Store) (memory : Resolver),
        respond other limit memory request = ((respond store limit r request).1, memory)) ∧
    ∀ arrivals, respondAll limit r (understood limit r arrivals) =
      ((respondAll limit r arrivals).1.filter (·.status != 400),
        (respondAll limit r arrivals).2) :=
  ⟨fun _ _ h => respond_of_status h, respondAll_understood limit r⟩

end Runs

/-- A request to draw a screen, with a body that ends too early. -/
def brokenBody : Request := .forTree "home" "" [123] none

theorem brokenBody_wanted : brokenBody.wanted? = some ("home", true) := by
  have hpath : Endpoint.ofPath? brokenBody.path = some (.render "home") := by
    rw [brokenBody, Request.forTree, Endpoint.ofPath?_render (by decide +kernel)]
    rfl
  rw [Request.wanted?, hpath]
  rfl

/-- It is turned down by a fresh service, and in the same words by one that remembers the
screen while its store is down. -/
theorem broken_body_turned_down :
    (respond Resolver.homeOnly standardDepth .empty brokenBody).1.status = 400 ∧
      respond (Resolver.homeOnly.failing "maintenance") standardDepth
          (Resolver.empty.warm Resolver.homeOnly).2 brokenBody =
        ((respond Resolver.homeOnly standardDepth .empty brokenBody).1,
          (Resolver.empty.warm Resolver.homeOnly).2) := by
  have hfault : bindingsOf brokenBody.body = .error .ended := by decide +kernel
  have hstatus : (respond Resolver.homeOnly standardDepth .empty brokenBody).1.status = 400 :=
    status_eq_iff.2 ⟨_, _, brokenBody_wanted, .body rfl hfault⟩
  exact ⟨hstatus, (rejected_leave_no_trace standardDepth .empty).1 _ _ hstatus _ _⟩

end Screens
