import Screens.Proofs.Keyed.Lookup
import Screens.Resolver

/-! What a resolver remembers of its store.

While everything remembered is what the store answers (`Faithful`), a resolver that can
ask the store resolves as if it remembered nothing, and stays faithful. One that cannot
ask learns nothing: it answers from memory until a key comes that it knows nothing of
(`Blocked`). -/
namespace Screens

/-- A store that can be asked: a key has a document, none, or one that is malformed. -/
def Store.Sound (store : Store) : Prop :=
  ∀ key, (∃ found, store.load key = .ok found) ∨
    ∃ k fault text, store.load key = .error (.malformed k fault text)

/-- A store that cannot be asked: it fails for every key, and not for the template's sake. -/
def Store.Down (store : Store) : Prop :=
  ∀ key, ∃ e, store.load key = .error e ∧ ∀ k fault text, e ≠ .malformed k fault text

/-- What a search among the candidates means for the screen. -/
def settled (screenId : String) : Except ResolveError (Option Document) → Except ResolveError Document
  | .ok (some d) => .ok d
  | .ok none => .error (.notFound screenId)
  | .error e => .error e

namespace Resolver

/-- All that is remembered is what the store answers. -/
structure Faithful (r : Resolver) (store : Store) : Prop where
  documents : ∀ key d, r.documents.lookup key = some d → store.load key = .ok (some d)
  misses : ∀ key ∈ r.misses, store.load key = .ok none

theorem faithful_clear (r : Resolver) (store : Store) : r.clear.Faithful store := by
  constructor
  · intro key d h
    cases h
  · intro key h
    cases h

theorem faithful_empty (store : Store) : empty.Faithful store := faithful_clear empty store

theorem faithful_addMiss {r : Resolver} {store : Store} (h : r.Faithful store) {key : TemplateKey}
    (hl : store.load key = .ok none) : (r.addMiss key).Faithful store := by
  refine ⟨h.documents, fun k hk => ?_⟩
  rcases List.mem_cons.1 hk with rfl | hk
  · exact hl
  · -- Whether or not all were forgotten, the others were remembered before.
    split at hk
    · cases hk
    · exact h.misses k hk

theorem faithful_addDocument {r : Resolver} {store : Store} (h : r.Faithful store)
    {key : TemplateKey} {d : Document} (hl : store.load key = .ok (some d)) :
    (r.addDocument key d).Faithful store := by
  refine ⟨fun k e hk => ?_, h.misses⟩
  have hcons : ((key, d) :: r.documents).lookup k = some e := hk
  rw [List.lookup_cons] at hcons
  by_cases heq : k = key
  · subst heq
    rw [beq_self_eq_true] at hcons
    cases hcons
    exact hl
  · rw [beq_eq_false_iff_ne.2 heq] at hcons
    exact h.documents k e hcons

theorem resolve_of_blank {screenId : String} (h : (trimmed screenId).isEmpty = true) (r : Resolver)
    (store : Store) (context : Context) :
    r.resolve store screenId context = (.error .invalidScreenId, r) := by
  rw [resolve, if_pos h]

theorem resolve_eq {screenId : String} (h : (trimmed screenId).isEmpty = false) (r : Resolver)
    (store : Store) (context : Context) : r.resolve store screenId context =
      (settled (trimmed screenId) (r.firstOf store (candidates (trimmed screenId) context)).1,
        (r.firstOf store (candidates (trimmed screenId) context)).2) := by
  rw [resolve, if_neg (Bool.eq_false_iff.1 h)]
  obtain ⟨found, after⟩ := r.firstOf store (candidates (trimmed screenId) context)
  cases found with
  | error e => rfl
  | ok found => cases found <;> rfl

/-! ### Asking a store that answers -/

theorem lookup_working {r : Resolver} {store : Store} (h : r.Faithful store) (key : TemplateKey) :
    ∃ after, after.Faithful store ∧
      r.lookup store key = ((store.load key).mapError (.ofStore key), after) := by
  unfold lookup
  cases hd : r.documents.lookup key with
  | some d => exact ⟨r, h, by rw [h.documents key d hd]; rfl⟩
  | none =>
    dsimp only
    split
    · rename_i hm
      have hmiss : key ∈ r.misses := by simpa using hm
      exact ⟨r, h, by rw [h.misses key hmiss]; rfl⟩
    · have hasked : Faithful { r with calls := key :: r.calls } store := ⟨h.documents, h.misses⟩
      cases hl : store.load key with
      | error e => exact ⟨_, hasked, rfl⟩
      | ok found =>
        cases found with
        | none => exact ⟨_, faithful_addMiss hasked hl, rfl⟩
        | some d => exact ⟨_, faithful_addDocument hasked hl, rfl⟩

/-- Nothing is remembered of the key. -/
def Unknown (r : Resolver) (key : TemplateKey) : Prop :=
  r.documents.lookup key = none ∧ key ∉ r.misses

/-- Both remember the same. -/
structure SameMemory (r s : Resolver) : Prop where
  documents : s.documents = r.documents
  misses : s.misses = r.misses

theorem SameMemory.refl (r : Resolver) : SameMemory r r := ⟨rfl, rfl⟩

theorem SameMemory.trans {r s t : Resolver} (h : SameMemory r s) (k : SameMemory s t) :
    SameMemory r t := ⟨k.documents.trans h.documents, k.misses.trans h.misses⟩

end Resolver
end Screens
