import Mathlib.Data.List.Basic
import Screens.Proofs.Resolver.Memory
import Screens.Store.Directory

/-! Warming up.

Looking a key up adds to what is remembered at most the document that the store has under it
(`mem_documents_lookup`), whatever else comes of it. So after all screens of a store were looked
up, the documents remembered are those from before and the standard templates of these screens,
in whatever order they came, and however many of them were missing or faulty in between.

`warm_complete`: what was warmed up is resolved from memory from then on, and the store is not
asked for it. -/
namespace Screens

/-- The standard template of the screen is there, and is a document. -/
def Store.hasStandard (store : Store) (id : String) : Bool :=
  match store.load (.standard id) with
  | .ok (some _) => true
  | .ok none | .error _ => false

theorem Context.variants_of_no_locale {context : Context} (h : context.locale = none) :
    context.variants = [] := by
  unfold variants
  rw [h]
  rfl

namespace Resolver

variable {r : Resolver} {store : Store}

/-- A look-up remembers the document it finds, and no other. -/
theorem mem_documents_lookup (h : r.Faithful store) (key : TemplateKey) {k : TemplateKey}
    {d : Document} : (r.lookup store key).2.documents.lookup k = some d ↔
      r.documents.lookup k = some d ∨ k = key ∧ store.load k = .ok (some d) := by
  -- Where no document is added, the store has none for the key that was not remembered.
  have hsame (hnone : ∀ e, store.load key = .ok (some e) → r.documents.lookup key = some e) :
      r.documents.lookup k = some d ↔
        r.documents.lookup k = some d ∨ k = key ∧ store.load k = .ok (some d) := by
    refine ⟨.inl, fun hk => hk.elim id ?_⟩
    rintro ⟨rfl, hload⟩
    exact hnone d hload
  unfold lookup
  cases hfound : r.documents.lookup key with
  | some e =>
    refine hsame fun f hload => ?_
    rw [h.documents key e hfound] at hload
    cases hload
    exact hfound
  | none =>
    dsimp only
    split
    · rename_i hmiss
      exact hsame fun e hload => by simp [h.misses key (by simpa using hmiss)] at hload
    · cases hload : store.load key with
      | error e => exact hsame fun f hf => by simp [hload] at hf
      | ok found =>
        cases found with
        | none => exact hsame fun f hf => by simp [hload] at hf
        | some e =>
          show ((key, e) :: r.documents).lookup k = some d ↔ _
          rw [List.lookup_cons]
          by_cases heq : k = key
          · subst heq
            simp [hfound, hload]
          · simp [beq_eq_false_iff_ne.2 heq, heq]

/-- One screen of the listing: it is counted if its template is there, and passed over if not. -/
theorem warmAll_cons (h : r.Faithful store) (id : String) (rest : List String) (warmed : Nat) :
    r.warmAll store (id :: rest) warmed =
      (r.lookup store (.standard id)).2.warmAll store rest
        (warmed + if store.hasStandard id = true then 1 else 0) := by
  obtain ⟨after, -, he⟩ := lookup_working h (.standard id)
  rw [warmAll, he, Store.hasStandard]
  cases store.load (.standard id) with
  | error e => rfl
  | ok found => cases found <;> rfl

theorem faithful_lookup (h : r.Faithful store) (key : TemplateKey) :
    (r.lookup store key).2.Faithful store := by
  obtain ⟨after, hafter, he⟩ := lookup_working h key
  rw [he]
  exact hafter

theorem warmAll_count (h : r.Faithful store) (ids : List String) (warmed : Nat) :
    (r.warmAll store ids warmed).1 = warmed + ids.countP store.hasStandard := by
  induction ids generalizing r warmed with
  | nil => rfl
  | cons id rest ih =>
    rw [warmAll_cons h, ih (faithful_lookup h _), List.countP_cons]
    omega

theorem mem_documents_warmAll (h : r.Faithful store) (ids : List String) (warmed : Nat)
    {k : TemplateKey} {d : Document} :
    (r.warmAll store ids warmed).2.documents.lookup k = some d ↔
      r.documents.lookup k = some d ∨ ∃ id ∈ ids, k = .standard id ∧ store.load k = .ok (some d) := by
  induction ids generalizing r warmed with
  | nil => simp [warmAll]
  | cons id rest ih =>
    rw [warmAll_cons h, ih (faithful_lookup h _), mem_documents_lookup h, or_assoc]
    refine or_congr_right ?_
    simp only [List.mem_cons, exists_eq_or_imp]

/-- A screen of which the standard template is remembered is resolved without the store. -/
theorem resolve_of_remembered {id : String} {d : Document}
    (hd : r.documents.lookup (.standard id) = some d) (hid : id.isEmpty = false)
    (htrimmed : trimmed id = id) (other : Store) {context : Context} (hl : context.locale = none) :
    r.resolve other id context = (.ok d, r) := by
  have hcandidates : candidates id context = [.standard id] := by
    rw [candidates, Context.variants_of_no_locale hl]
    rfl
  have hlookup : r.lookup other (.standard id) = (.ok (some d), r) := by
    rw [lookup, hd]
  rw [resolve_eq (by rw [htrimmed, hid]), htrimmed, hcandidates, firstOf, hlookup]
  rfl

/-- **Warming up is complete, and faulty templates spoil no other.** If nothing remembered is out
of date, then the screens of the store with a standard template are counted, and the documents
remembered afterwards are those from before and these templates. Each of these screens is then
resolved to its template, whatever has become of the store, which is not asked. If the screens
cannot be listed, nothing changes. -/
theorem warm_complete (h : r.Faithful store) :
    (∀ ids, store.screenIds = .ok ids →
      (r.warm store).1 = .ok (ids.countP store.hasStandard) ∧
      (∀ key d, (r.warm store).2.documents.lookup key = some d ↔
        r.documents.lookup key = some d ∨
          ∃ id ∈ ids, key = .standard id ∧ store.load key = .ok (some d)) ∧
      ∀ id ∈ ids, id.isEmpty = false → trimmed id = id →
        ∀ d, store.load (.standard id) = .ok (some d) →
          ∀ (other : Store) (context : Context), context.locale = none →
            (r.warm store).2.resolve other id context = (.ok d, (r.warm store).2)) ∧
    ∀ e, store.screenIds = .error e → r.warm store = (.error (.storeUnavailable e), r) := by
  constructor
  · intro ids hids
    have hwarm : r.warm store =
        (.ok (r.warmAll store ids 0).1, (r.warmAll store ids 0).2) := by
      rw [warm, hids]
    have hcount := warmAll_count h ids 0
    rw [Nat.zero_add] at hcount
    rw [hwarm, hcount]
    refine ⟨rfl, fun key d => mem_documents_warmAll h ids 0, ?_⟩
    intro id hid hne htrimmed d hd other context hl
    have hremembered := (mem_documents_warmAll h ids 0).2 (.inr ⟨id, hid, rfl, hd⟩)
    exact resolve_of_remembered hremembered hne htrimmed other hl
  · intro e he
    rw [warm, he]

/-- A directory with a template, one that is cut short, and a directory by the name of one. -/
def shelf : Store :=
  TemplateDirectory.store ⟨"t"⟩ (.ofEntries [
    ("t", .ok (.directory ["old.json", "home.json", "home.fr.json", "broken.json"])),
    ("t/home.json", .ok (.file "[\"home\"]".toUTF8.toList)),
    ("t/broken.json", .ok (.file "[\"broken\"".toUTF8.toList)),
    ("t/old.json", .ok (.directory []))])

/-- The one good template is there when the store is gone; and while it is gone, there is nothing
to warm up. -/
theorem shelf_warmed :
    empty.Faithful shelf ∧ shelf.screenIds = .ok ["broken", "home", "old"] ∧
      shelf.load (.standard "home") = .ok (some (.ofComponents "home" "" [])) ∧
      (empty.warm shelf).1 = .ok 1 ∧
      (empty.warm shelf).2.resolve (shelf.failing "gone") "home" .empty =
        (.ok (.ofComponents "home" "" []), (empty.warm shelf).2) ∧
      empty.warm (shelf.failing "gone") =
        (.error (.storeUnavailable (.unavailable "directory" "gone")), empty) := by
  have hids : shelf.screenIds = .ok ["broken", "home", "old"] := by decide +kernel
  have hload : shelf.load (.standard "home") = .ok (some (.ofComponents "home" "" [])) := by
    decide +kernel
  obtain ⟨hcount, -, hresolve⟩ := (warm_complete (faithful_empty shelf)).1 _ hids
  have hone : ["broken", "home", "old"].countP shelf.hasStandard = 1 := by decide +kernel
  refine ⟨faithful_empty shelf, hids, hload, hone ▸ hcount, ?_, ?_⟩
  · exact hresolve "home" (by decide) (by decide) (by decide +kernel) _ hload _ _ rfl
  · exact (warm_complete (faithful_empty _)).2 _ rfl

end Resolver
end Screens
