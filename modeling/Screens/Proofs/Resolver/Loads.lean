import Mathlib.Data.List.Dedup
import Mathlib.Data.List.Perm.Subperm
import Screens.Proofs.Resolver.Transparency

/-! What a resolver asks its store for.

All that a resolver does to its memory it does by loads (`Loads`): it asks for a key of which
it knows nothing, and learns the answer. So a key with an answer is asked for again only if
the answer was forgotten, and without the memory being cleared that takes more keys without a
template than are remembered (`Remembers.learn`).

`store_asked_once`: with no more such keys than `missLimit`, the store is asked only for keys
it never answered before, whether it works, fails or has faulty templates in between. -/
namespace Screens.Resolver

abbrev Answer := Except StoreError (Option Document)

/-- What is remembered after the store was asked for a key. -/
def learn (r : Resolver) (key : TemplateKey) : Answer → Resolver
  | .error _ => { r with calls := key :: r.calls }
  | .ok none => { r with calls := key :: r.calls }.addMiss key
  | .ok (some d) => { r with calls := key :: r.calls }.addDocument key d

/-- The store is asked for keys of which nothing is known; what it was asked for and answered
stands in the log, the latest first. -/
inductive Loads (r : Resolver) : List (TemplateKey × Answer) → Resolver → Prop where
  | none : Loads r [] r
  | load {log : List (TemplateKey × Answer)} {s : Resolver} {key : TemplateKey} (answer : Answer) :
      Loads r log s → s.Unknown key → Loads r ((key, answer) :: log) (s.learn key answer)

theorem Loads.trans {r s t : Resolver} {log more : List (TemplateKey × Answer)}
    (h : Loads r log s) (k : Loads s more t) : Loads r (more ++ log) t := by
  induction k with
  | none => exact h
  | load answer _ hu ih => exact .load answer ih hu

theorem learn_calls (r : Resolver) (key : TemplateKey) (answer : Answer) :
    (r.learn key answer).calls = key :: r.calls := by
  unfold learn
  split <;> rfl

theorem Loads.calls {r s : Resolver} {log : List (TemplateKey × Answer)} (h : Loads r log s) :
    s.calls = log.map (·.1) ++ r.calls := by
  induction h with
  | none => rfl
  | load answer _ _ ih => rw [learn_calls, ih]; rfl

/-! ### Resolving and warming up are loads -/

/-- Loads that a store answers. -/
def LoadsFrom (store : Store) (r s : Resolver) : Prop :=
  ∃ log, Loads r log s ∧ ∀ e ∈ log, e.2 = store.load e.1

variable {store : Store} {r s t : Resolver}

theorem LoadsFrom.refl (store : Store) (r : Resolver) : LoadsFrom store r r :=
  ⟨[], .none, fun _ h => absurd h List.not_mem_nil⟩

theorem LoadsFrom.trans (h : LoadsFrom store r s) (k : LoadsFrom store s t) :
    LoadsFrom store r t := by
  obtain ⟨log, hlog, hfrom⟩ := h
  obtain ⟨more, hmore, hmoreFrom⟩ := k
  exact ⟨more ++ log, hlog.trans hmore, fun e he =>
    (List.mem_append.1 he).elim (hmoreFrom e) (hfrom e)⟩

/-- A key is looked up without the store, or nothing is known of it and the answer is learnt. -/
theorem lookup_loads (store : Store) (r : Resolver) (key : TemplateKey) :
    LoadsFrom store r (r.lookup store key).2 := by
  unfold lookup
  cases hd : r.documents.lookup key with
  | some d => exact .refl store r
  | none =>
    dsimp only
    split
    · exact .refl store r
    · rename_i hm
      have hunknown : r.Unknown key := ⟨hd, by simpa using hm⟩
      have hload : LoadsFrom store r (r.learn key (store.load key)) :=
        ⟨[(key, store.load key)], .load _ .none hunknown, by simp⟩
      cases hl : store.load key with
      | error e => rwa [hl] at hload
      | ok found => cases found <;> rwa [hl] at hload

theorem firstOf_loads (store : Store) (r : Resolver) (keys : List TemplateKey) :
    LoadsFrom store r (r.firstOf store keys).2 := by
  induction keys generalizing r with
  | nil => exact .refl store r
  | cons key rest ih =>
    have hfirst := lookup_loads store r key
    rw [firstOf]
    split
    · rename_i after he
      rw [he] at hfirst
      exact hfirst.trans (ih after)
    · exact hfirst

theorem resolve_loads (store : Store) (r : Resolver) (screenId : String) (context : Context) :
    LoadsFrom store r (r.resolve store screenId context).2 := by
  cases hblank : (trimmed screenId).isEmpty with
  | true =>
    rw [resolve_of_blank hblank]
    exact .refl store r
  | false =>
    rw [resolve_eq hblank]
    exact firstOf_loads store r _

theorem warmAll_loads (store : Store) (r : Resolver) (ids : List String) (warmed : Nat) :
    LoadsFrom store r (r.warmAll store ids warmed).2 := by
  induction ids generalizing r warmed with
  | nil => exact .refl store r
  | cons id rest ih =>
    have hfirst := lookup_loads store r (.standard id)
    rw [warmAll]
    split
    all_goals
      rename_i he
      rw [he] at hfirst
      exact hfirst.trans (ih _ _)

theorem warm_loads (store : Store) (r : Resolver) : LoadsFrom store r (r.warm store).2 := by
  unfold warm
  split
  · exact .refl store r
  · exact warmAll_loads store r _ 0

/-! ### What every resolver keeps -/

/-- No more misses than are allowed, none twice and none with a document, and no key with two
documents. -/
structure Bounded (r : Resolver) : Prop where
  length : r.misses.length ≤ missLimit
  distinct : r.misses.Nodup
  disjoint : ∀ key ∈ r.misses, key ∉ r.documents.map (·.1)
  documents : (r.documents.map (·.1)).Nodup

theorem Unknown.not_mem_documents {key : TemplateKey} (h : r.Unknown key) :
    key ∉ r.documents.map (·.1) := Lookup.eq_none_iff_not_mem.1 h.1

theorem bounded_clear (r : Resolver) : Bounded r.clear :=
  ⟨Nat.zero_le _, List.nodup_nil, fun _ h => absurd h List.not_mem_nil, List.nodup_nil⟩

theorem bounded_addMiss (h : Bounded r) {key : TemplateKey} (hu : r.Unknown key) :
    Bounded (r.addMiss key) := by
  unfold addMiss
  split
  · refine ⟨by simp [missLimit], by simp, fun k hk => ?_, h.documents⟩
    rw [List.mem_singleton.1 hk]
    exact hu.not_mem_documents
  · rename_i hroom
    refine ⟨Nat.lt_of_not_le hroom, List.nodup_cons.2 ⟨hu.2, h.distinct⟩, fun k hk => ?_,
      h.documents⟩
    rcases List.mem_cons.1 hk with rfl | hk
    · exact hu.not_mem_documents
    · exact h.disjoint k hk

theorem bounded_addDocument (h : Bounded r) {key : TemplateKey} (hu : r.Unknown key)
    (d : Document) : Bounded (r.addDocument key d) := by
  refine ⟨h.length, h.distinct, fun k hk hmem => ?_,
    List.nodup_cons.2 ⟨hu.not_mem_documents, h.documents⟩⟩
  rcases List.mem_cons.1 hmem with rfl | hmem
  · exact hu.2 hk
  · exact h.disjoint k hk hmem

theorem bounded_learn (h : Bounded r) {key : TemplateKey} (hu : r.Unknown key) (answer : Answer) :
    Bounded (r.learn key answer) := by
  have hasked : Bounded { r with calls := key :: r.calls } :=
    ⟨h.length, h.distinct, h.disjoint, h.documents⟩
  unfold learn
  split
  · exact hasked
  · exact bounded_addMiss hasked hu
  · exact bounded_addDocument hasked hu _

theorem documents_learn (r : Resolver) (key : TemplateKey) (answer : Answer) :
    r.documents <:+ (r.learn key answer).documents := by
  unfold learn
  split
  · exact List.suffix_rfl
  · exact List.suffix_rfl
  · exact List.suffix_cons _ _

theorem Loads.bounded {log : List (TemplateKey × Answer)} (h : Loads r log s) (hr : Bounded r) :
    Bounded s := by
  induction h with
  | none => exact hr
  | load answer _ hu ih => exact bounded_learn ih hu answer

theorem Loads.documents {log : List (TemplateKey × Answer)} (h : Loads r log s) :
    r.documents <:+ s.documents := by
  induction h with
  | none => exact List.suffix_rfl
  | load answer _ _ ih => exact ih.trans (documents_learn _ _ answer)

/-! ### What is remembered of the answers -/

def isMiss : Answer → Bool
  | .ok none => true
  | .ok (some _) | .error _ => false

/-- The keys that were found to have no template. -/
def missed (log : List (TemplateKey × Answer)) : List TemplateKey :=
  (log.filter fun e => isMiss e.2).map (·.1)

/-- Of every key with an answer something is known, and no miss is made up. -/
structure Remembers (log : List (TemplateKey × Answer)) (r : Resolver) : Prop where
  known : ∀ e ∈ log, e.2.isOk = true → ¬ r.Unknown e.1
  misses : r.misses ⊆ missed log

theorem missed_cons (e : TemplateKey × Answer) (log : List (TemplateKey × Answer)) :
    missed (e :: log) = (if isMiss e.2 = true then [e.1] else []) ++ missed log := by
  rw [missed, List.filter_cons]
  split <;> rfl

/-- As long as the memory has a place for every miss, nothing is forgotten for a new one. -/
theorem learn_misses (h : Bounded r) {key : TemplateKey} (hu : r.Unknown key) (answer : Answer)
    {pool : List TemplateKey} (hpool : pool.length ≤ missLimit)
    (hsub : (if isMiss answer = true then [key] else []) ++ r.misses ⊆ pool) :
    (r.learn key answer).misses = (if isMiss answer = true then [key] else []) ++ r.misses := by
  match answer with
  | .error _ => rfl
  | .ok (some _) => rfl
  | .ok none =>
    have hnodup : (key :: r.misses).Nodup := List.nodup_cons.2 ⟨hu.2, h.distinct⟩
    have hroom := Nat.le_trans (hnodup.subperm hsub).length_le hpool
    exact congrArg (key :: ·) (if_neg (Nat.not_le.2 hroom))

/-- Of a key that was answered something is known. -/
theorem not_unknown_learn (r : Resolver) (key : TemplateKey) {answer : Answer}
    (h : answer.isOk = true) : ¬ (r.learn key answer).Unknown key := by
  intro hunknown
  match answer with
  | .error _ => cases h
  | .ok none => exact hunknown.2 List.mem_cons_self
  | .ok (some _) => exact hunknown.not_mem_documents List.mem_cons_self

theorem unknown_of_grown (hdocuments : r.documents <:+ s.documents) (hmisses : r.misses ⊆ s.misses)
    {key : TemplateKey} (h : s.Unknown key) : r.Unknown key := by
  refine ⟨Lookup.eq_none_iff_not_mem.2 fun hm => h.not_mem_documents ?_, fun hm => h.2 (hmisses hm)⟩
  exact (hdocuments.map (·.1)).subset hm

theorem Remembers.learn {log : List (TemplateKey × Answer)} (h : Remembers log r) (hb : Bounded r)
    {key : TemplateKey} (hu : r.Unknown key) (answer : Answer) {pool : List TemplateKey}
    (hpool : pool.length ≤ missLimit) (hsub : missed ((key, answer) :: log) ⊆ pool) :
    Remembers ((key, answer) :: log) (r.learn key answer) := by
  have hadd : (if isMiss answer = true then [key] else []) ++ r.misses ⊆
      missed ((key, answer) :: log) := by
    rw [missed_cons]
    exact List.append_subset.2
      ⟨List.subset_append_left _ _, List.subset_append_of_subset_right _ h.misses⟩
  have hmisses := learn_misses hb hu answer hpool (List.Subset.trans hadd hsub)
  refine ⟨fun e he hok hunknown => ?_, ?_⟩
  · rcases List.mem_cons.1 he with rfl | he
    · exact not_unknown_learn r _ hok hunknown
    · refine h.known e he hok (unknown_of_grown (documents_learn r key answer) ?_ hunknown)
      rw [hmisses]
      exact List.subset_append_right _ _
  · rw [hmisses]
    exact hadd

/-- The store is asked only for keys it never answered. -/
def AskedOnce (log : List (TemplateKey × Answer)) : Prop :=
  log.Pairwise fun later earlier => earlier.1 = later.1 → earlier.2.isOk = false

/-- While there are no more keys without a template than places for them, all answers are
remembered, and the store is asked only for keys it never answered. -/
theorem Loads.remembers {log : List (TemplateKey × Answer)} (h : Loads r log s) (hr : Bounded r)
    (hnew : r.misses = []) {pool : List TemplateKey} (hpool : pool.length ≤ missLimit)
    (hsub : missed log ⊆ pool) : Remembers log s ∧ AskedOnce log := by
  induction h with
  | none => exact ⟨⟨fun _ he => absurd he List.not_mem_nil, hnew ▸ List.nil_subset _⟩, .nil⟩
  | @load log s key answer hlog hu ih =>
    have hrest : missed log ⊆ pool := by
      rw [missed_cons] at hsub
      exact List.Subset.trans (List.subset_append_right _ _) hsub
    obtain ⟨hremembers, honce⟩ := ih hrest
    refine ⟨hremembers.learn (hlog.bounded hr) hu answer hpool hsub,
      List.pairwise_cons.2 ⟨fun e he hkey => ?_, honce⟩⟩
    by_contra hok
    exact hremembers.known e he (by simpa using hok) (hkey ▸ hu)

/-- So it answers no key twice. -/
theorem AskedOnce.nodup {log : List (TemplateKey × Answer)} (h : AskedOnce log) :
    ((log.filter fun e => e.2.isOk).map (·.1)).Nodup := by
  rw [List.Nodup, List.pairwise_map, List.pairwise_filter]
  refine h.imp fun {later earlier} hfresh _ hok heq => ?_
  rw [hfresh heq.symm] at hok
  cases hok

/-! ### Runs -/

namespace State

def run (s : State) : List Step → State
  | [] => s
  | x :: rest => (s.step x).run rest

/-- What the store was asked for in a step and answered, the latest first. -/
def told (s : State) (x : Step) : List (TemplateKey × Answer) :=
  ((s.step x).resolver.calls.take
    ((s.step x).resolver.calls.length - s.resolver.calls.length)).map fun key =>
      (key, s.store.load key)

/-- What the store was asked for in a run and answered, the latest first. -/
def log (s : State) : List Step → List (TemplateKey × Answer)
  | [] => []
  | x :: rest => (s.step x).log rest ++ s.told x

end State

/-- Every step but the clearing of the memory is loads from the store as it is at the time. -/
theorem step_loads (s : State) {x : Step} (hx : x ≠ .invalidate) :
    LoadsFrom s.store s.resolver (s.step x).resolver := by
  cases x with
  | resolve screenId context => exact resolve_loads s.store s.resolver screenId context
  | warm => exact warm_loads s.store s.resolver
  | invalidate => exact absurd rfl hx
  | fail | mend | edit => exact .refl s.store s.resolver

theorem told_loads (s : State) {x : Step} (hx : x ≠ .invalidate) :
    Loads s.resolver (s.told x) (s.step x).resolver := by
  obtain ⟨log, hlog, hfrom⟩ := step_loads s hx
  have htold : s.told x = log := by
    rw [State.told, hlog.calls, List.length_append, Nat.add_sub_cancel, List.take_left,
      List.map_map]
    refine (List.map_congr_left fun e he => ?_).trans (List.map_id log)
    exact Prod.ext rfl (hfrom e he).symm
  rwa [htold]

theorem log_loads (s : State) {steps : List Step} (h : ∀ x ∈ steps, x ≠ .invalidate) :
    Loads s.resolver (s.log steps) (s.run steps).resolver := by
  induction steps generalizing s with
  | nil => exact .none
  | cons x rest ih =>
    exact (told_loads s (h x List.mem_cons_self)).trans
      (ih (s.step x) fun y hy => h y (List.mem_cons_of_mem x hy))

theorem bounded_run {s : State} (h : Bounded s.resolver) (steps : List Step) :
    Bounded (s.run steps).resolver := by
  induction steps generalizing s with
  | nil => exact h
  | cons x rest ih =>
    refine ih ?_
    by_cases hx : x = .invalidate
    · rw [hx]
      exact bounded_clear s.resolver
    · exact (told_loads s hx).bounded h

theorem size_step (s : State) {x : Step} (hx : x ≠ .invalidate) :
    s.resolver.size ≤ (s.step x).resolver.size := (told_loads s hx).documents.length_le

/-- Without the memory being cleared, and with no more keys without a template than it has
places for them, the store is asked only for keys it never answered, so each key is answered
once. In any run the misses are bounded, different and without documents, and only clearing
the memory makes the documents fewer. -/
theorem store_asked_once (contents : Store) (steps : List Step) :
    ((∀ x ∈ steps, x ≠ .invalidate) →
      (missed ((State.start contents).log steps)).dedup.length ≤ missLimit →
        AskedOnce ((State.start contents).log steps) ∧
          ((((State.start contents).log steps).filter fun e => e.2.isOk).map (·.1)).Nodup) ∧
    Bounded ((State.start contents).run steps).resolver ∧
    ∀ x, x ≠ .invalidate → ((State.start contents).run steps).resolver.size ≤
      (((State.start contents).run steps).step x).resolver.size := by
  have hstart : Bounded (State.start contents).resolver := bounded_clear empty
  refine ⟨fun hsteps hmisses => ?_, bounded_run hstart steps, fun x hx => size_step _ hx⟩
  obtain ⟨_, honce⟩ := (log_loads (State.start contents) hsteps).remembers hstart rfl hmisses
    (List.subset_dedup _)
  exact ⟨honce, honce.nodup⟩

/-- A screen is resolved for a language while the store is down, then twice while it is not. -/
def flaky : List Step :=
  let home : Step := .resolve "home" (Context.empty.withLocale "en")
  [.fail (homeOnly.failing "maintenance"), home, .mend, home, home, .warm]

/-- The variant is asked for again after the fault, and nothing after the answers. -/
theorem flaky_asked_once :
    (∀ x ∈ flaky, x ≠ .invalidate) ∧
      (missed ((State.start homeOnly).log flaky)).dedup.length ≤ missLimit ∧
      ((State.start homeOnly).log flaky).map (fun e => (e.1, e.2.isOk)) =
        [(.standard "home", true), (.ofVariant "home" "en", true),
          (.ofVariant "home" "en", false)] ∧
      ((((State.start homeOnly).log flaky).filter fun e => e.2.isOk).map (·.1)).Nodup := by
  have hsteps : ∀ x ∈ flaky, x ≠ .invalidate := by simp [flaky]
  have hmisses : (missed ((State.start homeOnly).log flaky)).dedup.length ≤ missLimit := by
    decide +kernel
  exact ⟨hsteps, hmisses, by decide +kernel,
    ((store_asked_once homeOnly flaky).1 hsteps hmisses).2⟩

end Screens.Resolver
